import BaseStation.Proofs.Stack.Station

namespace BaseStation

def Message.isFailure (message : Message) : Bool :=
  message.dest == .oml && message.primitive == .link .abisLinkFailed

variable {τ : Type} {config : SiteConfig} {station station' : Station τ} {message : Message}
  {sent messages rest : List Message} {time : FrameTime}

theorem Message.IsFollowUp.isFailure (follows : message.IsFollowUp) : message.isFailure = false := by
  have away := follows.dest_ne_oml
  simp [Message.isFailure, away]

theorem countP_isFailure (lives : ∀ message ∈ messages, message.isFailure = false) :
    messages.countP Message.isFailure = 0 :=
  List.countP_eq_zero.mpr fun message mem => Bool.eq_false_iff.mp (lives message mem)

namespace Station

structure Calm (station : Station τ) (messages : List Message) : Prop where
  manager : station.manager.stopping = false
  endpoint : station.endpoint.failed = false
  messages : ∀ message ∈ messages, message.isFailure = false

structure Failing (station : Station τ) (messages : List Message) : Prop where
  endpoint : station.endpoint.failed = true
  linkFailed : station.flags.linkFailed = true
  messages : ∃ before failure after, messages = before ++ failure :: after ∧
    failure.isFailure = true ∧ (∀ message ∈ before, message.isFailure = false) ∧
    ∀ message ∈ after, message.IsFollowUp

def Cleared (config : SiteConfig) (layer1 : Layer1) (messages : List Message) : Prop :=
  ∀ trx < config.bts.numTrx.toNat, ∀ ts < ObjectId.slots,
    (∃ message ∈ messages, message.dest = .layer1 ∧ message.primitive = .releaseTimeslot trx ts) ∨
      ∀ chan, chan.trx = trx → chan.ts = ts → layer1.isActive chan = false

structure Down (config : SiteConfig) (station : Station τ) (messages : List Message) : Prop where
  manager : station.manager.stopping = true
  endpoint : station.endpoint.failed = true
  linkFailed : station.flags.linkFailed = true
  omlDown : station.flags.omlLinkUp = false
  objects : ∀ id object, station.manager.tree.get? id = some object → object.phase = .notInstalled
  cleared : Cleared config station.layer1 messages
  messages : ∀ message ∈ messages, message.IsFollowUp

/-- Only the manager changes its mind about stopping, and only as it is told of the failure. -/
theorem Hears.steady (hears : Hears config station message station' sent)
    (lives : message.isFailure = false) : station'.manager.stopping = station.manager.stopping ∧
      station'.endpoint.failed = station.endpoint.failed ∧
      station'.flags.linkFailed = station.flags.linkFailed := by
  cases hears with
  | phy dest => exact ⟨rfl, rfl, rfl⟩
  | layer1 dest => exact ⟨rfl, rfl, rfl⟩
  | oml dest received =>
    have other : message.primitive ≠ .link .abisLinkFailed := by
      intro failed
      simp [Message.isFailure, dest, failed] at lives
    have answers := Manager.receive_answers other received
    exact ⟨answers.stopping, rfl, answers.linkFailed⟩
  | abis dest => exact ⟨rfl, (station.endpoint.receive_link config message).2.2, rfl⟩

theorem Calm.hears (calm : station.Calm (message :: rest))
    (hears : Hears config station message station' sent) : station'.Calm (rest ++ sent) := by
  obtain ⟨stopping, failed, _⟩ := hears.steady (calm.messages message List.mem_cons_self)
  refine ⟨stopping.trans calm.manager, failed.trans calm.endpoint, ?_⟩
  refine List.forall_mem_append.mpr ⟨fun other mem => ?_, fun other mem => ?_⟩
  · exact calm.messages other (List.mem_cons_of_mem _ mem)
  · exact (hears.isFollowUp other mem).isFailure

theorem Cleared.hears (cleared : Cleared config station.layer1 (message :: rest))
    (follows : message.IsFollowUp) (hears : Hears config station message station' sent) :
    Cleared config station'.layer1 (rest ++ sent) := by
  have passed (away : message.dest ≠ .layer1) : Cleared config station.layer1 (rest ++ sent) := by
    intro trx place ts slot
    refine (cleared trx place ts slot).imp_left fun ⟨other, mem, dest, releases⟩ => ?_
    rcases List.mem_cons.mp mem with rfl | later
    · exact absurd dest away
    · exact ⟨other, List.mem_append_left _ later, dest, releases⟩
  cases hears with
  | phy dest => exact passed (by rw [dest]; decide)
  | abis dest => exact passed (by rw [dest]; decide)
  | oml dest received => exact passed (by rw [dest]; decide)
  | layer1 dest =>
    obtain ⟨trx', ts', releases'⟩ : ∃ trx ts, message.primitive = .releaseTimeslot trx ts := by
      rcases follows with own | own | ⟨_, releases⟩
      · cases dest.symm.trans own
      · cases dest.symm.trans own
      · exact releases
    have received : station.layer1.receive config message =
        station.layer1.releaseTimeslot message.created trx' ts' := by
      rw [Layer1.receive, releases']
    intro trx place ts slot
    dsimp only
    rw [received]
    rcases cleared trx place ts slot with ⟨other, mem, toLayer1, releases⟩ | idle
    · rcases List.mem_cons.mp mem with rfl | later
      · cases releases'.symm.trans releases
        refine .inr fun chan sameTrx sameTs => ?_
        rw [Layer1.isActive_releaseTimeslot, if_pos ⟨sameTrx, sameTs⟩]
      · exact .inl ⟨other, List.mem_append_left _ later, toLayer1, releases⟩
    · refine .inr fun chan sameTrx sameTs => ?_
      rw [Layer1.isActive_releaseTimeslot, idle chan sameTrx sameTs, ite_self]

theorem Down.hears (down : station.Down config (message :: rest))
    (hears : Hears config station message station' sent) : station'.Down config (rest ++ sent) := by
  have follows := down.messages message List.mem_cons_self
  obtain ⟨stopping, failed, linkFailed⟩ := hears.steady follows.isFailure
  have later : ∀ other ∈ rest ++ sent, other.IsFollowUp :=
    List.forall_mem_append.mpr ⟨fun other mem => down.messages other (List.mem_cons_of_mem _ mem),
      hears.isFollowUp⟩
  have cleared := down.cleared.hears follows hears
  have away : message.dest ≠ .oml := by
    rcases follows with own | own | ⟨own, _⟩ <;> rw [own] <;> decide
  refine ⟨stopping.trans down.manager, failed.trans down.endpoint, linkFailed.trans down.linkFailed, ?_, ?_,
    cleared, later⟩
  · cases hears with
    | phy dest | layer1 dest | abis dest => exact down.omlDown
    | oml dest _ => exact absurd dest away
  · cases hears with
    | phy dest | layer1 dest | abis dest => exact down.objects
    | oml dest _ => exact absurd dest away

theorem Failing.hears (failing : station.Failing (message :: rest)) (sound : station.Sound config)
    (hears : Hears config station message station' sent) :
    station'.Failing (rest ++ sent) ∨ station'.Down config (rest ++ sent) := by
  obtain ⟨endpoint, linkFailed, before, failure, after, same, fails, lives, follow⟩ := failing
  cases before with
  | nil =>
    obtain ⟨rfl, rfl⟩ := List.cons.inj same
    obtain ⟨toManager, failed⟩ : message.dest = .oml ∧ message.primitive = .link .abisLinkFailed := by
      simpa [Message.isFailure] using fails
    have follow' := hears.isFollowUp
    cases hears with
    | phy dest | layer1 dest | abis dest => cases toManager.symm.trans dest
    | oml dest received =>
      obtain ⟨stopping, flags, objects, released⟩ :=
        Manager.receive_failure sound.objects sound.shaped failed received
      refine .inr ⟨stopping, endpoint, ?_, ?_, objects, ?_, List.forall_mem_append.mpr ⟨follow, follow'⟩⟩
      · dsimp only
        rw [flags]
        exact linkFailed
      · dsimp only
        rw [flags]
      · intro trx place ts slot
        exact .inl ⟨_, List.mem_append_right _ (released trx place ts slot), rfl, rfl⟩
  | cons first before =>
    rw [List.cons_append] at same
    obtain ⟨rfl, rfl⟩ := List.cons.inj same
    obtain ⟨_, failed, linkFailed'⟩ := hears.steady (lives message List.mem_cons_self)
    refine .inl ⟨failed.trans endpoint, linkFailed'.trans linkFailed, before, failure, after ++ sent, ?_, fails,
      fun other mem => lives other (List.mem_cons_of_mem _ mem), ?_⟩
    · rw [List.append_assoc, List.cons_append]
    · exact List.forall_mem_append.mpr ⟨follow, hears.isFollowUp⟩

theorem Calm.delivers {delivered : List Message} (calm : station.Calm messages)
    (delivers : station.Delivers config messages delivered station' rest) : station'.Calm rest :=
  delivers.keeps (P := Calm) (fun hears calm => calm.hears hears) calm

theorem Failing.delivers {delivered : List Message} (failing : station.Failing messages)
    (sound : station.Sound config) (delivers : station.Delivers config messages delivered station' []) :
    station'.Down config [] := by
  have ends := delivers.keeps
    (P := fun station messages => station.Sound config ∧
      (station.Failing messages ∨ station.Down config messages))
    (fun hears ⟨sound, stage⟩ => ⟨hears.sound sound, stage.elim (fun failing => failing.hears sound hears)
      fun down => .inr (down.hears hears)⟩)
    ⟨sound, .inl failing⟩
  rcases ends.2 with ⟨_, _, before, failure, after, waits, _⟩ | down
  · simp at waits
  · exact down

theorem Follows.delivers {delivered : List Message} (follows : station.Follows messages)
    (delivers : station.Delivers config messages delivered station' rest) : station'.Follows rest :=
  delivers.keeps (P := Follows) (fun hears follows => hears.follows follows) follows

theorem startFrame_reports (phy : Phy) (config : SiteConfig) (time : FrameTime) :
    ∀ message ∈ (phy.startFrame config time).2,
      ∃ trx, message = .ofPrimitive time (.link (.phyLinkUp trx)) := by
  intro message mem
  unfold Phy.startFrame at mem
  split at mem
  · cases mem
  · obtain ⟨trx, _, rfl⟩ := List.mem_map.mp mem
    exact ⟨trx, rfl⟩

theorem isFailure_news {news : List Message} (isNews : Abis.Endpoint.IsNews time news) :
    ∀ message ∈ news, message.isFailure = false := by
  intro message mem
  obtain ⟨control, other, rfl⟩ := isNews message mem
  simp [Message.isFailure, Message.ofPrimitive, other]

theorem dest_of_link (time : FrameTime) (control : LinkControl) :
    (Message.ofPrimitive time (.link control)).dest = .oml := by
  cases control <;> rfl

variable {effect : Effect (Abis.Endpoint τ)} {numTrx : Nat}

theorem Calm.started (calm : station.Calm messages)
    (starts : Abis.Endpoint.Starts numTrx station.flags time effect) :
    (station.started config time effect).Calm
        (messages ++ (station.phy.startFrame config time).2 ++ effect.sent) ∨
      (station.started config time effect).Failing
        (messages ++ (station.phy.startFrame config time).2 ++ effect.sent) := by
  have before : ∀ message ∈ messages ++ (station.phy.startFrame config time).2, message.isFailure = false := by
    refine List.forall_mem_append.mpr ⟨calm.messages, fun message mem => ?_⟩
    obtain ⟨trx, rfl⟩ := startFrame_reports station.phy config time message mem
    rfl
  cases starts with
  | runs sound running isNews =>
    exact .inl ⟨calm.manager, running, List.forall_mem_append.mpr ⟨before, isFailure_news isNews⟩⟩
  | @fails _ news sound failed isNews =>
    have lives := List.forall_mem_append.mpr ⟨before, isFailure_news isNews⟩
    refine .inr ⟨failed, rfl, _, .ofPrimitive time (.link .abisLinkFailed), [], ?_, rfl, lives,
      fun _ mem => absurd mem List.not_mem_nil⟩
    exact (List.append_assoc ..).symm

theorem startFrame_links (phy : Phy) (config : SiteConfig) {flags : LinkFlags}
    (starts : Abis.Endpoint.Starts numTrx flags time effect) :
    ∀ message ∈ (phy.startFrame config time).2 ++ effect.sent,
      ∃ control, message = .ofPrimitive time (.link control) := by
  have told {news : List Message} (isNews : Abis.Endpoint.IsNews time news) :
      ∀ message ∈ news, ∃ control, message = .ofPrimitive time (.link control) := by
    intro message mem
    obtain ⟨control, _, rfl⟩ := isNews message mem
    exact ⟨control, rfl⟩
  refine List.forall_mem_append.mpr ⟨fun message mem => ?_, ?_⟩
  · obtain ⟨trx, rfl⟩ := startFrame_reports phy config time message mem
    exact ⟨_, rfl⟩
  · cases starts with
    | runs _ _ isNews => exact told isNews
    | fails _ _ isNews =>
      exact List.forall_mem_append.mpr ⟨told isNews, List.forall_mem_singleton.mpr ⟨_, rfl⟩⟩

theorem Follows.started (follows : station.Follows messages)
    (starts : Abis.Endpoint.Starts numTrx station.flags time effect) :
    (station.started config time effect).Follows
      (messages ++ (station.phy.startFrame config time).2 ++ effect.sent) := by
  obtain ⟨overlooked, follows⟩ := follows
  have away : ∀ message ∈ (station.phy.startFrame config time).2 ++ effect.sent, message.dest ≠ .phy := by
    intro message mem
    obtain ⟨control, rfl⟩ := startFrame_links station.phy config starts message mem
    rw [dest_of_link]
    decide
  refine ⟨overlooked, ?_⟩
  rw [List.append_assoc, Phy.afterAll_append, Stack.afterAll_of_away away]
  intro chan params held
  apply follows chan params
  rw [Phy.params?, ← Stack.afterAll_params (Stack.startFrame_params station.phy config time).1]
  exact held

theorem Failing.countP (failing : station.Failing messages) : messages.countP Message.isFailure = 1 := by
  obtain ⟨before, failure, after, rfl, fails, lives, follow⟩ := failing.messages
  have calm := countP_isFailure lives
  have calm' := countP_isFailure fun message mem => (follow message mem).isFailure
  rw [List.countP_append, List.countP_cons, calm, calm', fails]
  rfl

end Station

end BaseStation
