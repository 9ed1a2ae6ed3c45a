import BaseStation.Proofs.Management.Reports

namespace BaseStation

open Management

namespace Tree

theorem get?_modifyTransceiver_links {tree : Tree} {bts trx : Nat} {f : Transceiver → Transceiver}
    (keep : ∀ t, (f t).carrier = t.carrier ∧ (f t).baseband = t.baseband ∧
      (f t).channels = t.channels) (id : ObjectId) :
    (tree.modifyTransceiver bts trx f).get? id = tree.get? id := by
  obtain ⟨root, nse, btsSame⟩ := get?_modifyTransceiver_outer tree bts trx f
  have same {α : Type} (view : Transceiver → α) (keeps : ∀ t, view (f t) = view t) (b t : Nat) :
      ((tree.modifyTransceiver bts trx f).transceiver? b t).map view =
        (tree.transceiver? b t).map view := by
    by_cases eq : bts = b ∧ trx = t
    · obtain ⟨rfl, rfl⟩ := eq
      rw [transceiver?_modifyTransceiver_self]
      cases tree.transceiver? bts trx with
      | none => rfl
      | some t => exact congrArg some (keeps t)
    · rw [transceiver?_modifyTransceiver_of_ne]
      exact Decidable.not_and_iff_not_or_not.mp eq
  cases id with
  | siteManager => exact root
  | gprsNse => exact nse
  | bts b => exact btsSame b
  | radioCarrier b t => exact same (·.carrier) (fun t => (keep t).1) b t
  | basebandTransceiver b t => exact same (·.baseband) (fun t => (keep t).2.1) b t
  | channel b t ts =>
    have slots := same (fun t => t.channels[ts]?) (fun t => by rw [(keep t).2.2]) b t
    simp only [get?]
    cases first : (tree.modifyTransceiver bts trx f).transceiver? b t <;>
      cases second : tree.transceiver? b t <;> simp_all

theorem get?_dropRsl (tree : Tree) (id : ObjectId) : tree.dropRsl.get? id = tree.get? id := by
  have found (bts trx : Nat) : tree.dropRsl.transceiver? bts trx =
      (tree.transceiver? bts trx).map fun t => { t with rslUp := false } := by
    by_cases first : bts = 0 <;> simp [dropRsl, transceiver?, first]
  cases id with
  | siteManager | gprsNse => rfl
  | bts b => rfl
  | radioCarrier b t | basebandTransceiver b t | channel b t ts =>
    simp only [get?, found]
    cases tree.transceiver? b t <;> rfl

theorem get?_fresh {numTrx : Nat} {need dummy : Bool} {id : ObjectId} {object : ManagedObject}
    (found : (Tree.fresh numTrx need dummy).get? id = some object) : object = .fresh := by
  have transceiver {bts trx : Nat} {t : Transceiver}
      (found : (Tree.fresh numTrx need dummy).transceiver? bts trx = some t) : t = .fresh :=
    List.eq_of_mem_replicate (List.mem_of_getElem? (transceiver?_some found).2)
  cases id with
  | siteManager | gprsNse => exact (Option.some.inj found).symm
  | bts b =>
    simp only [get?] at found
    split at found <;> cases found
    rfl
  | radioCarrier b t | basebandTransceiver b t =>
    simp only [get?, Option.map_eq_some_iff] at found
    obtain ⟨t, found, rfl⟩ := found
    rw [transceiver found]
    rfl
  | channel b t ts =>
    simp only [get?, Option.bind_eq_some_iff] at found
    obtain ⟨t, found, slot⟩ := found
    rw [transceiver found] at slot
    exact List.eq_of_mem_replicate (List.mem_of_getElem? slot)

end Tree

namespace Manager

variable {manager : Manager} {roused : Prop} {flags : LinkFlags} {effect : Effect Manager}

structure Told (roused : Prop) (manager : Manager) (effect : Effect Manager) (log : List Entry) :
    Prop where
  sent : effect.sent.map (·.primitive) = primitives log
  trace : manager.tracing = true → effect.state.trace = manager.trace ++ traces log
  agrees : ∀ view, Agrees view manager.tree → Agrees (seen view log) effect.state.tree
  justified : ∀ view, Agrees view manager.tree → Justified view none log
  roused : ∀ id, Trace.dispatched id .omlUp ∈ traces log → roused

theorem told_silent (roused : Prop) (manager : Manager) (flags : LinkFlags) :
    Told roused manager (.silent manager flags) [] :=
  ⟨rfl, fun _ => (List.append_nil _).symm, fun _ agrees => agrees, fun _ _ => trivial,
    fun _ mem => absurd mem List.not_mem_nil⟩

theorem ofPrimitive_primitive (time : FrameTime) (said : List Primitive) :
    (said.map (Message.ofPrimitive time)).map (·.primitive) = said := by
  rw [List.map_map]
  exact List.map_id'' (fun _ => rfl) said

theorem run_told {step : Step} {time : FrameTime} (roused : Prop)
    (logged : ∀ site, step (.quiet manager.tree manager.hardware) = .ok site →
      ∃ log, Logged roused (.quiet manager.tree manager.hardware) log site)
    (received : manager.run flags time step = .ok effect) :
    ∃ log, Told roused manager effect log := by
  obtain ⟨site, first, received⟩ := bind_eq_ok received
  obtain ⟨site', settled, last⟩ := bind_eq_ok received
  cases last
  obtain ⟨log, before⟩ := logged site first
  have idle := before.waiting fun _ mem => absurd mem List.not_mem_nil
  obtain ⟨log', after⟩ := runAtMost_logged roused _ idle settled
  have total := before.trans after
  refine ⟨log ++ log', ?_, ?_, total.agrees, total.justified, total.roused⟩
  · rw [ofPrimitive_primitive]
    exact total.outputs
  · intro tracing
    show (if manager.tracing = true then manager.trace ++ site'.trace else _) = _
    rw [if_pos tracing, total.trace]
    rfl

theorem receiveRequest_told {request : Request} {time : FrameTime}
    (received : manager.receiveRequest flags time request = .ok effect) :
    ∃ log, Told roused manager effect log := by
  rw [receiveRequest_eq] at received
  split at received
  · refine run_told roused ?_ received
    intro site ran
    cases request with
    | setAttributes id attributes => exact dispatch_logged roused dispatch_logs ran (by rintro ⟨⟩)
    | start id => exact dispatch_logged roused dispatch_logs ran (by rintro ⟨⟩)
    | changeAdmin id admin => exact changeAdmin_logged ran
  · cases received
    refine ⟨[.said (.report (.nack request.id request.procedure .objInstanceUnknown))], rfl,
      fun _ => (List.append_nil _).symm, fun _ agrees => agrees, fun _ _ => ⟨trivial, trivial⟩,
      fun _ mem => absurd mem List.not_mem_nil⟩

theorem Told.relink {tree : Tree} {log : List Entry}
    (told : Told roused { manager with tree := tree } effect log)
    (same : ∀ id, tree.get? id = manager.tree.get? id) : Told roused manager effect log := by
  have agrees {view : ObjectId → ObjectState} (h : Agrees view manager.tree) : Agrees view tree :=
    fun id object found => h id object ((same id).symm.trans found)
  exact ⟨told.sent, told.trace, fun view h => told.agrees view (agrees h),
    fun view h => told.justified view (agrees h), told.roused⟩

theorem receiveLink_told {control : LinkControl} {time : FrameTime}
    (received : manager.receiveLink flags time control = .ok effect) :
    ∃ log, Told (control = .omlLinkUp) manager effect log := by
  have tell {trx : Nat} {events : List Event} {f : Transceiver → Transceiver} {flags : LinkFlags}
      {roused : Prop} (received : { manager with tree := manager.tree.modifyTransceiver 0 trx f }.run
        flags time (tellTransceiver trx events) = .ok effect)
      (keep : ∀ t, (f t).carrier = t.carrier ∧ (f t).baseband = t.baseband ∧
        (f t).channels = t.channels) (idle : ∀ event ∈ events, event ≠ .omlUp) :
      ∃ log, Told roused manager effect log := by
    obtain ⟨log, told⟩ := run_told roused (fun _ ran => tellTransceiver_logged idle ran) received
    exact ⟨log, told.relink (Tree.get?_modifyTransceiver_links keep)⟩
  rw [receiveLink_eq] at received
  cases control with
  | phyLinkUp trx | phyLinkDown trx | rslLinkUp trx =>
    dsimp only at received
    split at received
    · exact tell received (fun _ => ⟨rfl, rfl, rfl⟩) (by decide)
    · cases received
      exact ⟨[], told_silent ..⟩
  | omlLinkUp =>
    exact run_told _ (fun _ ran => dispatch_logged _ dispatch_logs.offer ran fun _ => rfl) received
  | abisLinkFailed =>
    obtain ⟨effect', ran, last⟩ := bind_eq_ok received
    cases last
    obtain ⟨log, told⟩ := run_told False (fun _ ran => tearDown_logged ran) ran
    have told := told.relink (Tree.get?_dropRsl manager.tree)
    exact ⟨log, told.sent, told.trace, told.agrees, told.justified, fun id mem => (told.roused id mem).elim⟩

theorem receive_told {message : Message} (received : manager.receive flags message = .ok effect) :
    ∃ log, Told (message.primitive = .link .omlLinkUp) manager effect log := by
  rw [receive_eq] at received
  split at received
  · exact receiveRequest_told received
  · rename_i control linked
    obtain ⟨log, told⟩ := receiveLink_told received
    exact ⟨log, told.sent, told.trace, told.agrees, told.justified,
      fun id mem => by rw [told.roused id mem] at linked; exact linked⟩
  · cases received
    exact ⟨[], told_silent ..⟩

theorem Run.agrees {start : Manager} {sent : List Primitive} (run : Run start sent manager)
    (agrees : Agrees (fun _ => .initial) start.tree) :
    Agrees (fun id => replay id .initial sent) manager.tree := by
  induction run with
  | start => exact agrees
  | receive flags message _ received ih =>
    obtain ⟨log, told⟩ := receive_told received
    intro id object found
    rw [← told.agrees _ ih id object found, seen_eq_replay, told.sent]
    exact List.foldl_append

theorem Fresh.agrees {start : Manager} (fresh : Fresh start) :
    Agrees (fun _ => .initial) start.tree := by
  obtain ⟨config, hardware, tracing, rfl⟩ := fresh
  intro id object found
  rw [Tree.get?_fresh found]
  rfl

/-- Replayed from the reports, the state of every object is the one it publishes, in every state a
manager can reach. Whatever it receives next, a report that tells the BSC nothing new is sent only as the
link to the BSC comes up, and just as its object has been told so. -/
theorem reports_agree {start : Manager} {sent : List Primitive} (fresh : Fresh start)
    (run : Run start sent manager) :
    (∀ id object, manager.tree.get? id = some object →
      replay id .initial sent = object.published) ∧
    ∀ flags message effect, manager.receive flags message = .ok effect →
      ∃ log, primitives log = effect.sent.map (·.primitive) ∧
        (manager.tracing = true → effect.state.trace = manager.trace ++ traces log) ∧
        ∀ before id state after,
          log = before ++ .said (.report (.stateChanged id state)) :: after →
          replay id .initial (sent ++ primitives before) = state →
          message.primitive = .link .omlLinkUp ∧
            ∃ earlier, before = earlier ++ [.did (.dispatched id .omlUp)] := by
  have agrees := run.agrees fresh.agrees
  refine ⟨agrees, ?_⟩
  intro flags message effect received
  obtain ⟨log, told⟩ := receive_told received
  refine ⟨log, told.sent.symm, told.trace, ?_⟩
  rintro before id state after rfl known
  have justified := (justified_append.mp (told.justified _ agrees)).2.1
  have known : seen (fun id => replay id .initial sent) before id = state := by
    rw [seen_eq_replay, ← known]
    exact List.foldl_append.symm
  have last : before.getLast? = some (.did (.dispatched id .omlUp)) := by
    simpa using justified known
  obtain ⟨earlier, rfl⟩ := List.getLast?_eq_some_iff.mp last
  refine ⟨told.roused id ?_, earlier, rfl⟩
  simp [traces, Entry.trace?]

theorem reports_agree_linked :
    ∃ manager sent, Run (ofConfig (.ofHosts ["bsc"]) (.fresh 1)) sent manager ∧
      manager.tree.siteManager.published = ⟨.disabled, .offLine, .locked⟩ ∧
      replay .siteManager .initial sent = ⟨.disabled, .offLine, .locked⟩ := by
  have received : ∃ effect object, (ofConfig (.ofHosts ["bsc"]) (.fresh 1)).receive .initial
      (.ofPrimitive ⟨0⟩ (.link .omlLinkUp)) = .ok effect ∧
      effect.state.tree.get? .siteManager = some object ∧
      object.published = ⟨.disabled, .offLine, .locked⟩ :=
    ⟨_, _, rfl, rfl, rfl⟩
  obtain ⟨effect, object, received, found, down⟩ := received
  have run := Run.receive .initial (.ofPrimitive ⟨0⟩ (.link .omlLinkUp)) .start received
  have known := (reports_agree ⟨_, _, false, rfl⟩ run).1 .siteManager object found
  cases found
  exact ⟨effect.state, _, run, down, known.trans down⟩

end Manager

end BaseStation
