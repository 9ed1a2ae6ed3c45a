import BaseStation.Proofs.Management.Support

namespace BaseStation

def Event.isRaised : Event → Bool
  | .opstartAck | .opstartNack _ | .swAct => true
  | _ => false

namespace Management

/-- An event that strands no channel: neither the lock of a channel nor the end of a shutdown. -/
def Mild (id : ObjectId) (event : Event) : Prop :=
  event ≠ .shutdownFinish ∧ (event = .disable → id.objectClass ≠ .channel)

def Action.IsMild : Action → Prop
  | .become target => target ≠ .notInstalled
  | .tell other event | .offer other event => Mild other event
  | _ => True

theorem reaction_isMild (cls : ObjectClass) (supported linked : Bool) (children : List ObjectId)
    (object : ManagedObject) {event : Event} (goes : event ≠ .shutdownFinish) :
    ∀ action ∈ reaction cls supported linked children object event, action.IsMild := by
  have tells {news : Event} (mild : news ≠ .shutdownFinish ∧ news ≠ .disable) :
      ∀ action ∈ children.map (Action.tell · news), action.IsMild := by
    intro action mem
    obtain ⟨child, _, rfl⟩ := List.mem_map.mp mem
    exact ⟨mild.1, fun locks => absurd locks mild.2⟩
  have offers {news : Event} (mild : news ≠ .shutdownFinish ∧ news ≠ .disable) :
      ∀ action ∈ children.map (Action.offer · news), action.IsMild := by
    intro action mem
    obtain ⟨child, _, rfl⟩ := List.mem_map.mp mem
    exact ⟨mild.1, fun locks => absurd locks mild.2⟩
  have installed : (Action.become (installedPhase supported)).IsMild := by
    cases supported <;> simp [Action.IsMild, installedPhase]
  cases event with
  | shutdownFinish => exact absurd rfl goes
  | shutdownStart => exact List.forall_mem_cons.mpr ⟨trivial, tells (by decide)⟩
  | swAct =>
    exact List.forall_mem_cons.mpr ⟨trivial, List.forall_mem_cons.mpr ⟨installed, tells (by decide)⟩⟩
  | omlUp =>
    simp only [reaction]
    split
    · exact List.forall_mem_cons.mpr
        ⟨trivial, List.forall_mem_cons.mpr ⟨by simp [Action.IsMild], tells (by decide)⟩⟩
    · exact List.forall_mem_cons.mpr ⟨trivial, List.forall_mem_singleton.mpr installed⟩
    · exact List.forall_mem_cons.mpr
        ⟨trivial, List.forall_mem_cons.mpr ⟨by simp [Action.IsMild], offers (by decide)⟩⟩
    · exact List.forall_mem_singleton.mpr trivial
    · exact List.forall_mem_cons.mpr ⟨trivial, offers (by decide)⟩
  | rxSetAttr _ | rxOpstart =>
    refine List.forall_mem_singleton.mpr ?_
    split <;> trivial
  | opstartNack _ => exact List.forall_mem_singleton.mpr trivial
  | opstartAck =>
    refine List.forall_mem_cons.mpr ⟨trivial, ?_⟩
    split <;> simp [Action.IsMild]
  | rslUp | phyLinkUp | rslDown | phyLinkDown | disable | bbTranscEnabled | rcarrierEnabled
  | bbTranscDisabled | rcarrierDisabled | btsEnabled | btsDisabled =>
    simp only [reaction]
    split <;> simp [Action.IsMild]

structure Site.Fit (site : Site) : Prop where
  coherent : site.tree.Coherent
  mild : ∀ waiting ∈ site.pending, Mild waiting.id waiting.event

structure Site.Spares (site site' : Site) : Prop where
  contains : ∀ id, site'.tree.contains id = site.tree.contains id
  fit : site.Fit → site'.Fit
  stranded : site.Fit → ∀ id, site'.tree.Stranded id → site.tree.Stranded id

def Spares (dispatch : Dispatcher) : Prop :=
  ∀ id event site site', Mild id event → dispatch id event site = .ok site' → site.Spares site'

variable {dispatch : Dispatcher} {id : ObjectId} {event : Event} {site site' site'' : Site}
  {object object' : ManagedObject} {bts trx : Nat}

theorem Site.Spares.refl (site : Site) : site.Spares site :=
  ⟨fun _ => rfl, fun fit => fit, fun _ _ stranded => stranded⟩

theorem Site.Spares.trans (first : site.Spares site') (last : site'.Spares site'') : site.Spares site'' where
  contains id := (last.contains id).trans (first.contains id)
  fit fit := last.fit (first.fit fit)
  stranded fit id stranded := first.stranded fit id (last.stranded (first.fit fit) id stranded)

theorem Site.Fit.put (fit : site.Fit) (found : site.tree.get? id = some object)
    (tree : site'.tree = site.tree.put id object')
    (sound : object.Sound id.objectClass → object'.Sound id.objectClass)
    (pending : ∀ waiting ∈ site'.pending, waiting ∈ site.pending ∨ Mild waiting.id waiting.event) :
    site'.Fit := by
  refine ⟨?_, ?_⟩
  · intro other placed place
    rw [tree] at place
    by_cases same : id = other
    · subst same
      cases place.symm.trans (Tree.get?_put_self object' found)
      exact sound (fit.coherent id object found)
    · rw [Tree.get?_put_of_ne site.tree object' same] at place
      exact fit.coherent other placed place
  · intro waiting mem
    rcases pending waiting mem with old | mild
    · exact fit.mild waiting old
    · exact mild

theorem Site.Spares.put (found : site.tree.get? id = some object)
    (tree : site'.tree = site.tree.put id object')
    (sound : object.Sound id.objectClass → object'.Sound id.objectClass)
    (pending : ∀ waiting ∈ site'.pending, waiting ∈ site.pending ∨ Mild waiting.id waiting.event)
    (keeps : object.Sound id.objectClass → id.IsHalf → object.isEnabled = true → object'.isEnabled = true)
    (ready : id.objectClass = .channel → object'.phase = .offline →
      object.phase = .offline ∨ supported site.tree id = true) : site.Spares site' := by
  refine ⟨fun other => ?_, fun fit => fit.put found tree sound pending, fun fit other stranded => ?_⟩
  · rw [tree]
    exact Tree.contains_modify ..
  · rw [tree] at stranded
    exact stranded.of_put found (keeps (fit.coherent id object found)) ready

theorem Site.Spares.same (tree : site'.tree = site.tree) (pending : site'.pending = site.pending) :
    site.Spares site' := by
  refine ⟨fun _ => by rw [tree], fun fit => ⟨?_, ?_⟩, fun _ _ => ?_⟩
  · rw [tree]
    exact fit.coherent
  · rw [pending]
    exact fit.mild
  · rw [tree]
    exact fun stranded => stranded

theorem spares_chains : Chains Site.Spares where
  refl _ := .refl _
  trans := .trans

theorem Spares.offer (spares : Spares dispatch) : Spares (dispatchIfAccepted dispatch) := by
  intro id event site site' mild h
  exact spares_chains.offer (fun site' => spares id event site site' mild) h

theorem start_isRaised (hardware : Hardware) (id : ObjectId) : (hardware.start id).event.isRaised = true := by
  unfold Hardware.start
  split <;> rfl

theorem run_raises {action : Action} (own : action.forOthers = false)
    (still : ∀ target, action ≠ .become target) (found : site.tree.get? id = some object)
    (h : action.run dispatch id site = .ok site') :
    ∀ waiting ∈ site'.pending, waiting ∈ site.pending ∨ waiting.event.isRaised = true := by
  have started : ∀ waiting ∈ (Management.start id site).pending,
      waiting ∈ site.pending ∨ waiting.event.isRaised = true := by
    intro waiting mem
    rcases List.mem_append.mp mem with old | new
    · exact .inl old
    · rw [List.mem_singleton.mp new]
      exact .inr (start_isRaised _ _)
  cases action with
  | become target => exact absurd rfl (still target)
  | tell _ _ | offer _ _ => cases own
  | announceShutdown =>
    rw [Action.run, publish_of_found found] at h
    cases h
    exact fun _ => .inl
  | reportSoftware =>
    cases h
    exact fun _ => .inl
  | repeatState | keep _ | acknowledge | refuse _ =>
    obtain ⟨_, _, h⟩ := Site.bind_object h
    cases h
    exact fun _ => .inl
  | start =>
    cases h
    exact started
  | startConfigured =>
    obtain ⟨_, _, h⟩ := Site.bind_object h
    split at h
    · cases h
      exact started
    · cases h
      exact fun _ => .inl
  | apply attributes =>
    obtain ⟨_, _, h⟩ := Site.bind_object h
    split at h
    · rename_i hardware events applied
      cases h
      intro waiting mem
      rcases List.mem_append.mp mem with old | new
      · exact .inl old
      · obtain ⟨p, bts, trx, rfl⟩ := applyAttributes_raises applied waiting new
        exact .inr rfl
    · cases h
      exact fun _ => .inl

theorem run_pending {action : Action} (own : action.forOthers = false)
    (still : ∀ target, action ≠ .become target) (found : site.tree.get? id = some object)
    (h : action.run dispatch id site = .ok site') :
    ∀ waiting ∈ site'.pending, waiting ∈ site.pending ∨ Mild waiting.id waiting.event := by
  intro waiting mem
  refine (run_raises own still found h waiting mem).imp_right fun raised => ⟨?_, ?_⟩
  · intro finish
    rw [finish] at raised
    cases raised
  · intro locks
    rw [locks] at raised
    cases raised

theorem Action.Makes.alike {cls : ObjectClass} {action : Action}
    (still : ∀ target, action ≠ .become target) (makes : action.Makes cls object object') :
    object.Alike object' := by
  cases action with
  | become target => exact absurd rfl (still target)
  | apply attributes => rcases makes with rfl | rfl <;> exact ⟨rfl, rfl⟩
  | tell _ _ | offer _ _ => cases makes
  | _ =>
    cases makes
    exact ⟨rfl, rfl⟩

theorem run_spares {action : Action} (own : action.forOthers = false)
    (still : ∀ target, action ≠ .become target) (h : action.run dispatch id site = .ok site')
    (found : site.tree.get? id = some object) : site.Spares site' := by
  obtain ⟨object', makes, tree⟩ := run_makes own still found h
  have alike := makes.alike still
  refine .put found tree makes.sound (run_pending own still found h) ?_ ?_
  · rw [alike.enabled]
    exact fun _ _ enabled => enabled
  · rw [alike.phase]
    exact fun _ => .inl

/-- A channel that hears of an event is all that changes. -/
theorem channel_hears {depth : Nat} (isChannel : id.objectClass = .channel)
    (quiet : event.isRequest = false) (found : site.tree.get? id = some object)
    (h : dispatchWithin depth id event site = .ok site') :
    site'.tree = site.tree.put id (object.offered .channel (supported site.tree id) event) ∧
      site'.pending = site.pending := by
  cases depth with
  | zero => cases h
  | succ depth =>
    obtain ⟨_, same, accepted, _⟩ := performed_of_dispatchWithin h
    cases found.symm.trans same
    have alone : id.objectClass.keepsOutcome = true := by rw [isChannel]; rfl
    have heard := Tree.hear?_alone depth alone quiet found accepted
    obtain ⟨ended, ran, tree, pending⟩ := dispatchWithin_follows (depth + 1) id event site _ heard
    cases ran.symm.trans h
    rw [isChannel] at tree
    exact ⟨tree, pending⟩

theorem channel_spares {depth : Nat} (isChannel : id.objectClass = .channel) (mild : Mild id event)
    (h : dispatchWithin (depth + 1) id event site = .ok site') : site.Spares site' := by
  obtain ⟨object, found, accepted, performed⟩ := performed_of_dispatchWithin h
  have found' : (site.record (.dispatched id event.kind)).tree.get? id = some object := found
  have recorded : site.Spares (site.record (.dispatched id event.kind)) := .same rfl rfl
  have asks {action : Action} (own : action.forOthers = false) (still : ∀ target, action ≠ .become target)
      (performed : perform (dispatchWithin depth) id [action]
        (site.record (.dispatched id event.kind)) = .ok site') : site.Spares site' := by
    rw [perform_single] at performed
    exact recorded.trans (run_spares own still performed found')
  cases quiet : event.isRequest with
  | false =>
    obtain ⟨tree, pending⟩ := channel_hears isChannel quiet found h
    have unlocked : event ≠ .disable := fun locks => mild.2 locks isChannel
    refine .put found tree ?_ ?_ ?_ ?_
    · rw [isChannel]
      exact fun sound => sound.offered _ _
    · rw [pending]
      exact fun _ => .inl
    · exact fun _ half => absurd isChannel half.apart
    · exact fun _ => ManagedObject.offered_channel_offline unlocked _
  | true =>
    cases event with
    | rxSetAttr attributes =>
      simp only [reactionIn, reaction, isChannel] at performed
      exact asks rfl (by rintro _ ⟨⟩) performed
    | rxOpstart =>
      simp only [reactionIn, reaction, isChannel] at performed
      exact asks rfl (by rintro _ ⟨⟩) performed
    | _ => cases quiet

theorem notice?_mild {cls : ObjectClass} {previous target : Phase}
    (h : notice? cls previous target = some event) (id : ObjectId) : Mild id event := by
  cases cls <;> cases previous <;> cases target <;> cases h <;> exact ⟨by rintro ⟨⟩, by rintro ⟨⟩⟩

theorem giveNotice_spares (spares : Spares dispatch) {previous target : Phase}
    (h : giveNotice dispatch id previous target site = .ok site') : site.Spares site' :=
  spares_chains.notice (fun id' event site site' notice =>
    spares id' event site site' (notice?_mild notice id')) h

theorem channel_offered {depth : Nat} (isChannel : id.objectClass = .channel)
    (quiet : event.isRequest = false) (found : site.tree.get? id = some object)
    (h : dispatchIfAccepted (dispatchWithin depth) id event site = .ok site') :
    site'.tree = site.tree.put id (object.offered .channel (supported site.tree id) event) ∧
      site'.pending = site.pending := by
  cases accepted : Machine.accepts id.objectClass object.phase event.kind with
  | true =>
    rw [dispatchIfAccepted_of_accepted _ found accepted] at h
    exact channel_hears isChannel quiet found h
  | false =>
    rw [dispatchIfAccepted_of_refused _ found accepted] at h
    cases h
    rw [isChannel] at accepted
    rw [ManagedObject.offered, if_neg (by simp [accepted]), Tree.put_self found]
    exact ⟨rfl, rfl⟩

theorem found_of_dispatchIfAccepted (h : dispatchIfAccepted dispatch id event site = .ok site') :
    ∃ object, site.tree.get? id = some object := by
  obtain ⟨_, tried, _⟩ := bind_eq_ok h
  obtain ⟨_, looked, _⟩ := bind_eq_ok tried
  obtain ⟨object, found, _⟩ := Site.bind_object looked
  exact ⟨object, found⟩

theorem loss_relieves {depth : Nat} (isChannel : id.objectClass = .channel)
    (loss : ManagedObject.IsLoss event)
    (h : dispatchIfAccepted (dispatchWithin depth) id event site = .ok site') :
    ¬ site'.tree.Stranded id := by
  rintro ⟨channel, _, place, offline, stuck⟩
  have quiet : event.isRequest = false := by rcases loss with rfl | rfl <;> rfl
  obtain ⟨object, found⟩ := found_of_dispatchIfAccepted h
  obtain ⟨tree, _⟩ := channel_offered isChannel quiet found h
  rw [tree] at place stuck
  cases place.symm.trans (Tree.get?_put_self _ found)
  have supported := ManagedObject.offered_channel_loss loss _ offline
  have stuck := Tree.supported_put found (fun half => absurd isChannel half.apart) isChannel stuck
  cases supported.symm.trans stuck

theorem losses_relieve {depth : Nat} (spares : Spares (dispatchWithin depth)) (ids : List ObjectId)
    (loss : ManagedObject.IsLoss event) (mild : ∀ id, Mild id event)
    (channels : ∀ id ∈ ids, id.objectClass = .channel) (fit : site.Fit)
    (h : dispatchEach (dispatchIfAccepted (dispatchWithin depth)) ids event site = .ok site') :
    ∀ id ∈ ids, ¬ site'.tree.Stranded id := by
  induction ids generalizing site with
  | nil => exact fun _ mem => absurd mem List.not_mem_nil
  | cons id rest ih =>
    rw [dispatchEach, List.foldlM_cons] at h
    obtain ⟨middle, first, last⟩ := bind_eq_ok h
    have fit' := (spares.offer id event site middle (mild id) first).fit fit
    have kept := spares_chains.foldlM rest
      (fun id _ site site' => spares.offer id event site site' (mild id)) last
    intro other mem
    rcases List.mem_cons.mp mem with rfl | mem
    · intro stranded
      exact loss_relieves (channels _ List.mem_cons_self) loss first (kept.stranded fit' _ stranded)
    · exact ih (fun id mem => channels id (List.mem_cons_of_mem _ mem)) fit' last other mem

theorem mem_channelIds_isChannel {tree : Tree} (mem : id ∈ tree.channelIds bts trx) :
    id.objectClass = .channel := by
  unfold Tree.channelIds at mem
  split at mem
  · exact absurd mem List.not_mem_nil
  · obtain ⟨ts, _, rfl⟩ := List.mem_map.mp mem
    rfl

theorem entered_sound {cls : ObjectClass} {target : Phase}
    (mayMove : Machine.mayMove cls object.phase target = true) (sound : object.Sound cls) :
    (object.entered cls target).Sound cls := by
  have made : (Action.become target).alone? cls object = some (object.entered cls target) := if_pos mayMove
  exact sound.alone made

theorem settle_spares {target : Phase} (apart : id.objectClass ≠ .channel)
    (found : site.tree.get? id = some object)
    (mayMove : Machine.mayMove id.objectClass object.phase target = true)
    (keeps : id.IsHalf → target = .enabled ∨ object.phase ≠ .enabled) :
    site.Spares (site.settle id object target) := by
  refine .put found rfl (entered_sound mayMove) (fun _ => .inl) ?_ fun isChannel => absurd isChannel apart
  intro sound half enabled
  rcases keeps half with rfl | idle
  · rfl
  · exact absurd (sound.enabled.mp enabled) idle

theorem part_offline_spares {depth : Nat} (spares : Spares (dispatchWithin depth)) {p : Half}
    (found : site.tree.get? (p.id bts trx) = some object) (running : object.phase = .enabled)
    (h : changePhaseWith (dispatchWithin depth) (p.id bts trx) .offline site = .ok site') :
    site.Spares site' := by
  have mayMove : Machine.mayMove (p.id bts trx).objectClass object.phase .offline = true := by
    rw [running]
    cases p <;> rfl
  rw [changePhaseWith_of_found _ found mayMove, running] at h
  let settled := site.settle (p.id bts trx) object .offline
  have told : ∃ event, ManagedObject.IsLoss event ∧ (∀ id, Mild id event) ∧
      dispatchEach (dispatchIfAccepted (dispatchWithin depth)) (settled.tree.channelIds bts trx) event
        settled = .ok site' := by
    cases p with
    | carrier => exact ⟨.rcarrierDisabled, .inr rfl, fun _ => ⟨by rintro ⟨⟩, by rintro ⟨⟩⟩, h⟩
    | baseband => exact ⟨.bbTranscDisabled, .inl rfl, fun _ => ⟨by rintro ⟨⟩, by rintro ⟨⟩⟩, h⟩
  obtain ⟨event, loss, mild, told⟩ := told
  have notified := giveNotice_spares spares h
  have fits (fit : site.Fit) : settled.Fit := fit.put found rfl (entered_sound mayMove) fun _ => .inl
  -- the channels of the transceiver may be stranded until they are told
  refine ⟨fun id => (notified.contains id).trans (Tree.contains_modify ..),
    fun fit => notified.fit (fits fit), fun fit id stranded => ?_⟩
  refine (notified.stranded (fits fit) id stranded).of_put_part fun mem => ?_
  exact losses_relieve spares _ loss mild (fun _ => mem_channelIds_isChannel) (fits fit) told id mem stranded

theorem become_spares {depth : Nat} (spares : Spares (dispatchWithin depth)) {target : Phase}
    (stays : target ≠ .notInstalled) (apart : id.objectClass ≠ .channel)
    (h : changePhaseWith (dispatchWithin depth) id target site = .ok site') : site.Spares site' := by
  obtain ⟨object, found, mayMove⟩ := found_of_changePhaseWith h
  by_cases leaves : id.IsHalf ∧ target ≠ .enabled ∧ object.phase = .enabled
  · obtain ⟨⟨p, bts, trx, rfl⟩, away, running⟩ := leaves
    cases target with
    | notInstalled => exact absurd rfl stays
    | enabled => exact absurd rfl away
    | dependency => cases p <;> cases mayMove
    | offline => exact part_offline_spares spares found running h
  · rw [changePhaseWith_of_found _ found mayMove] at h
    refine (settle_spares apart found mayMove fun half => ?_).trans (giveNotice_spares spares h)
    by_cases up : target = .enabled
    · exact .inl up
    · exact .inr fun running => leaves ⟨half, up, running⟩

theorem action_spares {depth : Nat} (spares : Spares (dispatchWithin depth))
    (apart : id.objectClass ≠ .channel) {action : Action} (mild : action.IsMild)
    (present : site.tree.contains id = true)
    (h : action.run (dispatchWithin depth) id site = .ok site') : site.Spares site' := by
  obtain ⟨object, found⟩ := Option.isSome_iff_exists.mp present
  cases action with
  | become target => exact become_spares spares mild apart h
  | tell other event => exact spares other event site site' mild h
  | offer other event => exact spares.offer other event site site' mild h
  | _ => exact run_spares rfl (by rintro _ ⟨⟩) h found

theorem perform_spares {depth : Nat} (spares : Spares (dispatchWithin depth))
    (apart : id.objectClass ≠ .channel) {actions : List Action} (mild : ∀ action ∈ actions, action.IsMild)
    (present : site.tree.contains id = true)
    (h : perform (dispatchWithin depth) id actions site = .ok site') : site.Spares site' := by
  induction actions generalizing site with
  | nil =>
    cases h
    exact .refl _
  | cons action rest ih =>
    rw [perform_cons] at h
    obtain ⟨middle, first, last⟩ := bind_eq_ok h
    have begins := action_spares spares apart (mild action List.mem_cons_self) present first
    refine begins.trans (ih (fun other mem => mild other (List.mem_cons_of_mem _ mem)) ?_ last)
    rw [begins.contains]
    exact present

/-- Mild events strand no channel, whatever they lead to. -/
theorem dispatchWithin_spares (depth : Nat) : Spares (dispatchWithin depth) := by
  induction depth with
  | zero =>
    intro id event site site' _ h
    cases h
  | succ depth ih =>
    intro id event site site' mild h
    by_cases isChannel : id.objectClass = .channel
    · exact channel_spares isChannel mild h
    · obtain ⟨object, found, _, h⟩ := performed_of_dispatchWithin h
      have recorded : site.Spares (site.record (.dispatched id event.kind)) := .same rfl rfl
      refine recorded.trans (perform_spares ih isChannel ?_ ?_ h)
      · exact reaction_isMild _ _ _ _ object mild.1
      · exact Option.isSome_iff_exists.mpr ⟨object, found⟩

end Management

end BaseStation
