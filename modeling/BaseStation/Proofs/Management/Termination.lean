import Mathlib.Data.List.Chain
import BaseStation.Proofs.Management.Execution
import BaseStation.Proofs.Management.Throughout

namespace BaseStation.Management

/-- From one site to the other the equipment raised events, none of them a request, and none unless it was asked. -/
def Raises (asked : Prop) (site site' : Site) : Prop :=
  ∃ raised, site'.pending = site.pending ++ raised ∧ (∀ waiting ∈ raised, waiting.event.isRequest = false) ∧
    (¬ asked → raised = [])

section raises

variable {asked : Prop} {site middle site' : Site} {id : ObjectId} {event : Event} {object : ManagedObject}

theorem Raises.same (kept : site'.pending = site.pending) : Raises asked site site' :=
  ⟨[], kept.trans (List.append_nil _).symm, fun _ mem => absurd mem List.not_mem_nil, fun _ => rfl⟩

theorem Raises.trans (first : Raises asked site middle) (last : Raises asked middle site') :
    Raises asked site site' := by
  obtain ⟨raised, grown, quiet, spares⟩ := first
  obtain ⟨raised', grown', quiet', spares'⟩ := last
  refine ⟨raised ++ raised', ?_, List.forall_mem_append.mpr ⟨quiet, quiet'⟩, fun idle => ?_⟩
  · rw [grown', grown, List.append_assoc]
  · rw [spares idle, spares' idle]
    rfl

theorem Raises.mono {asked' : Prop} (raises : Raises asked site site') (due : asked → asked') :
    Raises asked' site site' := by
  obtain ⟨raised, grown, quiet, spares⟩ := raises
  exact ⟨raised, grown, quiet, fun idle => spares (idle ∘ due)⟩

theorem start_isRequest (hardware : Hardware) (id : ObjectId) : (hardware.start id).event.isRequest = false := by
  rw [start_eq]
  cases hardware.refusedStart.lookup id <;> rfl

theorem applyAttributes_isRequest {hardware hardware' : Hardware} {attributes : Attributes}
    {events : List PendingEvent} (applied : hardware.applyAttributes id attributes = .ok (hardware', events)) :
    ∀ waiting ∈ events, waiting.event.isRequest = false := by
  intro waiting mem
  obtain ⟨p, bts, trx, rfl⟩ := applyAttributes_raises applied waiting mem
  rfl

theorem start_raises (id : ObjectId) (site : Site) (due : asked) : Raises asked site (start id site) :=
  ⟨[site.hardware.start id], rfl, List.forall_mem_singleton.mpr (start_isRequest _ id), (absurd due ·)⟩

theorem raises_of_alone {dispatch : Dispatcher} {action : Action} (own : action.forOthers = false)
    (still : ∀ target, action ≠ .become target) (fits : action.Fits id event)
    (ran : action.run dispatch id site = .ok site') : Raises (event.isRequest = true) site site' := by
  cases action with
  | tell _ _ | offer _ _ => cases own
  | become target => exact absurd rfl (still target)
  | reportSoftware =>
    cases ran
    exact .same rfl
  | start =>
    cases ran
    exact start_raises id site fits
  | announceShutdown =>
    obtain ⟨object, found, _⟩ := Site.bind_object ran
    rw [Action.run, publish_of_found found] at ran
    cases ran
    exact .same rfl
  | startConfigured =>
    obtain ⟨object, _, ran⟩ := Site.bind_object ran
    split at ran <;> cases ran
    · exact start_raises id site fits
    · exact .same rfl
  | apply attributes =>
    obtain ⟨object, _, ran⟩ := Site.bind_object ran
    split at ran
    · rename_i hardware events applied
      cases ran
      exact ⟨events, rfl, applyAttributes_isRequest applied, (absurd fits ·)⟩
    · cases ran
      exact .same rfl
  | repeatState | keep _ | acknowledge | refuse _ =>
    obtain ⟨object, _, ran⟩ := Site.bind_object ran
    cases ran
    exact .same rfl

end raises

def Activity.ToldBy (inner outer : Activity) : Prop :=
  Informs outer.id inner.id ∧ inner.event.isRequest = false

theorem Activity.length_le_of_toldBy {activity : Activity} {others : List Activity}
    (chain : (activity :: others).IsChain ToldBy) : (activity :: others).length + activity.id.rank ≤ nesting := by
  induction others generalizing activity with
  | nil =>
    have low := activity.id.rank_lt
    rw [List.length_singleton]
    omega
  | cons next others ih =>
    obtain ⟨told, chain⟩ := List.isChain_cons_cons.mp chain
    have lower := told.1.rank_lt
    have later := ih chain
    rw [List.length_cons]
    omega

namespace Execution

/-- What holds throughout an execution that began with an event at a site. -/
structure Orderly (site : Site) (event : Event) (execution : Execution) : Prop where
  chain : execution.activities.IsChain Activity.ToldBy
  fits : ∀ activity ∈ execution.activities, ∀ action ∈ activity.actions, action.Fits activity.id activity.event
  asked : ∀ activity ∈ execution.activities, activity.event.isRequest = true → event.isRequest = true
  raises : Raises (event.isRequest = true) site execution.site

variable {site middle site' : Site} {begun event : Event} {id : ObjectId} {execution next : Execution}
  {actions actions' : List Action} {others : List Activity}

namespace Orderly

theorem length_le (orderly : Orderly site begun execution) : execution.activities.length ≤ nesting := by
  obtain ⟨activities, last⟩ := execution
  cases activities with
  | nil => exact Nat.zero_le _
  | cons activity others =>
    exact Nat.le_trans (Nat.le_add_right _ _) (Activity.length_le_of_toldBy orderly.chain)

theorem resume (orderly : Orderly site begun ⟨⟨id, event, actions⟩ :: others, middle⟩)
    (fits : ∀ action ∈ actions', action.Fits id event) (raises : Raises (event.isRequest = true) middle site') :
    Orderly site begun ⟨⟨id, event, actions'⟩ :: others, site'⟩ where
  chain := by
    obtain ⟨told, chain⟩ := List.isChain_cons.mp orderly.chain
    exact chain.cons told
  fits := List.forall_mem_cons.mpr ⟨fits, fun activity mem => orderly.fits activity (List.mem_cons_of_mem _ mem)⟩
  asked := List.forall_mem_cons.mpr (List.forall_mem_cons.mp orderly.asked)
  raises := orderly.raises.trans (raises.mono (orderly.asked _ List.mem_cons_self))

theorem leave (orderly : Orderly site begun ⟨⟨id, event, actions⟩ :: others, middle⟩) :
    Orderly site begun ⟨others, middle⟩ where
  chain := orderly.chain.tail
  fits := fun activity mem => orderly.fits activity (List.mem_cons_of_mem _ mem)
  asked := fun activity mem => orderly.asked activity (List.mem_cons_of_mem _ mem)
  raises := orderly.raises

theorem tell {other : ObjectId} {told : Event} (orderly : Orderly site begun execution)
    (chain : ∀ activity ∈ execution.activities.head?, Informs activity.id other ∧ told.isRequest = false)
    (asked : told.isRequest = true → begun.isRequest = true) (taken : execution.tell other told = .ok next) :
    Orderly site begun next := by
  obtain ⟨object, _, taken⟩ := Site.bind_object taken
  obtain ⟨_, _, taken⟩ := bind_eq_ok taken
  cases taken
  exact {
    chain := orderly.chain.cons chain
    fits := List.forall_mem_cons.mpr ⟨reactionIn_fits _ _ _ _, orderly.fits⟩
    asked := List.forall_mem_cons.mpr ⟨asked, orderly.asked⟩
    raises := orderly.raises.trans (.same rfl) }

theorem ask {other : ObjectId} {told : Event}
    (orderly : Orderly site begun ⟨⟨id, event, actions⟩ :: others, middle⟩)
    (fits : Informs id other ∧ told.isRequest = false)
    (taken : Execution.tell other told ⟨⟨id, event, actions⟩ :: others, middle⟩ = .ok next) :
    Orderly site begun next := by
  refine orderly.tell (fun activity mem => ?_) (fun request => ?_) taken
  · cases mem
    exact fits
  · cases fits.2.symm.trans request

theorem step (orderly : Orderly site begun execution) (stepped : execution.step = .ok next) :
    Orderly site begun next := by
  obtain ⟨activities, middle⟩ := execution
  rcases activities with _ | ⟨⟨id, event, actions⟩, others⟩
  · cases stepped
    exact orderly
  rcases actions with _ | ⟨action, actions⟩
  · cases stepped
    exact orderly.leave
  obtain ⟨fits, rest⟩ := List.forall_mem_cons.mp (orderly.fits _ List.mem_cons_self)
  have ready : Orderly site begun ⟨⟨id, event, actions⟩ :: others, middle⟩ := orderly.resume rest (.same rfl)
  cases action with
  | tell other told => exact ready.ask fits stepped
  | offer other told =>
    obtain ⟨accepted, _, stepped⟩ := bind_eq_ok stepped
    split at stepped
    · exact ready.ask fits stepped
    · cases stepped
      exact ready
  | become target =>
    obtain ⟨object, _, stepped⟩ := Site.bind_object stepped
    obtain ⟨_, _, stepped⟩ := bind_eq_ok stepped
    cases stepped
    refine orderly.resume (List.forall_mem_append.mpr ⟨fun action mem => ?_, rest⟩) (.same rfl)
    exact (notices_fits _ id object.phase target event action mem).2
  | _ =>
    obtain ⟨site', ran, stepped⟩ := bind_eq_ok stepped
    cases stepped
    exact orderly.resume rest (raises_of_alone rfl (by rintro _ ⟨⟩) fits ran)

theorem start (begins : Execution.start id begun site = .ok execution) : Orderly site begun execution := by
  have idle : Orderly site begun ⟨[], site⟩ :=
    ⟨.nil, fun _ mem => absurd mem List.not_mem_nil, fun _ mem => absurd mem List.not_mem_nil, .same rfl⟩
  refine idle.tell (fun _ mem => ?_) (fun request => request) begins
  cases mem

theorem run {count : Nat} (ran : Execution.run count (Execution.start id begun site) = .ok execution) :
    Orderly site begun execution := by
  induction count generalizing execution with
  | zero => exact start ran
  | succ count ih =>
    rw [run_succ] at ran
    obtain ⟨middle, earlier, stepped⟩ := bind_eq_ok ran
    exact (ih earlier).step stepped

end Orderly

end Execution

section pending

variable {site site' : Site} {id : ObjectId} {event : Event} {waiting : PendingEvent}

theorem dispatch_raises (ran : Management.dispatch id event site = .ok site') :
    Raises (event.isRequest = true) site site' := by
  obtain ⟨count, ends⟩ := Execution.dispatch_ends id event site
  rw [ran] at ends
  exact (Execution.Orderly.run ends).raises

theorem length_activations (hardware : Hardware) (bts : Nat) :
    (hardware.activations bts).length = 2 * hardware.numTrx := by
  simp [Hardware.activations, List.length_flatMap, Nat.mul_comm]

theorem apply_raises {dispatch : Dispatcher} {attributes : Attributes}
    (ran : (Action.apply attributes).run dispatch id site = .ok site') :
    site'.pending.length ≤ site.pending.length + 2 * site.hardware.numTrx := by
  obtain ⟨object, _, ran⟩ := Site.bind_object ran
  split at ran
  · rename_i hardware events applied
    cases ran
    have few : events.length ≤ 2 * site.hardware.numTrx := by
      rcases applyAttributes_activates applied with rfl | ⟨bts, _, rfl⟩
      · exact Nat.zero_le _
      · exact Nat.le_of_eq (length_activations site.hardware bts)
    show (site.pending ++ events).length ≤ site.pending.length + 2 * site.hardware.numTrx
    rw [List.length_append]
    exact Nat.add_le_add_left few _
  · cases ran
    exact Nat.le_add_right _ _

theorem length_start (id : ObjectId) (site : Site) : (start id site).pending.length = site.pending.length + 1 :=
  List.length_append

/-- What is raised on an event is less than the event may cost. -/
theorem dispatch_raises_less (ran : Management.dispatch id event site = .ok site') :
    site'.pending.length < site.pending.length + pendingCost site.hardware.numTrx event := by
  by_cases asked : event.isRequest = true
  · rw [dispatch_eq] at ran
    obtain ⟨object, _, _, ran⟩ := performed_of_dispatchWithin ran
    cases event with
    | rxSetAttr attributes =>
      simp only [reactionIn, reaction, perform_single] at ran
      split at ran
      · obtain ⟨object, _, ran⟩ := Site.bind_object ran
        cases ran
        exact Nat.lt_add_of_pos_right (pendingCost_pos _ _)
      · refine Nat.lt_of_le_of_lt (apply_raises ran) ?_
        show site.pending.length + _ < site.pending.length + (1 + 2 * site.hardware.numTrx)
        exact Nat.add_lt_add_left (Nat.lt_one_add_iff.mpr (Nat.le_refl _)) _
    | rxOpstart =>
      simp only [reactionIn, reaction, perform_single] at ran
      split at ran
      · cases ran
        rw [length_start]
        exact Nat.lt_succ_self _
      · obtain ⟨object, _, ran⟩ := Site.bind_object ran
        split at ran <;> cases ran
        · rw [length_start]
          exact Nat.lt_succ_self _
        · exact Nat.lt_add_of_pos_right Nat.two_pos
    | _ => cases asked
  · obtain ⟨raised, grown, _, spares⟩ := dispatch_raises ran
    rw [grown, spares asked, List.append_nil]
    exact Nat.lt_add_of_pos_right (pendingCost_pos _ _)

theorem runNext_cases (ran : runNext waiting site = .ok site') :
    site' = site ∨ Management.dispatch waiting.id waiting.event site = .ok site' := by
  rw [runNext_eq] at ran
  split at ran
  · cases ran
    exact .inl rfl
  · rename_i present
    have there : site.Has waiting.id := by simpa [Site.Has] using present
    obtain ⟨object, found⟩ := there.found
    split at ran
    · cases accepted : Machine.accepts waiting.id.objectClass object.phase waiting.event.kind with
      | true =>
        rw [dispatchIfAccepted_of_accepted Management.dispatch found accepted] at ran
        exact .inr ran
      | false =>
        rw [dispatchIfAccepted_of_refused Management.dispatch found accepted] at ran
        cases ran
        exact .inl rfl
    · exact .inr ran

theorem waitingCost_of_quiet {numTrx : Nat} {raised : List PendingEvent}
    (quiet : ∀ waiting ∈ raised, waiting.event.isRequest = false) : waitingCost numTrx raised = raised.length := by
  induction raised with
  | nil => rfl
  | cons waiting rest ih =>
    obtain ⟨first, quiet⟩ := List.forall_mem_cons.mp quiet
    have one : pendingCost numTrx waiting.event = 1 := by
      cases told : waiting.event <;> rw [told] at first <;> first | rfl | cases first
    rw [waitingCost_cons, one, ih quiet, List.length_cons, Nat.add_comm]

theorem applyAttributes_numTrx {hardware hardware' : Hardware} {attributes : Attributes}
    {events : List PendingEvent} (applied : hardware.applyAttributes id attributes = .ok (hardware', events)) :
    hardware'.numTrx = hardware.numTrx := by
  rcases applyAttributes_cases applied with ⟨rfl, _⟩ | ⟨_, ⟨rfl, _⟩ | ⟨pchan, _, rfl⟩⟩ <;> rfl

theorem numTrx_steady : Steady fun site site' => site'.hardware.numTrx = site.hardware.numTrx where
  refl _ := rfl
  trans first last := last.trans first
  touches := by
    intro site site' touch
    cases touch with
    | reports _ _ _ _ hardware _ => rw [hardware]
    | changes _ _ _ _ _ hardware _ => rw [hardware]
    | takes _ equipment _ _ =>
      rcases equipment with ⟨_, same⟩ | ⟨events, applied⟩
      · rw [same]
      · exact applyAttributes_numTrx applied
    | @settles id object target _ settled =>
      rw [settled]
      show (releasedHardware site.hardware id target).numTrx = site.hardware.numTrx
      cases id <;> cases target <;> rfl

/-- The event that is dispatched is paid for, and what it causes is, out of what it costs. -/
theorem runNext_cost (ran : runNext waiting site = .ok site') :
    waitingCost site'.hardware.numTrx site'.pending <
      pendingCost site.hardware.numTrx waiting.event + waitingCost site.hardware.numTrx site.pending := by
  have paid := pendingCost_pos site.hardware.numTrx waiting.event
  have same : site'.hardware.numTrx = site.hardware.numTrx := numTrx_steady.runNext (numTrx_steady.dispatch _ _ _) ran
  rw [same]
  rcases runNext_cases ran with rfl | told
  · omega
  · obtain ⟨raised, grown, quiet, _⟩ := dispatch_raises told
    have less := dispatch_raises_less told
    rw [grown, List.length_append] at less
    rw [grown, waitingCost_append, waitingCost_of_quiet quiet]
    omega

/-- For as long as an event waits, the one that waits longest is dispatched; so many were in the end. -/
inductive Drains : Nat → Site → Except Fault Site → Prop
  | done {site : Site} (idle : site.pending = []) : Drains 0 site (.ok site)
  | fails {site : Site} {waiting : PendingEvent} {rest : List PendingEvent} {fault : Fault}
      (waits : site.pending = waiting :: rest)
      (failed : runNext waiting { site with pending := rest } = .error fault) : Drains 1 site (.error fault)
  | next {site middle : Site} {waiting : PendingEvent} {rest : List PendingEvent} {outcome : Except Fault Site}
      {count : Nat} (waits : site.pending = waiting :: rest)
      (ran : runNext waiting { site with pending := rest } = .ok middle)
      (drains : Drains count middle outcome) : Drains (count + 1) site outcome

theorem Drains.idle {count : Nat} {outcome : Except Fault Site} (drains : Drains count site outcome)
    (ended : outcome = .ok site') : site'.pending = [] := by
  induction drains with
  | done idle =>
    cases ended
    exact idle
  | fails => cases ended
  | next _ _ _ ih => exact ih ended

theorem runAtMost_drains {count : Nat} (enough : waitingCost site.hardware.numTrx site.pending ≤ count) :
    ∃ dispatched ≤ count, Drains dispatched site (runAtMost count site) := by
  induction count generalizing site with
  | zero =>
    refine ⟨0, Nat.le_refl 0, .done ?_⟩
    cases waits : site.pending with
    | nil => rfl
    | cons waiting rest =>
      have paid := pendingCost_pos site.hardware.numTrx waiting.event
      rw [waits, waitingCost_cons] at enough
      omega
  | succ count ih =>
    rw [runAtMost_succ]
    split
    · rename_i idle
      exact ⟨0, Nat.zero_le _, .done idle⟩
    · rename_i waiting rest waits
      cases ran : runNext waiting { site with pending := rest } with
      | error fault => exact ⟨1, Nat.le_add_left 1 count, .fails waits ran⟩
      | ok middle =>
        have less : waitingCost middle.hardware.numTrx middle.pending <
            pendingCost site.hardware.numTrx waiting.event + waitingCost site.hardware.numTrx rest :=
          runNext_cost ran
        rw [waits, waitingCost_cons] at enough
        have enough : waitingCost middle.hardware.numTrx middle.pending ≤ count := by omega
        obtain ⟨dispatched, few, drains⟩ := ih enough
        exact ⟨dispatched + 1, Nat.succ_le_succ few, .next waits ran drains⟩

theorem dispatch_faults {fault : Fault} (failed : Management.dispatch id event site = .error fault) :
    fault = .unknownObject id ∨ fault.IsViolation := by
  by_cases has : site.Has id
  · have concludes := dispatch_concludes event has
    rw [failed] at concludes
    exact .inr concludes
  · have lost : site.tree.get? id = none := by simpa [Site.Has, Tree.contains] using has
    simp only [dispatch_eq, dispatchWithin, Site.object, lost] at failed
    cases failed
    exact .inl rfl

theorem runPending_drains (site : Site) :
    ∃ dispatched ≤ waitingCost site.hardware.numTrx site.pending, Drains dispatched site (runPending site) :=
  runAtMost_drains (Nat.le_refl _)

theorem runPending_empties (ran : runPending site = .ok site') : site'.pending = [] := by
  obtain ⟨_, _, drains⟩ := runPending_drains site
  exact drains.idle ran

theorem runPending_violates {fault : Fault} (failed : runPending site = .error fault) : fault.IsViolation := by
  have concludes := runAtMost_concludes (waitingCost site.hardware.numTrx site.pending) site
  rw [← runPending_eq, failed] at concludes
  exact concludes

end pending

/-- The recursion of dispatch has one solution. Step by step an event comes to what the solution makes of it, or to a
fault for the object or for what its phase allows, with never more than four objects at work; only on a request
does the equipment raise events, and none of those is a request. So the queue of the equipment runs empty. -/
theorem dispatch_terminates (site : Site) :
    (∀ dispatch, dispatch = nest dispatch ↔ dispatch = Management.dispatch) ∧
    (∀ id event,
      Execution.Leads (Execution.start id event site) (Management.dispatch id event site) [] ∧
      (∀ count execution, Execution.run count (Execution.start id event site) = .ok execution →
        execution.activities.length ≤ 4 ∧ execution.Orderly site event) ∧
      ∀ fault, Management.dispatch id event site = .error fault → fault = .unknownObject id ∨ fault.IsViolation) ∧
    (∃ dispatched ≤ waitingCost site.hardware.numTrx site.pending, Drains dispatched site (runPending site)) ∧
    (∀ site', runPending site = .ok site' → site'.pending = []) ∧
    (∀ fault, runPending site = .error fault → fault.IsViolation) ∧
    (∀ (hardware : Hardware) (id : ObjectId), (hardware.start id).event.isRequest = false) ∧
    ∀ (hardware hardware' : Hardware) (id : ObjectId) attributes events,
      hardware.applyAttributes id attributes = .ok (hardware', events) →
        ∀ waiting ∈ events, waiting.event.isRequest = false := by
  refine ⟨fun _ => Execution.eq_nest_iff, fun id event => ⟨Execution.dispatch_ends id event site, ?_, ?_⟩,
    runPending_drains site, fun _ => runPending_empties, fun _ => runPending_violates, start_isRequest,
    fun _ _ _ _ _ => applyAttributes_isRequest⟩
  · intro count execution ran
    have orderly := Execution.Orderly.run ran
    exact ⟨orderly.length_le, orderly⟩
  · exact fun _ => dispatch_faults

theorem dispatch_terminates_shutdown :
    let site : Site := { Site.quiet (Tree.fresh 1 false true) (.fresh 1) with
      pending := [⟨.siteManager, .omlUp, false⟩, ⟨.siteManager, .rxOpstart, false⟩] }
    let early : Site := { site with pending := [⟨.siteManager, .swAct, false⟩] }
    (∃ execution, Execution.run 12 (Execution.start .siteManager .shutdownStart site) = .ok execution ∧
      execution.activities.map Activity.id =
        [.channel 0 0 0, .basebandTransceiver 0 0, .bts 0, .siteManager] ∧
      execution.activities.length ≤ 4 ∧ execution.Orderly site .shutdownStart) ∧
    (∃ fault, Management.dispatch .siteManager .swAct site = .error fault ∧
      (fault = .unknownObject .siteManager ∨ fault.IsViolation)) ∧
    (∃ site', runPending site = .ok site' ∧ site'.tree.siteManager.phase = .enabled ∧ site'.pending = []) ∧
    (∃ fault, runPending early = .error fault ∧ fault.IsViolation) ∧
    ∃ hardware events, site.hardware.applyAttributes (.bts 0) .empty = .ok (hardware, events) ∧
      events.length = 2 ∧ ∀ waiting ∈ events, waiting.event.isRequest = false := by
  intro site early
  obtain ⟨_, dispatched, _, empties, _, _, applied⟩ := dispatch_terminates site
  obtain ⟨_, _, _, _, violates, _⟩ := dispatch_terminates early
  obtain ⟨_, bounded, _⟩ := dispatched .siteManager .shutdownStart
  obtain ⟨_, _, faults⟩ := dispatched .siteManager .swAct
  exact ⟨⟨_, rfl, rfl, bounded 12 _ rfl⟩, ⟨_, rfl, faults _ rfl⟩, ⟨_, rfl, rfl, empties _ rfl⟩,
    ⟨_, rfl, violates _ rfl⟩, ⟨site.hardware, _, rfl, rfl, applied site.hardware _ (.bts 0) .empty _ rfl⟩⟩

end BaseStation.Management
