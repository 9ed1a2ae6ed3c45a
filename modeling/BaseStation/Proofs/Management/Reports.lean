import BaseStation.Proofs.Management.Chains
import BaseStation.Proofs.Management.Log
import BaseStation.Proofs.Management.Reachable

namespace BaseStation

open Management

namespace Management

theorem Site.bind_object {α : Type} {site : Site} {id : ObjectId} {f : ManagedObject → Except Fault α}
    {a : α} (h : site.object id >>= f = .ok a) :
    ∃ object, site.tree.get? id = some object ∧ f object = .ok a := by
  obtain ⟨object, found, h⟩ := bind_eq_ok h
  exact ⟨object, Site.found_of_object found, h⟩

theorem changePhaseWith_eq_move (dispatch : Dispatcher) (id : ObjectId) (target : Phase) :
    ∃ enter, changePhaseWith dispatch id target = move id target enter := by
  cases id with
  | siteManager => exact ⟨fun _ => SiteManager.enter target, rfl⟩
  | gprsNse => exact ⟨fun _ => GprsNse.enter target, rfl⟩
  | bts bts => exact ⟨fun previous => Bts.enter dispatch bts previous target, rfl⟩
  | radioCarrier bts trx =>
    exact ⟨fun previous => RadioCarrier.enter dispatch bts trx previous target, rfl⟩
  | basebandTransceiver bts trx =>
    exact ⟨fun previous => BasebandTransceiver.enter dispatch bts trx previous target, rfl⟩
  | channel bts trx ts => exact ⟨fun _ => Channel.enter bts trx ts target, rfl⟩

theorem found_of_changePhaseWith {dispatch : Dispatcher} {id : ObjectId} {target : Phase}
    {site site' : Site} (h : changePhaseWith dispatch id target site = .ok site') :
    ∃ object, site.tree.get? id = some object ∧
      Machine.mayMove id.objectClass object.phase target = true := by
  obtain ⟨enter, same⟩ := changePhaseWith_eq_move dispatch id target
  rw [same] at h
  obtain ⟨object, found, h⟩ := Site.bind_object h
  obtain ⟨_, allowed, _⟩ := bind_eq_ok h
  unfold Machine.requireMove at allowed
  split at allowed
  · exact ⟨object, found, by assumption⟩
  · cases allowed

theorem notice?_ne_omlUp {cls : ObjectClass} {previous target : Phase} {event : Event}
    (h : notice? cls previous target = some event) : event ≠ .omlUp := by
  cases cls <;> cases previous <;> cases target <;> cases h <;> decide

def Logs (dispatch : Dispatcher) : Prop :=
  ∀ id event site site', dispatch id event site = .ok site' →
    ∃ log, Logged (event = .omlUp) site log site'

section logs

theorem logged_chains (roused : Prop) : Chains fun site site' => ∃ log, Logged roused site log site' where
  refl site := ⟨[], Logged.refl roused site⟩
  trans := by
    rintro _ _ _ ⟨log, logged⟩ ⟨log', logged'⟩
    exact ⟨log ++ log', logged.trans logged'⟩

variable {dispatch : Dispatcher} {id : ObjectId} {event : Event} {site site' : Site}

theorem Logs.offer (logs : Logs dispatch) : Logs (dispatchIfAccepted dispatch) := by
  intro id event site site' h
  exact (logged_chains _).offer (logs id event site) h

theorem Logs.notice (logs : Logs dispatch) {previous target : Phase} (roused : Prop)
    (h : giveNotice dispatch id previous target site = .ok site') :
    ∃ log, Logged roused site log site' := by
  refine (logged_chains roused).notice (fun id' event site site' notice told => ?_) h
  obtain ⟨log, logged⟩ := logs id' event site site' told
  exact ⟨log, logged.mono fun up => absurd up (notice?_ne_omlUp notice)⟩

def Action.IsFollowUp (event : Event) : Action → Prop
  | .repeatState => False
  | .tell _ event' | .offer _ event' => event' = event
  | _ => True

inductive FollowsUp (event : Event) : List Action → Prop
  | own {actions : List Action} (follows : ∀ action ∈ actions, action.IsFollowUp event) :
      FollowsUp event actions
  | again {rest : List Action} (up : event = .omlUp) (follows : ∀ action ∈ rest, action.IsFollowUp event) :
      FollowsUp event (.repeatState :: rest)

theorem reaction_followsUp (cls : ObjectClass) (supported linked : Bool) (children : List ObjectId)
    (object : ManagedObject) (event : Event) :
    FollowsUp event (reaction cls supported linked children object event) := by
  cases event with
  | omlUp =>
    cases cls <;> cases phase : object.phase <;> simp only [reaction, phase] <;>
      first
      | exact .again rfl (by simp [Action.IsFollowUp])
      | exact .own (by simp [Action.IsFollowUp])
  | opstartAck | rslUp | rslDown | phyLinkUp | phyLinkDown | disable | bbTranscEnabled
  | bbTranscDisabled | rcarrierEnabled | rcarrierDisabled | btsEnabled | btsDisabled =>
    dsimp only [reaction]
    split <;> exact .own (by simp [Action.IsFollowUp])
  | rxSetAttr _ | rxOpstart =>
    dsimp only [reaction]
    split <;> exact .own (by simp [Action.IsFollowUp])
  | shutdownStart | opstartNack _ | swAct => exact .own (by simp [reaction, Action.IsFollowUp])
  | shutdownFinish =>
    refine .own ?_
    intro action mem
    rcases List.mem_append.mp mem with told | last
    · obtain ⟨_, _, rfl⟩ := List.mem_map.mp told
      rfl
    · cases List.mem_singleton.mp last
      trivial

theorem logged_answer {object object' : ManagedObject} (roused : Prop) (said : List Primitive)
    (found : site.tree.get? id = some object) (tree : site'.tree = site.tree.put id object')
    (same : object'.published = object.published) (outputs : site'.outputs = site.outputs ++ said)
    (trace : site'.trace = site.trace)
    (noReports : Entry.noReports said = true)
    (waiting : (∀ waiting ∈ site.pending, waiting.event ≠ .omlUp) →
      ∀ waiting ∈ site'.pending, waiting.event ≠ .omlUp) :
    ∃ log, Logged roused site log site' := by
  refine Logged.own [] said found tree ?_ ?_ noReports (fun _ mem => absurd mem List.not_mem_nil) waiting
  · rw [outputs, same, news, if_pos rfl, List.append_nil]
  · rw [trace, List.append_nil]

theorem publish_logged (roused : Prop) (operational : Option OperationalState)
    (availability : Option Availability) (administrative : Option AdminState)
    (h : publish id operational availability administrative site = .ok site') :
    ∃ log, Logged roused site log site' := by
  obtain ⟨object, found, _⟩ := Site.bind_object h
  rw [publish_of_found found] at h
  cases h
  refine Logged.own [] [] found rfl ?_ (List.append_nil _).symm rfl (fun _ mem => absurd mem List.not_mem_nil)
    (fun idle => idle)
  rw [List.append_nil]
  rfl

theorem start_logged (roused : Prop) (id : ObjectId) (site : Site) :
    ∃ log, Logged roused site log (Management.start id site) := by
  refine ⟨_, Logged.plain [] [] rfl (List.append_nil _).symm (List.append_nil _).symm rfl
    (fun _ mem => absurd mem List.not_mem_nil) ?_⟩
  intro idle waiting mem
  rcases List.mem_append.mp mem with old | new
  · exact idle waiting old
  · rw [List.mem_singleton.mp new]
    unfold Hardware.start
    split <;> rintro ⟨⟩

theorem become_logged (logs : Logs dispatch) (roused : Prop) {target : Phase}
    (h : changePhaseWith dispatch id target site = .ok site') :
    ∃ log, Logged roused site log site' := by
  obtain ⟨object, found, mayMove⟩ := found_of_changePhaseWith h
  rw [changePhaseWith_of_found dispatch found mayMove] at h
  have settles : ∃ log, Logged roused site log (site.settle id object target) := by
    refine Logged.own [.moved id object.phase target] (released id target) found rfl rfl rfl ?_
      (by simp) (fun idle => idle)
    cases id <;> cases target <;> rfl
  obtain ⟨log, logged⟩ := settles
  obtain ⟨log', logged'⟩ := logs.notice roused h
  exact ⟨log ++ log', logged.trans logged'⟩

theorem setAttributes_logged (roused : Prop) {attributes : Attributes}
    (h : setAttributes id attributes site = .ok site') : ∃ log, Logged roused site log site' := by
  obtain ⟨object, found, h⟩ := Site.bind_object h
  cases applied : site.hardware.applyAttributes id attributes with
  | error cause =>
    simp only [applied] at h
    cases h
    have place := Site.modify_of_found site (fun object => { object with attributesSet := false }) found
    exact logged_answer roused _ found (congrArg Site.tree place) rfl rfl rfl rfl
      (fun idle => idle)
  | ok result =>
    obtain ⟨hardware, events⟩ := result
    simp only [applied] at h
    cases h
    have place := Site.modify_of_found (Site.raise { site with hardware := hardware } events)
      (fun object => { object.withAttributes attributes with attributesSet := true }) found
    refine logged_answer roused _ found (congrArg Site.tree place) rfl rfl rfl rfl ?_
    intro idle waiting mem
    rcases List.mem_append.mp mem with old | new
    · exact idle waiting old
    · obtain ⟨p, bts, trx, rfl⟩ := applyAttributes_raises applied waiting new
      rintro ⟨⟩

theorem Logs.act (logs : Logs dispatch) {action : Action} (follows : action.IsFollowUp event)
    (h : action.run dispatch id site = .ok site') : ∃ log, Logged (event = .omlUp) site log site' := by
  cases action with
  | repeatState => cases follows
  | tell other event' =>
    cases follows
    exact logs other event site site' h
  | offer other event' =>
    cases follows
    exact logs.offer other event site site' h
  | announceShutdown => exact publish_logged _ _ _ _ h
  | become target => exact become_logged logs _ h
  | apply attributes => exact setAttributes_logged _ h
  | keep attributes =>
    obtain ⟨object, found, h⟩ := Site.bind_object h
    cases h
    have place := Site.modify_of_found site
      (fun object => { object.withAttributes attributes with attributesSet := true }) found
    exact logged_answer _ _ found (congrArg Site.tree place) rfl rfl rfl rfl
      (fun idle => idle)
  | reportSoftware =>
    cases h
    exact ⟨_, Logged.plain [] [.report (.softwareActivated id)] rfl rfl (List.append_nil _).symm rfl
      (fun _ mem => absurd mem List.not_mem_nil) (fun idle => idle)⟩
  | start =>
    cases h
    exact start_logged _ id site
  | startConfigured =>
    obtain ⟨object, found, h⟩ := Site.bind_object h
    split at h
    · cases h
      exact start_logged _ id site
    · cases h
      exact ⟨_, Logged.plain [] _ rfl rfl (List.append_nil _).symm rfl
        (fun _ mem => absurd mem List.not_mem_nil) (fun idle => idle)⟩
  | acknowledge =>
    obtain ⟨object, found, _⟩ := Site.bind_object h
    rw [Action.run, acknowledgeStart_of_found found] at h
    cases h
    exact logged_answer _ _ found rfl rfl rfl rfl rfl (fun idle => idle)
  | refuse cause =>
    obtain ⟨object, found, _⟩ := Site.bind_object h
    rw [Action.run, refuseStart_of_found cause found] at h
    cases h
    exact logged_answer _ _ found rfl rfl rfl rfl rfl (fun idle => idle)

theorem Logs.perform (logs : Logs dispatch) {actions : List Action}
    (follows : ∀ action ∈ actions, action.IsFollowUp event)
    (h : perform dispatch id actions site = .ok site') :
    ∃ log, Logged (event = .omlUp) site log site' :=
  (logged_chains _).foldlM actions (fun action mem _ _ h => logs.act (follows action mem) h) h

theorem performed_of_dispatchWithin {depth : Nat}
    (h : dispatchWithin (depth + 1) id event site = .ok site') :
    ∃ object, site.tree.get? id = some object ∧
      Machine.accepts id.objectClass object.phase event.kind = true ∧
      perform (dispatchWithin depth) id (reactionIn site.tree id object event)
        (site.record (.dispatched id event.kind)) = .ok site' := by
  obtain ⟨object, found, _⟩ := Site.bind_object h
  cases accepted : Machine.accepts id.objectClass object.phase event.kind with
  | true =>
    rw [dispatchWithin_succ depth found accepted] at h
    exact ⟨object, found, accepted, h⟩
  | false =>
    rw [dispatchWithin_refused depth found accepted] at h
    cases h

theorem dispatchWithin_logs (depth : Nat) : Logs (dispatchWithin depth) := by
  induction depth with
  | zero =>
    intro id event site site' h
    cases h
  | succ depth ih =>
    intro id event site site' h
    obtain ⟨object, found, _, h⟩ := performed_of_dispatchWithin h
    have shape : FollowsUp event (reactionIn site.tree id object event) := reaction_followsUp ..
    generalize reactionIn site.tree id object event = actions at shape h
    cases shape with
    | own follows =>
      have rousing : ∀ other, Trace.dispatched other .omlUp ∈ [Trace.dispatched id event.kind] →
          event = .omlUp := by
        intro other mem
        cases event <;> cases List.mem_singleton.mp mem
        rfl
      have told : ∃ log, Logged (event = .omlUp) site log (site.record (.dispatched id event.kind)) :=
        ⟨_, Logged.plain [.dispatched id event.kind] [] rfl (List.append_nil _).symm rfl rfl rousing
          fun idle => idle⟩
      obtain ⟨log, logged⟩ := told
      obtain ⟨log', logged'⟩ := ih.perform follows h
      exact ⟨_, logged.trans logged'⟩
    -- the report stands right after the entry that justifies it
    | again up follows =>
      subst up
      have place : (site.record (.dispatched id .omlUp)).tree.get? id = some object := found
      simp only [perform_cons, Action.run, Event.kind, republish_of_found place, ok_bind] at h
      obtain ⟨log, logged⟩ := ih.perform follows h
      exact ⟨_, (Logged.repeat rfl found).trans logged⟩

end logs

theorem dispatch_logs : Logs dispatch := dispatchWithin_logs nesting

section steps

variable {roused : Prop} {site site' : Site}

theorem dispatch_logged {dispatch : Dispatcher} {id : ObjectId} {event : Event} (roused : Prop)
    (logs : Logs dispatch)
    (h : dispatch id event site = .ok site') (up : event = .omlUp → roused) :
    ∃ log, Logged roused site log site' := by
  obtain ⟨log, logged⟩ := logs id event site site' h
  exact ⟨log, logged.mono up⟩

theorem runNext_logged {waiting : PendingEvent} (roused : Prop) (idle : waiting.event ≠ .omlUp)
    (h : runNext waiting site = .ok site') : ∃ log, Logged roused site log site' :=
  (logged_chains roused).runNext
    (fun _ told => dispatch_logged roused dispatch_logs told fun up => absurd up idle) h

theorem runAtMost_logged (roused : Prop) (count : Nat)
    (idle : ∀ waiting ∈ site.pending, waiting.event ≠ .omlUp)
    (h : runAtMost count site = .ok site') : ∃ log, Logged roused site log site' := by
  induction count generalizing site with
  | zero =>
    cases h
    exact ⟨[], Logged.refl roused _⟩
  | succ count ih =>
    rw [runAtMost_succ] at h
    split at h
    · cases h
      exact ⟨[], Logged.refl roused _⟩
    · rename_i waiting rest queue
      rw [queue] at idle
      have idleRest : ∀ other ∈ rest, other.event ≠ .omlUp :=
        fun other mem => idle other (List.mem_cons_of_mem _ mem)
      obtain ⟨middle, first, last⟩ := bind_eq_ok h
      have taken : Logged roused site _ { site with pending := rest } :=
        Logged.plain [] [] rfl (List.append_nil _).symm (List.append_nil _).symm rfl
          (fun _ mem => absurd mem List.not_mem_nil) fun _ => idleRest
      obtain ⟨log, logged⟩ := runNext_logged roused (idle waiting List.mem_cons_self) first
      obtain ⟨log', logged'⟩ := ih (logged.waiting idleRest) last
      exact ⟨_, taken.trans (logged.trans logged')⟩

theorem answerAdmin_logged (roused : Prop) (id : ObjectId) (outcome : Except NackCause Unit)
    (site : Site) : ∃ log, Logged roused site log (answerAdmin id outcome site) := by
  cases outcome with
  | ok _ =>
    exact ⟨_, Logged.plain [] [.report (.ack id .chgAdmState)] rfl rfl (List.append_nil _).symm rfl
      (fun _ mem => absurd mem List.not_mem_nil) fun idle => idle⟩
  | error cause =>
    exact ⟨_, Logged.plain [] [.report (.nack id .chgAdmState cause)] rfl rfl (List.append_nil _).symm
      rfl (fun _ mem => absurd mem List.not_mem_nil) fun idle => idle⟩

theorem changeAdmin_logged {id : ObjectId} {admin : AdminState}
    (h : Manager.changeAdmin id admin site = .ok site') : ∃ log, Logged roused site log site' := by
  refine (logged_chains roused).changeAdmin ?_ ?_ ?_ h
  · exact fun cause => answerAdmin_logged roused id (.error cause) site
  · exact fun _ _ site' told => dispatch_logged roused dispatch_logs told (by rintro ⟨⟩)
  · intro site middle published
    obtain ⟨log, logged⟩ := publish_logged roused _ _ _ published
    obtain ⟨log', logged'⟩ := answerAdmin_logged roused id (.ok ()) middle
    exact ⟨_, logged.trans logged'⟩

theorem tellTransceiver_logged {trx : Nat} {events : List Event}
    (idle : ∀ event ∈ events, event ≠ .omlUp)
    (h : Manager.tellTransceiver trx events site = .ok site') : ∃ log, Logged roused site log site' :=
  (logged_chains roused).tellTransceiver (fun event mem _ _ _ told =>
    dispatch_logged roused dispatch_logs told fun up => absurd up (idle event mem)) h

theorem tearDown_logged (h : Manager.tearDown site = .ok site') :
    ∃ log, Logged roused site log site' := by
  obtain ⟨middle, first, h⟩ := bind_eq_ok h
  obtain ⟨middle', second, last⟩ := bind_eq_ok h
  cases last
  obtain ⟨log, logged⟩ := dispatch_logged roused dispatch_logs first (by rintro ⟨⟩)
  obtain ⟨log', logged'⟩ := dispatch_logged roused dispatch_logs second (by rintro ⟨⟩)
  have closed : Logged roused middle' _ { middle' with hardware := middle'.hardware.close } :=
    Logged.plain [] [] rfl (List.append_nil _).symm (List.append_nil _).symm rfl
      (fun _ mem => absurd mem List.not_mem_nil) fun idle => idle
  exact ⟨_, logged.trans (logged'.trans closed)⟩

end steps

end Management

end BaseStation
