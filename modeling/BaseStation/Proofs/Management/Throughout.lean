import BaseStation.Proofs.Management.BscView
import BaseStation.Proofs.Management.Evolution

namespace BaseStation

open Management

namespace Management

def Action.Suits (cls : ObjectClass) (action : Action) : Prop :=
  ∀ attributes, action = .keep attributes → cls = .siteManager

theorem reaction_suits (cls : ObjectClass) (supported linked : Bool) (children : List ObjectId)
    (object : ManagedObject) (event : Event) :
    ∀ action ∈ reaction cls supported linked children object event, action.Suits cls := by
  rintro action mem attributes rfl
  cases reaction_dueTo cls supported linked children object event _ mem with
  | keep _ =>
    have taken := List.mem_singleton.mp mem
    split at taken
    · assumption
    · cases taken

/-- One thing done to a site, and what is reported of it: an object takes attributes, or settles in a phase, or
all objects keep their attributes. -/
inductive Touch (site site' : Site) : Prop
  | reports (said : List Report) (other : ∀ id, .ack id .setAttr ∉ said) (closed : Bool)
      (tree : site'.tree = site.tree) (hardware : site'.hardware = { site.hardware with closed := closed })
      (outputs : site'.outputs = site.outputs ++ said.map .report)
  | changes {id : ObjectId} {object object' : ManagedObject} (said : List Report)
      (other : ∀ id, .ack id .setAttr ∉ said) (found : site.tree.get? id = some object)
      (tree : site'.tree = site.tree.put id object') (same : object'.attributes = object.attributes)
      (hardware : site'.hardware = site.hardware) (outputs : site'.outputs = site.outputs ++ said.map .report)
  | takes {id : ObjectId} {object : ManagedObject} {attributes : Attributes}
      (found : site.tree.get? id = some object)
      (equipment : id.objectClass = .siteManager ∧ site'.hardware = site.hardware ∨
        ∃ events, site.hardware.applyAttributes id attributes = .ok (site'.hardware, events))
      (tree : site'.tree = site.tree.put id { object.withAttributes attributes with attributesSet := true })
      (outputs : site'.outputs = site.outputs ++ [.report (.ack id .setAttr)])
  | settles {id : ObjectId} {object : ManagedObject} (target : Phase) (found : site.tree.get? id = some object)
      (settled : site' = site.settle id object target)

section touch

variable {site site' : Site} {id : ObjectId} {object object' : ManagedObject} {report : Report}

theorem touch_beside (site : Site) (closed : Bool) (pending : List PendingEvent) (trace : List Trace) :
    Touch site { site with
      hardware := { site.hardware with closed := closed }
      pending := pending
      trace := trace } :=
  .reports [] (fun _ => List.not_mem_nil) closed rfl rfl (List.append_nil _).symm

theorem touch_report (other : ∀ id, report ≠ .ack id .setAttr) : Touch site (site.report report) :=
  .reports [report] (fun id mem => other id (List.mem_singleton.mp mem).symm) _ rfl rfl rfl

theorem touch_change (found : site.tree.get? id = some object) (same : object'.attributes = object.attributes)
    (other : ∀ id, report ≠ .ack id .setAttr) : Touch site ((site.put id object').report report) :=
  .changes [report] (fun id mem => other id (List.mem_singleton.mp mem).symm) found rfl same rfl rfl

theorem touch_publish {operational : Option OperationalState} {availability : Option Availability}
    {administrative : Option AdminState}
    (h : publish id operational availability administrative site = .ok site') : Touch site site' := by
  obtain ⟨object, found, _⟩ := Site.bind_object h
  rw [publish_of_found found] at h
  cases h
  have reports (before after : ObjectState) : ∃ said : List Report, news id before after = said.map .report ∧
      ∀ id, .ack id .setAttr ∉ said := by
    unfold news
    split
    · exact ⟨[], rfl, fun _ => List.not_mem_nil⟩
    · exact ⟨[.stateChanged id after], rfl, fun id mem => by cases List.mem_singleton.mp mem⟩
  obtain ⟨said, news, other⟩ := reports object.published _
  exact .changes said other found rfl rfl rfl (congrArg _ news)

theorem touch_answerAdmin (id : ObjectId) (outcome : Except NackCause Unit) (site : Site) :
    Touch site (answerAdmin id outcome site) := by
  cases outcome <;> exact touch_report (by rintro _ ⟨⟩)

theorem touch_own {action : Action} {dispatch : Dispatcher} (own : action.forOthers = false)
    (still : ∀ target, action ≠ .become target) (suits : action.Suits id.objectClass)
    (h : action.run dispatch id site = .ok site') : Touch site site' := by
  cases action with
  | tell _ _ | offer _ _ => cases own
  | become target => exact absurd rfl (still target)
  | announceShutdown => exact touch_publish h
  | start =>
    cases h
    exact touch_beside site site.hardware.closed _ _
  | reportSoftware =>
    cases h
    exact touch_report (by rintro _ ⟨⟩)
  | repeatState =>
    obtain ⟨object, _, h⟩ := Site.bind_object h
    cases h
    exact touch_report (by rintro _ ⟨⟩)
  | startConfigured =>
    obtain ⟨object, _, h⟩ := Site.bind_object h
    split at h <;> cases h
    · exact touch_beside site site.hardware.closed _ _
    · exact touch_report (by rintro _ ⟨⟩)
  | acknowledge =>
    obtain ⟨object, found, _⟩ := Site.bind_object h
    rw [Action.run, acknowledgeStart_of_found found] at h
    cases h
    exact touch_change found rfl (by rintro _ ⟨⟩)
  | refuse cause =>
    obtain ⟨object, found, _⟩ := Site.bind_object h
    rw [Action.run, refuseStart_of_found cause found] at h
    cases h
    exact touch_change found rfl (by rintro _ ⟨⟩)
  | keep attributes =>
    obtain ⟨object, found, h⟩ := Site.bind_object h
    cases h
    let kept (object : ManagedObject) := { object.withAttributes attributes with attributesSet := true }
    exact .takes found (.inl ⟨suits attributes rfl, rfl⟩) (Tree.modify_eq_put kept found) rfl
  | apply attributes =>
    obtain ⟨object, found, h⟩ := Site.bind_object h
    split at h
    · rename_i hardware events applied
      cases h
      let kept (object : ManagedObject) := { object.withAttributes attributes with attributesSet := true }
      exact .takes found (.inr ⟨events, applied⟩) (Tree.modify_eq_put kept found) rfl
    · rename_i cause _
      cases h
      let missed (object : ManagedObject) := { object with attributesSet := false }
      exact .changes [.nack id .setAttr cause] (fun id mem => by cases List.mem_singleton.mp mem) found
        (Tree.modify_eq_put missed found) rfl rfl rfl

end touch

/-- A relation between sites that everything done to a site brings about. -/
structure Steady (R : Site → Site → Prop) : Prop extends Chains R where
  touches : ∀ {site site'}, Touch site site' → R site site'

namespace Steady

variable {R : Site → Site → Prop} {id : ObjectId} {site site' : Site}

theorem beside (steady : Steady R) (site : Site) (closed : Bool) (pending : List PendingEvent)
    (trace : List Trace) :
    R site { site with
      hardware := { site.hardware with closed := closed }
      pending := pending
      trace := trace } :=
  steady.touches (touch_beside site closed pending trace)

theorem act (steady : Steady R) {dispatch : Dispatcher}
    (told : ∀ id event site site', dispatch id event site = .ok site' → R site site') {action : Action}
    (suits : action.Suits id.objectClass) (h : action.run dispatch id site = .ok site') : R site site' := by
  cases action with
  | tell other event => exact told other event site site' h
  | offer other event => exact steady.offer (told other event site) h
  | become target =>
    obtain ⟨object, found, mayMove⟩ := found_of_changePhaseWith h
    rw [Action.run, changePhaseWith_of_found dispatch found mayMove] at h
    have settles := steady.touches (.settles target found rfl)
    exact steady.trans settles (steady.notice (fun id event _ _ _ => told id event _ _) h)
  | announceShutdown | repeatState | reportSoftware | apply _ | keep _ | start | startConfigured
  | acknowledge | refuse _ => exact steady.touches (touch_own rfl (by rintro _ ⟨⟩) suits h)

theorem dispatchWithin (steady : Steady R) (depth : Nat) (id : ObjectId) (event : Event) (site site' : Site)
    (h : Management.dispatchWithin depth id event site = .ok site') : R site site' := by
  induction depth generalizing id event site site' with
  | zero => cases h
  | succ depth ih =>
    obtain ⟨object, _, _, h⟩ := performed_of_dispatchWithin h
    have recorded : R site (site.record (.dispatched id event.kind)) :=
      steady.beside site site.hardware.closed _ _
    have suits := reaction_suits id.objectClass (supported site.tree id) (linked site.tree id)
      (children site.tree id) object event
    exact steady.trans recorded (steady.foldlM _ (fun action mem _ _ h => steady.act ih (suits action mem) h) h)

theorem dispatch (steady : Steady R) (id : ObjectId) (event : Event) (site site' : Site) :
    Management.dispatch id event site = .ok site' → R site site' :=
  steady.dispatchWithin nesting id event site site'

theorem runAtMost (steady : Steady R) {count : Nat} (h : runAtMost count site = .ok site') : R site site' := by
  induction count generalizing site with
  | zero =>
    cases h
    exact steady.refl _
  | succ count ih =>
    rw [Management.runAtMost_succ] at h
    split at h
    · cases h
      exact steady.refl _
    · rename_i waiting rest _
      obtain ⟨middle, first, last⟩ := bind_eq_ok h
      have taken : R site { site with pending := rest } := steady.beside site site.hardware.closed _ _
      have told : R { site with pending := rest } middle := steady.runNext (steady.dispatch _ _ _) first
      exact steady.trans taken (steady.trans told (ih last))

theorem changeAdmin (steady : Steady R) {admin : AdminState}
    (h : Manager.changeAdmin id admin site = .ok site') : R site site' := by
  have answers outcome site : R site (answerAdmin id outcome site) :=
    steady.touches (touch_answerAdmin id outcome site)
  refine steady.toChains.changeAdmin (fun _ => answers ..) ?_ ?_ h
  · exact fun _ _ => steady.dispatch id .disable site
  · exact fun _ _ published => steady.trans (steady.touches (touch_publish published)) (answers ..)

theorem stepOfRequest (steady : Steady R) {request : Request}
    (h : Manager.stepOfRequest request site = .ok site') : R site site' := by
  cases request with
  | setAttributes id attributes => exact steady.dispatch _ _ site site' h
  | start id => exact steady.dispatch _ _ site site' h
  | changeAdmin id admin => exact steady.changeAdmin h

theorem tellTransceiver (steady : Steady R) {trx : Nat} {events : List Event}
    (h : Manager.tellTransceiver trx events site = .ok site') : R site site' :=
  steady.toChains.tellTransceiver (fun event _ id => steady.dispatch id event) h

theorem tearDown (steady : Steady R) (h : Manager.tearDown site = .ok site') : R site site' := by
  obtain ⟨middle, first, h⟩ := bind_eq_ok h
  obtain ⟨middle', second, last⟩ := bind_eq_ok h
  cases last
  have started := steady.dispatch _ _ site middle first
  have finished := steady.dispatch _ _ middle middle' second
  exact steady.trans started (steady.trans finished (steady.beside middle' true _ _))

end Steady

end Management

namespace Manager

variable {manager : Manager} {flags : LinkFlags} {time : FrameTime} {effect : Effect Manager}
  {R : Site → Site → Prop}

def Does (R : Site → Site → Prop) (manager : Manager) (effect : Effect Manager) : Prop :=
  ∃ tree site', (∀ id, tree.get? id = manager.tree.get? id) ∧ R (.quiet tree manager.hardware) site' ∧
    effect.state.tree = site'.tree ∧ effect.state.hardware = site'.hardware ∧
    effect.sent.map (·.primitive) = site'.outputs

theorem run_does (steady : Steady R) {step : Step} {tree : Tree}
    (same : ∀ id, tree.get? id = manager.tree.get? id)
    (brings : ∀ site site', step site = .ok site' → R site site')
    (ran : { manager with tree := tree }.run flags time step = .ok effect) : manager.Does R effect := by
  obtain ⟨site, stepped, ran⟩ := bind_eq_ok ran
  obtain ⟨site', settled, last⟩ := bind_eq_ok ran
  cases last
  exact ⟨tree, site', same, steady.trans (brings _ _ stepped) (steady.runAtMost settled), rfl, rfl,
    ofPrimitive_primitive time _⟩

/-- A message is ignored or refused, or dealt with as the relation allows. -/
theorem receive_does (steady : Steady R) {message : Message}
    (received : manager.receive flags message = .ok effect) :
    manager.Does R effect ∨ effect.state = manager ∧
      ∀ primitive ∈ effect.sent.map (·.primitive), ∃ id procedure,
        primitive = .report (.nack id procedure .objInstanceUnknown) := by
  have silent (flags : LinkFlags) : (Effect.silent manager flags).state = manager ∧
      ∀ primitive ∈ (Effect.silent manager flags).sent.map (·.primitive), ∃ id procedure,
        primitive = .report (.nack id procedure .objInstanceUnknown) :=
    ⟨rfl, fun _ mem => absurd mem List.not_mem_nil⟩
  have relinked {trx : Nat} {f : Transceiver → Transceiver} {events : List Event} {flags : LinkFlags}
      (relinks : Relinks f events)
      (ran : { manager with tree := manager.tree.modifyTransceiver 0 trx f }.run flags message.created
        (tellTransceiver trx events) = .ok effect) : manager.Does R effect :=
    run_does steady (Tree.get?_modifyTransceiver_links relinks.keep) (fun _ _ => steady.tellTransceiver) ran
  rw [receive_eq] at received
  split at received
  · rw [receiveRequest_eq] at received
    split at received
    · exact .inl (run_does steady (fun _ => rfl) (fun _ _ => steady.stepOfRequest) received)
    · cases received
      exact .inr ⟨rfl, fun primitive mem => ⟨_, _, List.mem_singleton.mp mem⟩⟩
  · rename_i control _
    rw [receiveLink_eq] at received
    cases control with
    | phyLinkUp trx =>
      dsimp only at received
      split at received
      · exact .inl (relinked .phyUp received)
      · cases received
        exact .inr (silent _)
    | phyLinkDown trx =>
      dsimp only at received
      split at received
      · exact .inl (relinked .phyDown received)
      · cases received
        exact .inr (silent _)
    | rslLinkUp trx =>
      dsimp only at received
      split at received
      · exact .inl (relinked .rslUp received)
      · cases received
        exact .inr (silent _)
    | omlLinkUp =>
      exact .inl (run_does steady (fun _ => rfl) (fun _ _ => steady.offer (steady.dispatch _ _ _)) received)
    | abisLinkFailed =>
      obtain ⟨effect', ran, last⟩ := bind_eq_ok received
      cases last
      have does := run_does steady (Tree.get?_dropRsl manager.tree) (fun _ _ => steady.tearDown) ran
      exact .inl does
  · cases received
    exact .inr (silent _)

end Manager

end BaseStation
