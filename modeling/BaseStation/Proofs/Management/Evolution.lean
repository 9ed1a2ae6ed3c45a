import Mathlib.Logic.Relation
import BaseStation.Management.Manager
import BaseStation.Proofs.Management.Reports

namespace BaseStation

open Management

namespace Management

def Action.forOthers : Action → Bool
  | .tell _ _ | .offer _ _ => true
  | _ => false

def Action.Makes (cls : ObjectClass) (object object' : ManagedObject) : Action → Prop
  | .apply attributes =>
    object' = { object.withAttributes attributes with attributesSet := true } ∨
      object' = { object with attributesSet := false }
  | .keep attributes => object' = { object.withAttributes attributes with attributesSet := true }
  | .start | .startConfigured => object' = object
  | .tell _ _ | .offer _ _ => False
  | action => action.alone? cls object = some object'

def Becomes (cls : ObjectClass) : List Action → ManagedObject → ManagedObject → Prop
  | [], object, object' => object' = object
  | action :: rest, object, object' =>
    ∃ middle, action.Makes cls object middle ∧ Becomes cls rest middle object'

theorem becomes_single {cls : ObjectClass} {action : Action} {object object' : ManagedObject} :
    Becomes cls [action] object object' ↔ action.Makes cls object object' := by
  simp [Becomes]

theorem eq_entered_of_become {cls : ObjectClass} {target : Phase} {object object' : ManagedObject}
    (becomes : Becomes cls [.become target] object object') : object' = object.entered cls target := by
  simp only [becomes_single, Action.Makes, Action.alone?, Option.ite_none_right_eq_some,
    Option.some.injEq] at becomes
  exact becomes.2.symm

inductive Own : List Action → Prop
  | nil : Own []
  | last {action : Action} (own : action.forOthers = false) : Own [action]
  | cons {action : Action} {rest : List Action} (own : action.forOthers = false)
      (still : ∀ target, action ≠ .become target) (after : Own rest) : Own (action :: rest)

theorem Own.forOthers {actions : List Action} (own : Own actions) :
    ∀ action ∈ actions, action.forOthers = false := by
  induction own with
  | nil => exact fun _ mem => absurd mem List.not_mem_nil
  | last own => exact List.forall_mem_singleton.mpr own
  | cons own _ _ ih => exact List.forall_mem_cons.mpr ⟨own, ih⟩

theorem reaction_own (cls : ObjectClass) (supported linked : Bool) (object : ManagedObject)
    (event : Event) : Own (reaction cls supported linked [] object event) := by
  have quiet {action : Action} {rest : List Action} (own : action.forOthers = false)
      (still : ∀ target, action ≠ .become target) (after : Own rest) : Own (action :: rest) :=
    .cons own still after
  cases event with
  | rxSetAttr _ | rxOpstart =>
    refine .last ?_
    split <;> rfl
  | shutdownStart | shutdownFinish | opstartNack _ => exact .last rfl
  | opstartAck =>
    refine quiet rfl (by rintro _ ⟨⟩) ?_
    split
    · exact .last rfl
    · exact .nil
  | swAct => exact quiet rfl (by rintro _ ⟨⟩) (.last rfl)
  | omlUp =>
    simp only [reaction]
    split
    · exact quiet rfl (by rintro _ ⟨⟩) (.last rfl)
    · exact quiet rfl (by rintro _ ⟨⟩) (.last rfl)
    · exact quiet rfl (by rintro _ ⟨⟩) (.last rfl)
    · exact .last rfl
    · exact .last rfl
  | rslUp | phyLinkUp | rslDown | phyLinkDown | disable | bbTranscEnabled | rcarrierEnabled
  | bbTranscDisabled | rcarrierDisabled | btsEnabled | btsDisabled =>
    simp only [reaction]
    split
    · first | exact .last rfl | exact .nil
    · first | exact .last rfl | exact .nil

inductive Action.HandsDown (children : List ObjectId) (event : Event) : Action → Prop
  | tell {other : ObjectId} (child : other ∈ children) : HandsDown children event (.tell other event)
  | offer {other : ObjectId} (child : other ∈ children) : HandsDown children event (.offer other event)

theorem Action.HandsDown.forOthers {children : List ObjectId} {event : Event} {action : Action}
    (hands : action.HandsDown children event) : action.forOthers = true := by
  cases hands <;> rfl

theorem handsDown_tell (children : List ObjectId) (event : Event) :
    ∀ action ∈ children.map (.tell · event), Action.HandsDown children event action := by
  intro action mem
  obtain ⟨other, child, rfl⟩ := List.mem_map.mp mem
  exact .tell child

theorem handsDown_offer (children : List ObjectId) (event : Event) :
    ∀ action ∈ children.map (.offer · event), Action.HandsDown children event action := by
  intro action mem
  obtain ⟨other, child, rfl⟩ := List.mem_map.mp mem
  exact .offer child

/-- An object first does what it does for itself, and then tells others, which it does not do of the answer to a
start; it uninstalls itself last. -/
theorem reaction_parts (cls : ObjectClass) (supported linked : Bool) (children : List ObjectId)
    (object : ManagedObject) {event : Event} (still : event ≠ .shutdownFinish) :
    ∃ told, reaction cls supported linked children object event =
        reaction cls supported linked [] object event ++ told ∧
      (∀ action ∈ told, Action.HandsDown children event action) ∧ (event = .opstartAck → told = []) := by
  have alone {actions : List Action} : ∃ told, actions = actions ++ told ∧
      (∀ action ∈ told, Action.HandsDown children event action) ∧ (event = .opstartAck → told = []) :=
    ⟨[], (List.append_nil _).symm, fun _ mem => absurd mem List.not_mem_nil, fun _ => rfl⟩
  cases event with
  | shutdownFinish => exact absurd rfl still
  | shutdownStart | swAct => exact ⟨_, rfl, handsDown_tell _ _, by rintro ⟨⟩⟩
  | omlUp =>
    simp only [reaction]
    split
    · exact ⟨_, rfl, handsDown_tell _ _, by rintro ⟨⟩⟩
    · exact alone
    · exact ⟨_, rfl, handsDown_offer _ _, by rintro ⟨⟩⟩
    · exact alone
    · exact ⟨_, rfl, handsDown_offer _ _, by rintro ⟨⟩⟩
  | rxSetAttr _ | rxOpstart | opstartAck | opstartNack _ | rslUp | phyLinkUp | rslDown | phyLinkDown
  | disable | bbTranscEnabled | bbTranscDisabled | rcarrierEnabled | rcarrierDisabled | btsEnabled
  | btsDisabled => exact alone

end Management

/-- One thing that can happen to an object: it hears of an event it accepts, or the BSC changes its
administrative state. -/
inductive ManagedObject.Step (cls : ObjectClass) (linked : Bool) : ManagedObject → ManagedObject → Prop
  | hears {object object' : ManagedObject} (supported : Bool) (event : Event)
      (accepted : Machine.accepts cls object.phase event.kind = true)
      (becomes : Becomes cls (reaction cls supported linked [] object event) object object') :
      Step cls linked object object'
  | administered (object : ManagedObject) (admin : AdminState) :
      Step cls linked object
        { object with published := updated object.published none none (some admin) }

namespace Tree

structure Evolves (tree tree' : Tree) : Prop where
  links : ∀ bts trx, tree'.links bts trx = tree.links bts trx
  contains : ∀ id, tree'.contains id = tree.contains id
  objects : ∀ id object, tree.get? id = some object →
    ∃ object', tree'.get? id = some object' ∧
      Relation.ReflTransGen (ManagedObject.Step id.objectClass (linked tree id)) object object'

variable {tree tree' tree'' : Tree} {id : ObjectId} {object object' : ManagedObject}

theorem linked_congr (links : ∀ bts trx, tree'.links bts trx = tree.links bts trx) (id : ObjectId) :
    linked tree' id = linked tree id := by
  cases id <;> simp only [linked, links]

theorem Evolves.refl (tree : Tree) : tree.Evolves tree :=
  ⟨fun _ _ => rfl, fun _ => rfl, fun _ object found => ⟨object, found, .refl⟩⟩

theorem Evolves.trans (first : tree.Evolves tree') (last : tree'.Evolves tree'') :
    tree.Evolves tree'' := by
  refine ⟨fun bts trx => (last.links bts trx).trans (first.links bts trx),
    fun id => (last.contains id).trans (first.contains id), fun id object found => ?_⟩
  obtain ⟨middle, found', steps⟩ := first.objects id object found
  obtain ⟨object', found'', steps'⟩ := last.objects id middle found'
  rw [linked_congr first.links id] at steps'
  exact ⟨object', found'', steps.trans steps'⟩

theorem Evolves.put (found : tree.get? id = some object)
    (step : ManagedObject.Step id.objectClass (linked tree id) object object') :
    tree.Evolves (tree.put id object') := by
  refine ⟨fun bts trx => links_modify .., fun other => contains_modify .., ?_⟩
  intro other before place
  by_cases same : id = other
  · subst same
    cases found.symm.trans place
    exact ⟨object', get?_put_self object' found, .single step⟩
  · exact ⟨before, (get?_put_of_ne tree object' same).trans place, .refl⟩

theorem Evolves.keeps (evolves : tree.Evolves tree') {P : ManagedObject → Prop}
    (step : ∀ object object', P object →
      ManagedObject.Step id.objectClass (linked tree id) object object' → P object')
    (before : ∀ object, tree.get? id = some object → P object) :
    ∀ object, tree'.get? id = some object → P object := by
  intro object' found'
  have present : tree.contains id = true := by
    rw [← evolves.contains id]
    exact Option.isSome_iff_exists.mpr ⟨object', found'⟩
  obtain ⟨object, found⟩ := Option.isSome_iff_exists.mp present
  obtain ⟨last, place, steps⟩ := evolves.objects id object found
  cases place.symm.trans found'
  clear place found'
  induction steps with
  | refl => exact before object found
  | tail _ next ih => exact step _ _ ih next

end Tree

namespace Management

variable {dispatch : Dispatcher} {id : ObjectId} {event : Event} {site site' : Site}
  {object : ManagedObject}

def Develops (dispatch : Dispatcher) : Prop :=
  ∀ id event site site', dispatch id event site = .ok site' → site.tree.Evolves site'.tree

theorem evolves_chains : Chains fun site site' => site.tree.Evolves site'.tree where
  refl _ := .refl _
  trans := .trans

theorem Develops.offer (develops : Develops dispatch) : Develops (dispatchIfAccepted dispatch) := by
  intro id event site site' h
  exact evolves_chains.offer (develops id event site) h

theorem Develops.notice (develops : Develops dispatch) {previous target : Phase}
    (h : giveNotice dispatch id previous target site = .ok site') : site.tree.Evolves site'.tree :=
  evolves_chains.notice (fun id' event site site' _ => develops id' event site site') h

theorem run_makes {action : Action} (own : action.forOthers = false)
    (still : ∀ target, action ≠ .become target) (found : site.tree.get? id = some object)
    (h : action.run dispatch id site = .ok site') :
    ∃ object', action.Makes id.objectClass object object' ∧ site'.tree = site.tree.put id object' := by
  cases action with
  | become target => exact absurd rfl (still target)
  | tell _ _ | offer _ _ => cases own
  | announceShutdown =>
    rw [Action.run, publish_of_found found] at h
    cases h
    exact ⟨_, rfl, rfl⟩
  | repeatState =>
    rw [Action.run, republish_of_found found] at h
    cases h
    exact ⟨_, rfl, (Tree.put_self found).symm⟩
  | reportSoftware =>
    cases h
    exact ⟨_, rfl, (Tree.put_self found).symm⟩
  | acknowledge =>
    rw [Action.run, acknowledgeStart_of_found found] at h
    cases h
    exact ⟨_, rfl, rfl⟩
  | refuse cause =>
    rw [Action.run, refuseStart_of_found cause found] at h
    cases h
    exact ⟨_, rfl, rfl⟩
  | start =>
    cases h
    exact ⟨_, rfl, (Tree.put_self found).symm⟩
  | startConfigured =>
    simp only [Action.run, Management.startConfigured, Site.object_of_found found, ok_bind] at h
    split at h <;> cases h <;> exact ⟨_, rfl, (Tree.put_self found).symm⟩
  | keep attributes =>
    simp only [Action.run, keepAttributes, Site.object_of_found found, ok_bind] at h
    cases h
    exact ⟨_, rfl, congrArg Site.tree (Site.modify_of_found site
      (fun object => { object.withAttributes attributes with attributesSet := true }) found)⟩
  | apply attributes =>
    simp only [Action.run, setAttributes, Site.object_of_found found, ok_bind] at h
    split at h
    · rename_i hardware events _
      cases h
      exact ⟨_, .inl rfl, congrArg Site.tree (Site.modify_of_found
        (Site.raise { site with hardware := hardware } events)
        (fun object => { object.withAttributes attributes with attributesSet := true }) found)⟩
    · cases h
      exact ⟨_, .inr rfl, congrArg Site.tree (Site.modify_of_found site
        (fun object => { object with attributesSet := false }) found)⟩

theorem become_makes (develops : Develops dispatch) {target : Phase}
    (found : site.tree.get? id = some object)
    (h : (Action.become target).run dispatch id site = .ok site') :
    ∃ object', (Action.become target).Makes id.objectClass object object' ∧
      (site.tree.put id object').Evolves site'.tree := by
  obtain ⟨same, place, mayMove⟩ := found_of_changePhaseWith h
  cases found.symm.trans place
  rw [Action.run, changePhaseWith_of_found dispatch found mayMove] at h
  exact ⟨_, if_pos mayMove, develops.notice h⟩

theorem perform_becomes (develops : Develops dispatch) {actions : List Action} (own : Own actions)
    (found : site.tree.get? id = some object) (h : perform dispatch id actions site = .ok site') :
    ∃ object', Becomes id.objectClass actions object object' ∧
      (site.tree.put id object').Evolves site'.tree := by
  induction own generalizing site object with
  | nil =>
    cases h
    refine ⟨object, rfl, ?_⟩
    rw [Tree.put_self found]
    exact .refl _
  | @last action own =>
    rw [perform_single] at h
    by_cases moves : ∃ target, action = .become target
    · obtain ⟨target, rfl⟩ := moves
      obtain ⟨object', makes, after⟩ := become_makes develops found h
      exact ⟨object', ⟨object', makes, rfl⟩, after⟩
    · obtain ⟨object', makes, after⟩ := run_makes own (fun target same => moves ⟨target, same⟩) found h
      refine ⟨object', ⟨object', makes, rfl⟩, ?_⟩
      rw [after]
      exact .refl _
  | cons own still _ ih =>
    rw [perform_cons] at h
    obtain ⟨middle, first, last⟩ := bind_eq_ok h
    obtain ⟨object', makes, after⟩ := run_makes own still found first
    have place : middle.tree.get? id = some object' := by
      rw [after]
      exact Tree.get?_put_self object' found
    obtain ⟨object'', becomes, evolves⟩ := ih place last
    rw [after, Tree.put_put] at evolves
    exact ⟨object'', ⟨object', makes, becomes⟩, evolves⟩

theorem perform_others (develops : Develops dispatch) {actions : List Action}
    (others : ∀ action ∈ actions, action.forOthers = true)
    (h : perform dispatch id actions site = .ok site') : site.tree.Evolves site'.tree := by
  refine evolves_chains.foldlM actions (fun action mem site site' h => ?_) h
  have kind := others action mem
  cases action with
  | tell other event => exact develops other event site site' h
  | offer other event => exact develops.offer other event site site' h
  | _ => cases kind

theorem perform_hears (develops : Develops dispatch) (still : event ≠ .shutdownFinish)
    (found : site.tree.get? id = some object)
    (h : perform dispatch id (reactionIn site.tree id object event) site = .ok site') :
    ∃ object', Becomes id.objectClass
        (reaction id.objectClass (supported site.tree id) (linked site.tree id) [] object event)
        object object' ∧
      (site.tree.put id object').Evolves site'.tree := by
  obtain ⟨told, parts, hands, _⟩ := reaction_parts id.objectClass (supported site.tree id)
    (linked site.tree id) (children site.tree id) object still
  rw [reactionIn, parts, perform_append] at h
  obtain ⟨middle, first, last⟩ := bind_eq_ok h
  obtain ⟨object', becomes, evolves⟩ :=
    perform_becomes develops (reaction_own _ _ _ object event) found first
  have evolves' := perform_others develops (fun action mem => (hands action mem).forOthers) last
  exact ⟨object', becomes, evolves.trans evolves'⟩

theorem dispatchWithin_develops (depth : Nat) : Develops (dispatchWithin depth) := by
  induction depth with
  | zero =>
    intro id event site site' h
    cases h
  | succ depth ih =>
    intro id event site site' h
    obtain ⟨object, found, accepted, h⟩ := performed_of_dispatchWithin h
    have found : (site.record (.dispatched id event.kind)).tree.get? id = some object := found
    by_cases finish : event = .shutdownFinish
    -- the children come first, and the object is what they left of it
    · subst finish
      rw [reactionIn, reaction, perform_append] at h
      obtain ⟨middle, first, last⟩ := bind_eq_ok h
      have before : (site.record (.dispatched id .shutdownFinish)).tree.Evolves middle.tree :=
        perform_others ih (fun action mem => (handsDown_tell _ _ action mem).forOthers) first
      obtain ⟨object', found', _⟩ := before.objects id object found
      obtain ⟨object'', becomes, after⟩ := perform_becomes ih (.last rfl) found' last
      have step : ManagedObject.Step id.objectClass (linked middle.tree id) object' object'' :=
        .hears true .shutdownFinish rfl becomes
      exact before.trans ((Tree.Evolves.put found' step).trans after)
    · obtain ⟨object', becomes, after⟩ := perform_hears ih finish found h
      have step : ManagedObject.Step id.objectClass (linked site.tree id) object object' :=
        .hears _ event accepted becomes
      exact (Tree.Evolves.put found step).trans after

theorem dispatch_develops : Develops Management.dispatch := dispatchWithin_develops nesting

theorem runNext_evolves {waiting : PendingEvent} (h : runNext waiting site = .ok site') :
    site.tree.Evolves site'.tree :=
  evolves_chains.runNext (dispatch_develops _ _ site) h

theorem runAtMost_evolves {count : Nat} (h : runAtMost count site = .ok site') :
    site.tree.Evolves site'.tree := by
  induction count generalizing site with
  | zero =>
    cases h
    exact .refl _
  | succ count ih =>
    rw [runAtMost_succ] at h
    split at h
    · cases h
      exact .refl _
    · obtain ⟨middle, first, last⟩ := bind_eq_ok h
      exact (runNext_evolves first).trans (ih last)

theorem answerAdmin_tree (id : ObjectId) (outcome : Except NackCause Unit) (site : Site) :
    (answerAdmin id outcome site).tree = site.tree := by
  cases outcome <;> rfl

theorem publishAdmin_evolves {admin : AdminState}
    (h : publish id none none (some admin) site = .ok site') : site.tree.Evolves site'.tree := by
  obtain ⟨object, found, _⟩ := Site.bind_object h
  rw [publish_of_found found] at h
  cases h
  exact .put found (.administered object admin)

theorem changeAdmin_evolves {admin : AdminState}
    (h : Manager.changeAdmin id admin site = .ok site') : site.tree.Evolves site'.tree := by
  refine evolves_chains.changeAdmin ?_ ?_ ?_ h
  · intro cause
    rw [answerAdmin_tree]
    exact .refl _
  · exact fun _ _ => dispatch_develops id .disable site
  · intro site site' published
    rw [answerAdmin_tree]
    exact publishAdmin_evolves published

theorem offerAll_evolves {events : List Event}
    (h : events.foldlM (fun site event => dispatchIfAccepted Management.dispatch id event site) site =
      .ok site') : site.tree.Evolves site'.tree :=
  evolves_chains.offerAll (fun event _ => dispatch_develops id event) h

theorem tellTransceiver_evolves {trx : Nat} {events : List Event}
    (h : Manager.tellTransceiver trx events site = .ok site') : site.tree.Evolves site'.tree :=
  evolves_chains.tellTransceiver (fun event _ id => dispatch_develops id event) h

theorem tearDown_evolves (h : Manager.tearDown site = .ok site') : site.tree.Evolves site'.tree := by
  obtain ⟨middle, first, h⟩ := bind_eq_ok h
  obtain ⟨middle', second, last⟩ := bind_eq_ok h
  cases last
  exact (dispatch_develops _ _ site middle first).trans (dispatch_develops _ _ middle middle' second)

theorem stepOfRequest_evolves {request : Request}
    (h : Manager.stepOfRequest request site = .ok site') : site.tree.Evolves site'.tree := by
  cases request with
  | setAttributes id attributes => exact dispatch_develops _ _ site site' h
  | start id => exact dispatch_develops _ _ site site' h
  | changeAdmin id admin => exact changeAdmin_evolves h

end Management

namespace Manager

variable {manager : Manager} {flags : LinkFlags} {time : FrameTime} {step : Management.Step}
  {effect : Effect Manager}

/-- What a step leaves, the events that the equipment raised carry on with. -/
theorem run_evolves (h : manager.run flags time step = .ok effect) :
    ∃ site, step (.quiet manager.tree manager.hardware) = .ok site ∧
      site.tree.Evolves effect.state.tree := by
  obtain ⟨site, stepped, h⟩ := bind_eq_ok h
  obtain ⟨site', settled, last⟩ := bind_eq_ok h
  cases last
  exact ⟨site, stepped, runAtMost_evolves settled⟩

theorem receiveRequest_evolves {request : Request}
    (h : manager.receiveRequest flags time request = .ok effect) :
    manager.tree.Evolves effect.state.tree := by
  rw [receiveRequest_eq] at h
  split at h
  · obtain ⟨site, stepped, after⟩ := run_evolves h
    exact (stepOfRequest_evolves stepped).trans after
  · cases h
    exact .refl _

inductive Relinks : (Transceiver → Transceiver) → List Event → Prop
  | phyUp : Relinks (fun t => { t with phyUp := true }) [.swAct, .phyLinkUp]
  | phyDown : Relinks (fun t => { t with phyUp := false }) [.phyLinkDown]
  | rslUp : Relinks (fun t => { t with rslUp := true }) [.rslUp]

theorem Relinks.keep {f : Transceiver → Transceiver} {events : List Event} (relinks : Relinks f events)
    (t : Transceiver) :
    (f t).carrier = t.carrier ∧ (f t).baseband = t.baseband ∧ (f t).channels = t.channels := by
  cases relinks <;> exact ⟨rfl, rfl, rfl⟩

/-- What a manager may make of its tree with what it receives. -/
inductive Leads (manager : Manager) (tree : Tree) : Prop
  | evolves (after : manager.tree.Evolves tree)
  | relinks {trx : Nat} {f : Transceiver → Transceiver} {events : List Event} {site : Site}
      (relinks : Relinks f events)
      (told : tellTransceiver trx events
        (.quiet (manager.tree.modifyTransceiver 0 trx f) manager.hardware) = .ok site)
      (after : site.tree.Evolves tree)
  | tearsDown {site : Site} (torn : tearDown (.quiet manager.tree.dropRsl manager.hardware) = .ok site)
      (after : site.tree.Evolves tree)

theorem receiveLink_leads {control : LinkControl}
    (received : manager.receiveLink flags time control = .ok effect) : manager.Leads effect.state.tree := by
  have silent : manager.Leads manager.tree := .evolves (.refl _)
  have relinked {trx : Nat} {f : Transceiver → Transceiver} {events : List Event} {flags : LinkFlags}
      (relinks : Relinks f events)
      (ran : { manager with tree := manager.tree.modifyTransceiver 0 trx f }.run flags time
        (tellTransceiver trx events) = .ok effect) : manager.Leads effect.state.tree := by
    obtain ⟨site, told, after⟩ := run_evolves ran
    exact .relinks relinks told after
  rw [receiveLink_eq] at received
  cases control with
  | phyLinkUp trx =>
    dsimp only at received
    split at received
    · exact relinked .phyUp received
    · cases received
      exact silent
  | phyLinkDown trx =>
    dsimp only at received
    split at received
    · exact relinked .phyDown received
    · cases received
      exact silent
  | rslLinkUp trx =>
    dsimp only at received
    split at received
    · exact relinked .rslUp received
    · cases received
      exact silent
  | omlLinkUp =>
    obtain ⟨site, told, after⟩ := run_evolves received
    exact .evolves ((dispatch_develops.offer _ _ _ site told).trans after)
  | abisLinkFailed =>
    obtain ⟨effect', ran, last⟩ := bind_eq_ok received
    cases last
    obtain ⟨site, torn, after⟩ := run_evolves ran
    exact .tearsDown torn after

theorem receive_leads {message : Message} (received : manager.receive flags message = .ok effect) :
    manager.Leads effect.state.tree := by
  rw [receive_eq] at received
  split at received
  · exact .evolves (receiveRequest_evolves received)
  · exact receiveLink_leads received
  · cases received
    exact .evolves (.refl _)

end Manager

end BaseStation
