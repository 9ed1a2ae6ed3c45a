import BaseStation.Proofs.Management.Settle

namespace BaseStation.Management

inductive Action
  | announceShutdown
  | repeatState
  | reportSoftware
  | become (target : Phase)
  | apply (attributes : Attributes)
  | keep (attributes : Attributes)
  | start
  | startConfigured
  | acknowledge
  | refuse (cause : NackCause)
  | tell (other : ObjectId) (event : Event)
  | offer (other : ObjectId) (event : Event)

def Action.run (dispatch : Dispatcher) (id : ObjectId) : Action → Step
  | announceShutdown => publish id none none (some .shutdown)
  | repeatState => republish id
  | reportSoftware => fun site => .ok (Management.reportSoftware id site)
  | become target => changePhaseWith dispatch id target
  | apply attributes => setAttributes id attributes
  | keep attributes => keepAttributes id attributes
  | start => fun site => .ok (Management.start id site)
  | startConfigured => Management.startConfigured id
  | acknowledge => acknowledgeStart id
  | refuse cause => refuseStart id cause
  | tell other event => dispatch other event
  | offer other event => dispatchIfAccepted dispatch other event

def perform (dispatch : Dispatcher) (id : ObjectId) (actions : List Action) : Step := fun site =>
  actions.foldlM (fun site action => action.run dispatch id site) site

def children (tree : Tree) : ObjectId → List ObjectId
  | .siteManager => tree.siteChildren
  | .bts bts => tree.transceiverIds bts
  | .basebandTransceiver bts trx => tree.channelIds bts trx
  | .gprsNse | .radioCarrier _ _ | .channel _ _ _ => []

/-- What an object waits for in the dependency phase is there. -/
def supported (tree : Tree) : ObjectId → Bool
  | .gprsNse => tree.bts.isEnabled
  | .channel bts trx _ => tree.channelsCanStart bts trx
  | .siteManager | .bts _ | .radioCarrier _ _ | .basebandTransceiver _ _ => true

def linked (tree : Tree) : ObjectId → Bool
  | .radioCarrier bts trx | .basebandTransceiver bts trx =>
    (tree.links bts trx).1 && (tree.links bts trx).2
  | .siteManager | .gprsNse | .bts _ | .channel _ _ _ => true

def installedPhase (supported : Bool) : Phase := if supported then .offline else .dependency

/-- What an object does about an event it accepts. -/
def reaction (cls : ObjectClass) (supported linked : Bool) (children : List ObjectId)
    (object : ManagedObject) : Event → List Action
  | .shutdownStart => .announceShutdown :: children.map (.tell · .shutdownStart)
  | .shutdownFinish => children.map (.tell · .shutdownFinish) ++ [.become .notInstalled]
  | .rxSetAttr attributes => [if cls = .siteManager then .keep attributes else .apply attributes]
  | .rxOpstart =>
    [if cls = .siteManager ∨ cls = .basebandTransceiver then .start else .startConfigured]
  | .opstartAck => .acknowledge :: if linked then [.become .enabled] else []
  | .opstartNack cause => [.refuse cause]
  | .swAct =>
    .reportSoftware :: .become (installedPhase supported) :: children.map (.tell · .swAct)
  | .omlUp =>
    match cls, object.phase with
    | .siteManager, _ => .reportSoftware :: .become .offline :: children.map (.tell · .omlUp)
    | .gprsNse, .notInstalled => [.reportSoftware, .become (installedPhase supported)]
    | .bts, .notInstalled => .reportSoftware :: .become .offline :: children.map (.offer · .omlUp)
    | .bts, _ => [.repeatState]
    | _, _ => .repeatState :: children.map (.offer · .omlUp)
  | .rslUp | .phyLinkUp =>
    if object.phase = .offline ∧ linked ∧ object.started then [.become .enabled] else []
  | .rslDown | .phyLinkDown | .disable =>
    if object.phase = .enabled then [.become .offline] else []
  | .bbTranscEnabled | .rcarrierEnabled => if supported then [.become .offline] else []
  | .bbTranscDisabled | .rcarrierDisabled =>
    if object.phase = .dependency ∨ supported then [] else [.become .dependency]
  | .btsEnabled => if object.phase = .dependency then [.become .offline] else []
  | .btsDisabled =>
    if object.phase = .offline ∨ object.phase = .enabled then [.become .dependency] else []

def reactionIn (tree : Tree) (id : ObjectId) (object : ManagedObject) (event : Event) : List Action :=
  reaction id.objectClass (supported tree id) (linked tree id) (children tree id) object event

inductive Action.DueTo : Event → Action → Prop
  | announceShutdown : DueTo .shutdownStart .announceShutdown
  | repeatState : DueTo .omlUp .repeatState
  | reportSoftware (event : Event) : DueTo event .reportSoftware
  | become (event : Event) {target : Phase} (stays : target ≠ .notInstalled) : DueTo event (.become target)
  | uninstall : DueTo .shutdownFinish (.become .notInstalled)
  | apply (attributes : Attributes) : DueTo (.rxSetAttr attributes) (.apply attributes)
  | keep (attributes : Attributes) : DueTo (.rxSetAttr attributes) (.keep attributes)
  | start : DueTo .rxOpstart .start
  | startConfigured : DueTo .rxOpstart .startConfigured
  | acknowledge : DueTo .opstartAck .acknowledge
  | refuse (cause : NackCause) : DueTo (.opstartNack cause) (.refuse cause)
  | tell (other : ObjectId) (event : Event) : DueTo event (.tell other event)
  | offer (other : ObjectId) (event : Event) : DueTo event (.offer other event)

theorem reaction_dueTo (cls : ObjectClass) (supported linked : Bool) (children : List ObjectId)
    (object : ManagedObject) (event : Event) :
    ∀ action ∈ reaction cls supported linked children object event, Action.DueTo event action := by
  have tells (event : Event) : ∀ action ∈ children.map (Action.tell · event), Action.DueTo event action := by
    intro action mem
    obtain ⟨other, _, rfl⟩ := List.mem_map.mp mem
    exact .tell other event
  have offers (event : Event) : ∀ action ∈ children.map (Action.offer · event), Action.DueTo event action := by
    intro action mem
    obtain ⟨other, _, rfl⟩ := List.mem_map.mp mem
    exact .offer other event
  have installs (event : Event) : Action.DueTo event (.become (installedPhase supported)) :=
    .become event (by cases supported <;> decide)
  have goesOffline : Action.DueTo .omlUp (.become .offline) := .become .omlUp (by decide)
  have moves {condition : Prop} [Decidable condition] {target : Phase} (stays : target ≠ .notInstalled) :
      ∀ action ∈ if condition then [Action.become target] else [], Action.DueTo event action := by
    split
    · exact List.forall_mem_singleton.mpr (.become event stays)
    · exact fun _ mem => absurd mem List.not_mem_nil
  cases event with
  | shutdownStart => exact List.forall_mem_cons.mpr ⟨.announceShutdown, tells _⟩
  | shutdownFinish =>
    intro action mem
    rcases List.mem_append.mp mem with told | last
    · exact tells _ action told
    · cases List.mem_singleton.mp last
      exact .uninstall
  | rxSetAttr attributes =>
    refine List.forall_mem_singleton.mpr ?_
    split
    · exact .keep attributes
    · exact .apply attributes
  | rxOpstart =>
    refine List.forall_mem_singleton.mpr ?_
    split
    · exact .start
    · exact .startConfigured
  | opstartAck => exact List.forall_mem_cons.mpr ⟨.acknowledge, moves (by decide)⟩
  | opstartNack cause => exact List.forall_mem_singleton.mpr (.refuse cause)
  | swAct => exact List.forall_mem_cons.mpr ⟨.reportSoftware _, List.forall_mem_cons.mpr ⟨installs _, tells _⟩⟩
  | omlUp =>
    simp only [reaction]
    split
    · exact List.forall_mem_cons.mpr ⟨.reportSoftware _, List.forall_mem_cons.mpr ⟨goesOffline, tells _⟩⟩
    · exact List.forall_mem_cons.mpr ⟨.reportSoftware _, List.forall_mem_singleton.mpr (installs _)⟩
    · exact List.forall_mem_cons.mpr ⟨.reportSoftware _, List.forall_mem_cons.mpr ⟨goesOffline, offers _⟩⟩
    · exact List.forall_mem_singleton.mpr .repeatState
    · exact List.forall_mem_cons.mpr ⟨.repeatState, offers _⟩
  | bbTranscDisabled | rcarrierDisabled =>
    simp only [reaction]
    split
    · exact fun _ mem => absurd mem List.not_mem_nil
    · exact List.forall_mem_singleton.mpr (.become _ (by decide))
  | rslUp | phyLinkUp | rslDown | phyLinkDown | disable | bbTranscEnabled | rcarrierEnabled | btsEnabled
  | btsDisabled => exact moves (by decide)

section perform

variable (dispatch : Dispatcher) (id : ObjectId)

@[simp] theorem perform_nil : perform dispatch id [] = fun site => .ok site := rfl

@[simp] theorem perform_cons (action : Action) (actions : List Action) (site : Site) :
    perform dispatch id (action :: actions) site =
      action.run dispatch id site >>= perform dispatch id actions :=
  List.foldlM_cons ..

theorem perform_append (first second : List Action) (site : Site) :
    perform dispatch id (first ++ second) site =
      perform dispatch id first site >>= perform dispatch id second :=
  List.foldlM_append ..

theorem perform_tell (ids : List ObjectId) (event : Event) :
    perform dispatch id (ids.map (.tell · event)) = dispatchEach dispatch ids event := by
  funext site
  exact List.foldlM_map ..

theorem perform_offer (ids : List ObjectId) (event : Event) :
    perform dispatch id (ids.map (.offer · event)) =
      dispatchEach (dispatchIfAccepted dispatch) ids event := by
  funext site
  exact List.foldlM_map ..

@[simp] theorem perform_single (action : Action) : perform dispatch id [action] = action.run dispatch id := by
  funext site
  rw [perform_cons]
  exact bind_ok _

end perform

section handle

variable (dispatch : Dispatcher) {object : ManagedObject} {event : Event} {site : Site}

theorem SiteManager.handle_eq_perform
    (accepted : Machine.accepts .siteManager object.phase event.kind = true) :
    SiteManager.handle dispatch object.phase event site =
      perform dispatch .siteManager (reactionIn site.tree .siteManager object event) site := by
  -- the object refuses the event in its phase, or both sides run the same steps
  cases event <;> cases phase : object.phase <;>
    first
    | (rw [phase] at accepted; cases accepted; done)
    | simp [phase, SiteManager.handle, shutdown, reactionIn, reaction, ObjectId.objectClass, children,
        linked, perform_append, perform_tell, Action.run, changePhaseWith]

theorem GprsNse.handle_eq_perform
    (accepted : Machine.accepts .gprsNse object.phase event.kind = true) :
    GprsNse.handle dispatch object.phase event site =
      perform dispatch .gprsNse (reactionIn site.tree .gprsNse object event) site := by
  cases start : site.tree.bts.isEnabled <;> cases event <;> cases phase : object.phase <;>
    first
    | (rw [phase] at accepted; cases accepted; done)
    | simp [phase, start, GprsNse.handle, shutdown, dispatchEach, reactionIn, reaction,
        ObjectId.objectClass, children, supported, linked, installedPhase, Action.run, changePhaseWith]

theorem Bts.handle_eq_perform (bts : Nat)
    (accepted : Machine.accepts .bts object.phase event.kind = true) :
    Bts.handle dispatch bts object.phase event site =
      perform dispatch (.bts bts) (reactionIn site.tree (.bts bts) object event) site := by
  cases event <;> cases phase : object.phase <;>
    first
    | (rw [phase] at accepted; cases accepted; done)
    | simp [phase, Bts.handle, shutdown, reactionIn, reaction, ObjectId.objectClass, children,
        linked, perform_append, perform_tell, perform_offer, Action.run, changePhaseWith]

theorem Channel.handle_eq_perform (bts trx ts : Nat)
    (accepted : Machine.accepts .channel object.phase event.kind = true) :
    Channel.handle dispatch bts trx ts object.phase event site =
      perform dispatch (.channel bts trx ts)
        (reactionIn site.tree (.channel bts trx ts) object event) site := by
  cases start : site.tree.channelsCanStart bts trx <;> cases event <;> cases phase : object.phase <;>
    first
    | (rw [phase] at accepted; cases accepted; done)
    | simp [phase, start, Channel.handle, shutdown, dispatchEach, reactionIn, reaction,
        ObjectId.objectClass, children, supported, linked, installedPhase, Action.run, changePhaseWith]

section transceiver

variable {bts trx : Nat} {id : ObjectId}

theorem tryEnable_of_found (enable : Step)
    (isTrx : id = .radioCarrier bts trx ∨ id = .basebandTransceiver bts trx)
    (found : site.tree.get? id = some object) :
    tryEnable id enable site =
      if linked site.tree id && object.started then enable site else .ok site := by
  rcases isTrx with rfl | rfl <;>
    simp only [tryEnable, ok_bind, Site.object_of_found found, linked] <;> rfl

theorem acknowledgeStart_tryEnable (enable : Step)
    (isTrx : id = .radioCarrier bts trx ∨ id = .basebandTransceiver bts trx)
    (found : site.tree.get? id = some object) :
    acknowledgeStart id site >>= tryEnable id enable =
      if linked site.tree id then acknowledgeStart id site >>= enable else acknowledgeStart id site := by
  let acked := (site.put id { object with started := true }).report (.ack id .opstart)
  have place : acked.tree.get? id = some { object with started := true } := Tree.get?_put_self _ found
  have links (b t : Nat) : acked.tree.links b t = site.tree.links b t := Tree.links_modify ..
  have same : linked acked.tree id = linked site.tree id := by
    rcases isTrx with rfl | rfl <;> simp only [linked, links]
  rw [acknowledgeStart_of_found found, ok_bind, ok_bind, tryEnable_of_found enable isTrx place, same,
    Bool.and_true]

theorem RadioCarrier.handle_eq_perform
    (found : site.tree.get? (.radioCarrier bts trx) = some object)
    (accepted : Machine.accepts .radioCarrier object.phase event.kind = true) :
    RadioCarrier.handle dispatch bts trx object.phase event site =
      perform dispatch (.radioCarrier bts trx)
        (reactionIn site.tree (.radioCarrier bts trx) object event) site := by
  have acked := acknowledgeStart_tryEnable (RadioCarrier.changePhase dispatch bts trx .enabled)
    (.inl rfl) found
  have enabled := tryEnable_of_found (RadioCarrier.changePhase dispatch bts trx .enabled)
    (.inl rfl) found
  cases up : linked site.tree (.radioCarrier bts trx) <;> cases ready : object.started <;>
    cases event <;> cases phase : object.phase <;>
    first
    | (rw [phase] at accepted; cases accepted; done)
    | simp [phase, up, ready, acked, enabled, RadioCarrier.handle, shutdown, dispatchEach, reactionIn,
        reaction, ObjectId.objectClass, children, supported, installedPhase, Action.run, changePhaseWith]

theorem BasebandTransceiver.handle_eq_perform
    (found : site.tree.get? (.basebandTransceiver bts trx) = some object)
    (accepted : Machine.accepts .basebandTransceiver object.phase event.kind = true) :
    BasebandTransceiver.handle dispatch bts trx object.phase event site =
      perform dispatch (.basebandTransceiver bts trx)
        (reactionIn site.tree (.basebandTransceiver bts trx) object event) site := by
  have acked := acknowledgeStart_tryEnable (BasebandTransceiver.changePhase dispatch bts trx .enabled)
    (.inr rfl) found
  have enabled := tryEnable_of_found (BasebandTransceiver.changePhase dispatch bts trx .enabled)
    (.inr rfl) found
  cases up : linked site.tree (.basebandTransceiver bts trx) <;> cases ready : object.started <;>
    cases event <;> cases phase : object.phase <;>
    first
    | (rw [phase] at accepted; cases accepted; done)
    | simp [phase, up, ready, acked, enabled, BasebandTransceiver.handle, shutdown, reactionIn,
        reaction, ObjectId.objectClass, children, supported, installedPhase, perform_append,
        perform_tell, perform_offer, Action.run, changePhaseWith]

end transceiver

theorem handle_eq_perform {id : ObjectId} (found : site.tree.get? id = some object)
    (accepted : Machine.accepts id.objectClass object.phase event.kind = true) :
    handle dispatch id object.phase event site =
      perform dispatch id (reactionIn site.tree id object event) site := by
  cases id with
  | siteManager => exact SiteManager.handle_eq_perform dispatch accepted
  | gprsNse => exact GprsNse.handle_eq_perform dispatch accepted
  | bts bts => exact Bts.handle_eq_perform dispatch bts accepted
  | radioCarrier bts trx => exact RadioCarrier.handle_eq_perform dispatch found accepted
  | basebandTransceiver bts trx => exact BasebandTransceiver.handle_eq_perform dispatch found accepted
  | channel bts trx ts => exact Channel.handle_eq_perform dispatch bts trx ts accepted

end handle

section dispatch

variable {site : Site} {id : ObjectId} {object : ManagedObject} {event : Event}

theorem dispatchWithin_succ (depth : Nat) (found : site.tree.get? id = some object)
    (accepted : Machine.accepts id.objectClass object.phase event.kind = true) :
    dispatchWithin (depth + 1) id event site =
      perform (dispatchWithin depth) id (reactionIn site.tree id object event)
        (site.record (.dispatched id event.kind)) := by
  simp only [dispatchWithin, Site.object_of_found found, ok_bind, Machine.requireEvent, accepted,
    if_true]
  have place : (site.record (.dispatched id event.kind)).tree.get? id = some object := found
  exact handle_eq_perform _ place accepted

theorem dispatchWithin_refused (depth : Nat) (found : site.tree.get? id = some object)
    (refused : Machine.accepts id.objectClass object.phase event.kind = false) :
    dispatchWithin (depth + 1) id event site =
      .error (.eventRefused id.objectClass id event.kind object.phase) := by
  simp [dispatchWithin, Site.object_of_found found, Machine.requireEvent, refused]
  rfl

theorem dispatchIfAccepted_of_accepted (dispatch : Dispatcher)
    (found : site.tree.get? id = some object)
    (accepted : Machine.accepts id.objectClass object.phase event.kind = true) :
    dispatchIfAccepted dispatch id event site = dispatch id event site := by
  simp only [dispatchIfAccepted, tryDispatch, Management.accepts, Site.object_of_found found, ok_bind,
    accepted]
  cases dispatch id event site <;> rfl

theorem dispatchIfAccepted_of_refused (dispatch : Dispatcher)
    (found : site.tree.get? id = some object)
    (refused : Machine.accepts id.objectClass object.phase event.kind = false) :
    dispatchIfAccepted dispatch id event site = .ok site := by
  simp only [dispatchIfAccepted, tryDispatch, Management.accepts, Site.object_of_found found, ok_bind,
    refused]
  rfl

end dispatch

end BaseStation.Management
