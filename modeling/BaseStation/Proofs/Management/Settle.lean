import BaseStation.Management.Dispatch
import BaseStation.Proofs.Object.Tree
import BaseStation.Proofs.Outcome

namespace BaseStation

def enteredState : Phase → ObjectState → ObjectState
  | .notInstalled, _ => .initial
  | .dependency, state => ⟨.disabled, .dependency, state.administrative⟩
  | .offline, state => ⟨.disabled, .offLine, state.administrative⟩
  | .enabled, state => ⟨.enabled, .ok, state.administrative⟩

def ObjectClass.keepsOutcome : ObjectClass → Bool
  | .gprsNse | .channel => true
  | .siteManager | .bts | .radioCarrier | .basebandTransceiver => false

def ManagedObject.entered (cls : ObjectClass) (target : Phase) (object : ManagedObject) :
    ManagedObject where
  phase := target
  published := enteredState target object.published
  attributesSet :=
    (target == .enabled || (target != .notInstalled && cls.keepsOutcome)) && object.attributesSet
  started := target == .enabled && object.started
  attributes := if target = .notInstalled ∧ cls ≠ .siteManager then none else object.attributes

namespace Management

def news (id : ObjectId) (before after : ObjectState) : List Primitive :=
  if after = before then [] else [.report (.stateChanged id after)]

def released : ObjectId → Phase → List Primitive
  | .channel _ trx ts, .notInstalled => [.releaseTimeslot trx ts]
  | _, _ => []

def releasedHardware (hardware : Hardware) : ObjectId → Phase → Hardware
  | .channel bts trx ts, .notInstalled => hardware.releaseTimeslot (.channel bts trx ts)
  | _, _ => hardware

def notice? : ObjectClass → Phase → Phase → Option Event
  | .bts, _, .enabled => some .btsEnabled
  | .bts, .enabled, _ => some .btsDisabled
  | .radioCarrier, _, .enabled => some .rcarrierEnabled
  | .radioCarrier, .enabled, .offline => some .rcarrierDisabled
  | .basebandTransceiver, _, .enabled => some .bbTranscEnabled
  | .basebandTransceiver, .enabled, .offline => some .bbTranscDisabled
  | _, _, _ => none

/-- The BTS tells the GPRS NSE, the objects of a transceiver tell its channels. -/
def giveNotice (dispatch : Dispatcher) (id : ObjectId) (previous target : Phase) : Step := fun site =>
  match id, notice? id.objectClass previous target with
  | .bts _, some event => dispatch .gprsNse event site
  | .radioCarrier bts trx, some event | .basebandTransceiver bts trx, some event =>
    dispatchEach (dispatchIfAccepted dispatch) (site.tree.channelIds bts trx) event site
  | _, _ => .ok site

namespace Site

def put (site : Site) (id : ObjectId) (object : ManagedObject) : Site :=
  { site with tree := site.tree.put id object }

def inform (site : Site) (id : ObjectId) (object : ManagedObject) (state : ObjectState) : Site :=
  { site with
    tree := site.tree.put id { object with published := state }
    outputs := site.outputs ++ news id object.published state }

def entering (site : Site) (id : ObjectId) (object : ManagedObject) (target : Phase) : Site :=
  (site.put id { object with phase := target }).record (.moved id object.phase target)

def settle (site : Site) (id : ObjectId) (object : ManagedObject) (target : Phase) : Site where
  tree := site.tree.put id (object.entered id.objectClass target)
  hardware := releasedHardware site.hardware id target
  pending := site.pending
  outputs := site.outputs ++ released id target ++
    news id object.published (enteredState target object.published)
  trace := site.trace ++ [.moved id object.phase target]

variable {site : Site} {id : ObjectId} {object : ManagedObject}

theorem object_of_found (found : site.tree.get? id = some object) : site.object id = .ok object := by
  simp [Site.object, found]

theorem found_of_object (h : site.object id = .ok object) : site.tree.get? id = some object := by
  unfold Site.object at h
  split at h
  · cases h; assumption
  · cases h

theorem modify_of_found (site : Site) (f : ManagedObject → ManagedObject)
    (found : site.tree.get? id = some object) :
    site.modify id f = site.put id (f object) := by
  simp [Site.modify, Site.put, Tree.modify_eq_put f found]

end Site

section

variable {site : Site} {id : ObjectId} {object : ManagedObject}

theorem publish_of_found (found : site.tree.get? id = some object)
    (operational : Option OperationalState) (availability : Option Availability)
    (administrative : Option AdminState) :
    publish id operational availability administrative site =
      .ok (site.inform id object
        (updated object.published operational availability administrative)) := by
  simp only [publish, Site.object_of_found found, ok_bind, Site.inform, news]
  split
  · rename_i same
    rw [same, Tree.put_self found, List.append_nil]
    rfl
  · simp only [Site.modify_of_found _ _ found]
    rfl

theorem reset_of_found (found : site.tree.get? id = some object) :
    reset id site = .ok (site.put id
      { object with attributesSet := false, started := false, attributes := none }) := by
  simp only [reset, Site.object_of_found found, ok_bind, Site.modify_of_found _ _ found]
  rfl

theorem clearOutcomes_of_found (found : site.tree.get? id = some object) :
    clearOutcomes id site =
      .ok (site.put id { object with attributesSet := false, started := false }) := by
  simp only [clearOutcomes, Site.object_of_found found, ok_bind, Site.modify_of_found _ _ found]
  rfl

theorem clearStarted_of_found (found : site.tree.get? id = some object) :
    clearStarted id site = .ok (site.put id { object with started := false }) := by
  simp only [clearStarted, Site.object_of_found found, ok_bind, Site.modify_of_found _ _ found]
  rfl

theorem acknowledgeStart_of_found (found : site.tree.get? id = some object) :
    acknowledgeStart id site =
      .ok ((site.put id { object with started := true }).report (.ack id .opstart)) := by
  simp only [acknowledgeStart, Site.object_of_found found, ok_bind, Site.modify_of_found _ _ found]
  rfl

theorem refuseStart_of_found (cause : NackCause) (found : site.tree.get? id = some object) :
    refuseStart id cause site =
      .ok ((site.put id { object with started := false }).report (.nack id .opstart cause)) := by
  simp only [refuseStart, Site.object_of_found found, ok_bind, Site.modify_of_found _ _ found]
  rfl

theorem republish_of_found (found : site.tree.get? id = some object) :
    republish id site = .ok (site.report (.stateChanged id object.published)) := by
  simp only [republish, Site.object_of_found found, ok_bind]
  rfl

theorem move_of_found (enter : Phase → Step) {target : Phase}
    (found : site.tree.get? id = some object)
    (mayMove : Machine.mayMove id.objectClass object.phase target = true) :
    move id target enter site = enter object.phase (site.entering id object target) := by
  simp only [move, Site.object_of_found found, ok_bind, Machine.requireMove, mayMove, if_true,
    Site.modify_of_found _ _ found]
  rfl

theorem entering_found (target : Phase) (found : site.tree.get? id = some object) :
    (site.entering id object target).tree.get? id = some { object with phase := target } :=
  Tree.get?_put_self _ found

/-- The last part of entering a phase: the object, with whatever it forgets, publishes its state. -/
theorem publish_settles {target : Phase} {cleared : ManagedObject}
    (operational : Option OperationalState) (availability : Option Availability)
    (administrative : Option AdminState) (found : site.tree.get? id = some object)
    (published : cleared.published = object.published)
    (state : updated object.published operational availability administrative =
      enteredState target object.published)
    (entered : { cleared with published := enteredState target object.published } =
      object.entered id.objectClass target)
    (kept : released id target = [] ∧ releasedHardware site.hardware id target = site.hardware) :
    publish id operational availability administrative
      ((site.entering id object target).put id cleared) = .ok (site.settle id object target) := by
  have place : ((site.entering id object target).put id cleared).tree.get? id = some cleared :=
    Tree.get?_put_self _ (entering_found target found)
  rw [publish_of_found place, published, state]
  simp only [Site.inform, Site.settle, Site.entering, Site.put, Site.record, Tree.put_put, entered,
    published, kept, List.append_nil]

theorem publishEnabled_settles (found : site.tree.get? id = some object) :
    publishEnabled id (site.entering id object .enabled) = .ok (site.settle id object .enabled) := by
  have same : (site.entering id object .enabled).put id { object with phase := .enabled } =
      site.entering id object .enabled := by
    simp [Site.entering, Site.put, Site.record]
  rw [publishEnabled, ← same]
  refine publish_settles _ _ _ found rfl rfl ?_ ?_
  · simp [ManagedObject.entered]
  · cases id <;> exact ⟨rfl, rfl⟩

theorem uninstall_settles (found : site.tree.get? id = some object)
    (hasEquipment : (id.objectClass == .siteManager || id.objectClass == .channel) = false) :
    (do publishUninstalled id (← reset id (site.entering id object .notInstalled))) =
      .ok (site.settle id object .notInstalled) := by
  have apart : id.objectClass ≠ .siteManager ∧ id.objectClass ≠ .channel := by
    simpa using hasEquipment
  rw [reset_of_found (entering_found _ found), ok_bind]
  refine publish_settles _ _ _ found rfl rfl ?_ ?_
  · simp [ManagedObject.entered, apart.1]
  · cases id <;> first | exact absurd rfl apart.2 | exact ⟨rfl, rfl⟩

theorem offline_settles (found : site.tree.get? id = some object)
    (forgets : id.objectClass.keepsOutcome = false) :
    (do publishOffline id (← clearOutcomes id (site.entering id object .offline))) =
      .ok (site.settle id object .offline) := by
  rw [clearOutcomes_of_found (entering_found _ found), ok_bind]
  refine publish_settles _ _ _ found rfl rfl ?_ ?_
  · simp [ManagedObject.entered, forgets]
  · cases id <;> exact ⟨rfl, rfl⟩

theorem offline_settles_of_keeps (found : site.tree.get? id = some object)
    (keeps : id.objectClass.keepsOutcome = true) :
    (do publishOffline id (← clearStarted id (site.entering id object .offline))) =
      .ok (site.settle id object .offline) := by
  rw [clearStarted_of_found (entering_found _ found), ok_bind]
  refine publish_settles _ _ _ found rfl rfl ?_ ?_
  · simp [ManagedObject.entered, keeps]
  · cases id <;> exact ⟨rfl, rfl⟩

theorem dependency_settles (found : site.tree.get? id = some object)
    (keeps : id.objectClass.keepsOutcome = true) :
    (do publishDependency id (← clearStarted id (site.entering id object .dependency))) =
      .ok (site.settle id object .dependency) := by
  rw [clearStarted_of_found (entering_found _ found), ok_bind]
  refine publish_settles _ _ _ found rfl rfl ?_ ?_
  · simp [ManagedObject.entered, keeps]
  · cases id <;> exact ⟨rfl, rfl⟩

theorem channel_settles {bts trx ts : Nat} (found : site.tree.get? (.channel bts trx ts) = some object) :
    Channel.enter bts trx ts .notInstalled
      (site.entering (.channel bts trx ts) object .notInstalled) =
      .ok (site.settle (.channel bts trx ts) object .notInstalled) := by
  let entering := site.entering (.channel bts trx ts) object .notInstalled
  let freed : Site :=
    { entering.emit (.releaseTimeslot trx ts) with
      hardware := entering.hardware.releaseTimeslot (.channel bts trx ts) }
  have place : freed.tree.get? (.channel bts trx ts) = some { object with phase := .notInstalled } :=
    entering_found _ found
  have place' := Tree.get?_put_self
    { object with phase := .notInstalled, attributesSet := false, started := false, attributes := none }
    place
  show (do publishUninstalled _ (← reset _ freed)) = _
  rw [reset_of_found place, ok_bind, publishUninstalled, publish_of_found place']
  simp only [freed, entering, Site.inform, Site.settle, Site.entering, Site.put, Site.record,
    Site.emit, Tree.put_put]
  rfl

theorem changePhase_siteManager (dispatch : Dispatcher) {target : Phase}
    (found : site.tree.get? .siteManager = some object)
    (mayMove : Machine.mayMove .siteManager object.phase target = true) :
    changePhaseWith dispatch .siteManager target site = .ok (site.settle .siteManager object target) := by
  simp only [changePhaseWith, SiteManager.changePhase, move_of_found _ found mayMove]
  cases target with
  | notInstalled =>
    simp only [SiteManager.enter, clearOutcomes_of_found (entering_found _ found), ok_bind]
    exact publish_settles _ _ _ found rfl rfl
      (by simp [ManagedObject.entered, ObjectId.objectClass]) ⟨rfl, rfl⟩
  | dependency => cases mayMove
  | offline => exact offline_settles found rfl
  | enabled => exact publishEnabled_settles found

theorem changePhase_gprsNse (dispatch : Dispatcher) {target : Phase}
    (found : site.tree.get? .gprsNse = some object)
    (mayMove : Machine.mayMove .gprsNse object.phase target = true) :
    changePhaseWith dispatch .gprsNse target site = .ok (site.settle .gprsNse object target) := by
  simp only [changePhaseWith, GprsNse.changePhase, move_of_found _ found mayMove]
  cases target with
  | notInstalled => exact uninstall_settles found rfl
  | dependency => exact dependency_settles found rfl
  | offline => exact offline_settles_of_keeps found rfl
  | enabled => exact publishEnabled_settles found

theorem changePhase_bts (dispatch : Dispatcher) {bts : Nat} {target : Phase}
    (found : site.tree.get? (.bts bts) = some object)
    (mayMove : Machine.mayMove .bts object.phase target = true) :
    changePhaseWith dispatch (.bts bts) target site =
      giveNotice dispatch (.bts bts) object.phase target (site.settle (.bts bts) object target) := by
  simp only [changePhaseWith, Bts.changePhase, move_of_found _ found mayMove, Bts.enter, ← bind_assoc]
  cases target with
  | notInstalled =>
    dsimp only
    rw [uninstall_settles found rfl, ok_bind]
    cases object.phase <;> rfl
  | dependency => cases mayMove
  | offline =>
    dsimp only
    rw [offline_settles found rfl, ok_bind]
    cases object.phase <;> rfl
  | enabled =>
    dsimp only
    rw [publishEnabled_settles found, ok_bind]
    simp [giveNotice, notice?, ObjectId.objectClass]

theorem changePhase_transceiver (dispatch : Dispatcher) {bts trx : Nat} {target : Phase}
    (isPart : id = .radioCarrier bts trx ∨ id = .basebandTransceiver bts trx)
    (found : site.tree.get? id = some object)
    (mayMove : Machine.mayMove id.objectClass object.phase target = true) :
    changePhaseWith dispatch id target site =
      giveNotice dispatch id object.phase target (site.settle id object target) := by
  rcases isPart with rfl | rfl <;>
    simp only [changePhaseWith, RadioCarrier.changePhase, BasebandTransceiver.changePhase,
      move_of_found _ found mayMove, RadioCarrier.enter, BasebandTransceiver.enter, ← bind_assoc]
  all_goals
    cases target with
    | notInstalled =>
      dsimp only
      rw [uninstall_settles found rfl]
      cases object.phase <;> rfl
    | dependency => cases mayMove
    | offline =>
      dsimp only
      rw [offline_settles found rfl, ok_bind]
      cases object.phase <;> rfl
    | enabled =>
      dsimp only
      rw [publishEnabled_settles found, ok_bind]
      cases object.phase <;> rfl

theorem changePhase_channel (dispatch : Dispatcher) {bts trx ts : Nat} {target : Phase}
    (found : site.tree.get? (.channel bts trx ts) = some object)
    (mayMove : Machine.mayMove .channel object.phase target = true) :
    changePhaseWith dispatch (.channel bts trx ts) target site =
      .ok (site.settle (.channel bts trx ts) object target) := by
  simp only [changePhaseWith, Channel.changePhase, move_of_found _ found mayMove]
  cases target with
  | notInstalled => exact channel_settles found
  | dependency => exact dependency_settles found rfl
  | offline => exact offline_settles_of_keeps found rfl
  | enabled => exact publishEnabled_settles found

theorem changePhaseWith_of_found (dispatch : Dispatcher) {target : Phase}
    (found : site.tree.get? id = some object)
    (mayMove : Machine.mayMove id.objectClass object.phase target = true) :
    changePhaseWith dispatch id target site =
      giveNotice dispatch id object.phase target (site.settle id object target) := by
  cases id with
  | siteManager => exact changePhase_siteManager dispatch found mayMove
  | gprsNse => exact changePhase_gprsNse dispatch found mayMove
  | bts bts => exact changePhase_bts dispatch found mayMove
  | radioCarrier bts trx => exact changePhase_transceiver dispatch (.inl rfl) found mayMove
  | basebandTransceiver bts trx => exact changePhase_transceiver dispatch (.inr rfl) found mayMove
  | channel bts trx ts => exact changePhase_channel dispatch found mayMove

theorem runPending_idle (idle : site.pending = []) : runPending site = .ok site := by
  rw [runPending_eq_runAtMost, idle]
  rfl

end

end Management

end BaseStation
