import BaseStation.Management.Site

namespace BaseStation.Management

def updated (state : ObjectState) (operational : Option OperationalState)
    (availability : Option Availability) (administrative : Option AdminState) : ObjectState where
  operational := operational.getD state.operational
  availability := availability.getD state.availability
  administrative := administrative.getD state.administrative

/-- Updates the published state; the BSC is told only if that changes it. -/
def publish (id : ObjectId) (operational : Option OperationalState)
    (availability : Option Availability) (administrative : Option AdminState) : Step := fun site => do
  let object ← site.object id
  let state := updated object.published operational availability administrative
  if state = object.published then
    return site
  return (site.modify id fun object => { object with published := state }).report
    (.stateChanged id state)

def republish (id : ObjectId) : Step := fun site => do
  let object ← site.object id
  return site.report (.stateChanged id object.published)

def reportSoftware (id : ObjectId) (site : Site) : Site := site.report (.softwareActivated id)

def reset (id : ObjectId) : Step := fun site => do
  let _ ← site.object id
  return site.modify id fun object =>
    { object with attributesSet := false, started := false, attributes := none }

def clearOutcomes (id : ObjectId) : Step := fun site => do
  let _ ← site.object id
  return site.modify id fun object => { object with attributesSet := false, started := false }

def clearStarted (id : ObjectId) : Step := fun site => do
  let _ ← site.object id
  return site.modify id fun object => { object with started := false }

def setAttributes (id : ObjectId) (attributes : Attributes) : Step := fun site => do
  let _ ← site.object id
  match site.hardware.applyAttributes id attributes with
  | .ok (hardware, events) =>
    return (({ site with hardware := hardware }.raise events).modify id fun object =>
      { object.withAttributes attributes with attributesSet := true }).report (.ack id .setAttr)
  | .error cause =>
    return (site.modify id fun object => { object with attributesSet := false }).report
      (.nack id .setAttr cause)

def keepAttributes (id : ObjectId) (attributes : Attributes) : Step := fun site => do
  let _ ← site.object id
  return (site.modify id fun object =>
    { object.withAttributes attributes with attributesSet := true }).report (.ack id .setAttr)

def start (id : ObjectId) (site : Site) : Site := site.raise [site.hardware.start id]

/-- Starts an object whose last attributes were accepted and refuses to start any other. -/
def startConfigured (id : ObjectId) : Step := fun site => do
  let object ← site.object id
  if object.attributesSet then
    return start id site
  return site.report (.nack id .opstart .cantPerform)

def acknowledgeStart (id : ObjectId) : Step := fun site => do
  let _ ← site.object id
  return (site.modify id fun object => { object with started := true }).report (.ack id .opstart)

def refuseStart (id : ObjectId) (cause : NackCause) : Step := fun site => do
  let _ ← site.object id
  return (site.modify id fun object => { object with started := false }).report
    (.nack id .opstart cause)

def answerAdmin (id : ObjectId) (outcome : Except NackCause Unit) (site : Site) : Site :=
  match outcome with
  | .ok () => site.report (.ack id .chgAdmState)
  | .error cause => site.report (.nack id .chgAdmState cause)

def move (id : ObjectId) (target : Phase) (enter : Phase → Step) : Step := fun site => do
  let object ← site.object id
  Machine.requireMove id.objectClass id object.phase target
  enter object.phase
    ((site.modify id fun object => { object with phase := target }).record
      (.moved id object.phase target))

def publishUninstalled (id : ObjectId) : Step :=
  publish id (some .disabled) (some .notInstalled) (some .locked)

def publishOffline (id : ObjectId) : Step := publish id (some .disabled) (some .offLine) none

def publishDependency (id : ObjectId) : Step := publish id (some .disabled) (some .dependency) none

def publishEnabled (id : ObjectId) : Step := publish id (some .enabled) (some .ok) none

def dispatchEach (dispatch : Dispatcher) (ids : List ObjectId) (event : Event) : Step := fun site =>
  ids.foldlM (fun site id => dispatch id event site) site

def shutdown (dispatch : Dispatcher) (id : ObjectId) (uninstall : Step) (event : Event)
    (children : List ObjectId) : Step := fun site =>
  match event with
  | .shutdownStart => do
    dispatchEach dispatch children .shutdownStart
      (← publish id none none (some .shutdown) site)
  | .shutdownFinish => do
    uninstall (← dispatchEach dispatch children .shutdownFinish site)
  | event => .error (.notShutdown id event.kind)

def accepts (site : Site) (id : ObjectId) (kind : EventKind) : Except Fault Bool := do
  let object ← site.object id
  return Machine.accepts id.objectClass object.phase kind

def tryDispatch (dispatch : Dispatcher) (id : ObjectId) (event : Event) (site : Site) :
    Except Fault (Bool × Site) := do
  if ← accepts site id event.kind then
    return (true, ← dispatch id event site)
  return (false, site)

/-- Tells an object of an event unless it does not accept it. -/
def dispatchIfAccepted (dispatch : Dispatcher) : Dispatcher := fun id event site => do
  return (← tryDispatch dispatch id event site).2

/-- Enables one of the two objects of a transceiver if both links are up and it was started. -/
def tryEnable (id : ObjectId) (enable : Step) : Step := fun site => do
  let (bts, trx) ← match id with
    | .radioCarrier bts trx | .basebandTransceiver bts trx => .ok (bts, trx)
    | id => .error (.notTransceiver id)
  let object ← site.object id
  let (rsl, phy) := site.tree.links bts trx
  if rsl && phy && object.started then enable site else return site

end BaseStation.Management
