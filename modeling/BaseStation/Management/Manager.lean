import BaseStation.Management.Dispatch
import BaseStation.Effect

namespace BaseStation

structure Manager where
  tree : Tree
  hardware : Hardware
  tracing : Bool
  trace : List Management.Trace
  stopping : Bool
  deriving DecidableEq, Repr

namespace Manager

open Management

def ofConfig (config : SiteConfig) (hardware : Hardware) : Manager where
  tree := .fresh config.bts.numTrx.toNat config.bts.channelsNeedCarrier config.bts.dummyLinks
  hardware := hardware
  tracing := false
  trace := []
  stopping := false

def fresh (config : SiteConfig) : Manager := ofConfig config (.fresh config.bts.numTrx.toNat)

section dispatcher

variable (dispatch : Dispatcher)

def runWith (manager : Manager) (flags : LinkFlags) (time : FrameTime) (step : Step) :
    Except Fault (Effect Manager) := do
  let site ← runPendingWith dispatch (← step (.quiet manager.tree manager.hardware))
  let state := { manager with
    tree := site.tree
    hardware := site.hardware
    trace := if manager.tracing then manager.trace ++ site.trace else manager.trace }
  return ⟨state, flags, site.outputs.map (.ofPrimitive time)⟩

def changeAdminWith (id : ObjectId) (admin : AdminState) : Step := fun site =>
  match site.hardware.changeAdmin id admin with
  | .error cause => .ok (answerAdmin id (.error cause) site)
  | .ok () => do
    let site ← if admin = .locked then dispatchIfAccepted dispatch id .disable site else .ok site
    return answerAdmin id (.ok ()) (← publish id none none (some admin) site)

def stepOfRequestWith : Request → Step
  | .setAttributes id attributes => dispatch id (.rxSetAttr attributes)
  | .start id => dispatch id .rxOpstart
  | .changeAdmin id admin => changeAdminWith dispatch id admin

def receiveRequestWith (manager : Manager) (flags : LinkFlags) (time : FrameTime) (request : Request) :
    Except Fault (Effect Manager) :=
  if manager.tree.contains request.id then
    manager.runWith dispatch flags time (stepOfRequestWith dispatch request)
  else
    .ok ⟨manager, flags,
      [.ofPrimitive time (.report (.nack request.id request.procedure .objInstanceUnknown))]⟩

/-- Both objects of a transceiver, each told of the events it accepts. -/
def tellTransceiverWith (trx : Nat) (events : List Event) : Step := fun site => do
  let tell (id : ObjectId) (site : Site) : Except Fault Site :=
    events.foldlM (fun site event => dispatchIfAccepted dispatch id event site) site
  tell (.basebandTransceiver 0 trx) (← tell (.radioCarrier 0 trx) site)

def tearDownWith : Step := fun site => do
  let site ← dispatch .siteManager .shutdownStart site
  let site ← dispatch .siteManager .shutdownFinish site
  return { site with hardware := site.hardware.close }

def receiveLinkWith (manager : Manager) (flags : LinkFlags) (time : FrameTime) (control : LinkControl) :
    Except Fault (Effect Manager) :=
  let known (trx : Nat) : Bool := (manager.tree.transceiver? 0 trx).isSome
  match control with
  | .phyLinkUp trx =>
    if known trx then
      { manager with tree := manager.tree.setPhy 0 trx true }.runWith dispatch
        { flags with phyLinkUp := true } time (tellTransceiverWith dispatch trx [.swAct, .phyLinkUp])
    else .ok (.silent manager flags)
  | .phyLinkDown trx =>
    if known trx then
      { manager with tree := manager.tree.setPhy 0 trx false }.runWith dispatch flags time
        (tellTransceiverWith dispatch trx [.phyLinkDown])
    else .ok (.silent manager flags)
  | .omlLinkUp =>
    manager.runWith dispatch { flags with omlLinkUp := true } time
      (dispatchIfAccepted dispatch .siteManager .omlUp)
  | .rslLinkUp trx =>
    if known trx then
      { manager with tree := manager.tree.setRsl 0 trx true }.runWith dispatch flags time
        (tellTransceiverWith dispatch trx [.rslUp])
    else .ok (.silent manager flags)
  | .abisLinkFailed => do
    let effect ← { manager with tree := manager.tree.dropRsl }.runWith dispatch
      { flags with omlLinkUp := false } time (tearDownWith dispatch)
    return { effect with state := { effect.state with stopping := true } }

/-- A manager receives a message. Primitives meant for others are ignored. -/
def receiveWith (manager : Manager) (flags : LinkFlags) (message : Message) :
    Except Fault (Effect Manager) :=
  match message.primitive with
  | .request request => manager.receiveRequestWith dispatch flags message.created request
  | .link control => manager.receiveLinkWith dispatch flags message.created control
  | _ => .ok (.silent manager flags)

end dispatcher

def run : Manager → LinkFlags → FrameTime → Step → Except Fault (Effect Manager) := runWith dispatch

def changeAdmin : ObjectId → AdminState → Step := changeAdminWith dispatch

def stepOfRequest : Request → Step := stepOfRequestWith dispatch

def receiveRequest : Manager → LinkFlags → FrameTime → Request → Except Fault (Effect Manager) :=
  receiveRequestWith dispatch

def tellTransceiver : Nat → List Event → Step := tellTransceiverWith dispatch

def tearDown : Step := tearDownWith dispatch

def receiveLink : Manager → LinkFlags → FrameTime → LinkControl → Except Fault (Effect Manager) :=
  receiveLinkWith dispatch

def receive : Manager → LinkFlags → Message → Except Fault (Effect Manager) := receiveWith dispatch

section equations

variable (manager : Manager) (flags : LinkFlags) (time : FrameTime)

theorem run_eq (step : Step) : manager.run flags time step = do
    let site ← runPending (← step (.quiet manager.tree manager.hardware))
    let state := { manager with
      tree := site.tree
      hardware := site.hardware
      trace := if manager.tracing then manager.trace ++ site.trace else manager.trace }
    return ⟨state, flags, site.outputs.map (.ofPrimitive time)⟩ := rfl

theorem changeAdmin_eq (id : ObjectId) (admin : AdminState) (site : Site) : changeAdmin id admin site =
    match site.hardware.changeAdmin id admin with
    | .error cause => .ok (answerAdmin id (.error cause) site)
    | .ok () => do
      let site ← if admin = .locked then dispatchIfAccepted dispatch id .disable site else .ok site
      return answerAdmin id (.ok ()) (← publish id none none (some admin) site) := rfl

theorem receiveRequest_eq (request : Request) : manager.receiveRequest flags time request =
    if manager.tree.contains request.id then manager.run flags time (stepOfRequest request)
    else
      .ok ⟨manager, flags,
        [.ofPrimitive time (.report (.nack request.id request.procedure .objInstanceUnknown))]⟩ := rfl

theorem receiveLink_eq (control : LinkControl) : manager.receiveLink flags time control =
    let known (trx : Nat) : Bool := (manager.tree.transceiver? 0 trx).isSome
    match control with
    | .phyLinkUp trx =>
      if known trx then
        { manager with tree := manager.tree.setPhy 0 trx true }.run { flags with phyLinkUp := true } time
          (tellTransceiver trx [.swAct, .phyLinkUp])
      else .ok (.silent manager flags)
    | .phyLinkDown trx =>
      if known trx then
        { manager with tree := manager.tree.setPhy 0 trx false }.run flags time
          (tellTransceiver trx [.phyLinkDown])
      else .ok (.silent manager flags)
    | .omlLinkUp =>
      manager.run { flags with omlLinkUp := true } time (dispatchIfAccepted dispatch .siteManager .omlUp)
    | .rslLinkUp trx =>
      if known trx then
        { manager with tree := manager.tree.setRsl 0 trx true }.run flags time
          (tellTransceiver trx [.rslUp])
      else .ok (.silent manager flags)
    | .abisLinkFailed => do
      let effect ← { manager with tree := manager.tree.dropRsl }.run { flags with omlLinkUp := false } time
        tearDown
      return { effect with state := { effect.state with stopping := true } } := rfl

theorem receive_eq (message : Message) : manager.receive flags message =
    match message.primitive with
    | .request request => manager.receiveRequest flags message.created request
    | .link control => manager.receiveLink flags message.created control
    | _ => .ok (.silent manager flags) := rfl

end equations

def takeTrace (manager : Manager) : List Management.Trace × Manager :=
  (manager.trace, { manager with trace := [] })

end Manager

end BaseStation
