import BaseStation.Management.Procedure

namespace BaseStation.Management

namespace RadioCarrier

def enter (dispatch : Dispatcher) (bts trx : Nat) (previous phase : Phase) : Step := fun site =>
  let id := .radioCarrier bts trx
  match phase with
  | .notInstalled => do publishUninstalled id (← reset id site)
  | .dependency => .error (.noSuchPhase .radioCarrier .dependency)
  | .offline => do
    let site ← publishOffline id (← clearOutcomes id site)
    if previous = .enabled then
      dispatchEach (dispatchIfAccepted dispatch) (site.tree.channelIds bts trx) .rcarrierDisabled site
    else
      return site
  | .enabled => do
    let site ← publishEnabled id site
    dispatchEach (dispatchIfAccepted dispatch) (site.tree.channelIds bts trx) .rcarrierEnabled site

def changePhase (dispatch : Dispatcher) (bts trx : Nat) (target : Phase) : Step :=
  move (.radioCarrier bts trx) target fun previous => enter dispatch bts trx previous target

def handle (dispatch : Dispatcher) (bts trx : Nat) (phase : Phase) (event : Event) : Step := fun site =>
  let id := .radioCarrier bts trx
  let enable := tryEnable id (changePhase dispatch bts trx .enabled)
  match event, phase with
  | .shutdownStart, _ | .shutdownFinish, _ =>
    shutdown dispatch id (changePhase dispatch bts trx .notInstalled) event [] site
  | .swAct, .notInstalled => changePhase dispatch bts trx .offline (reportSoftware id site)
  | .omlUp, .notInstalled | .omlUp, .offline => republish id site
  | .rxSetAttr attributes, .offline => setAttributes id attributes site
  | .rxOpstart, .offline => startConfigured id site
  | .opstartAck, .offline => do enable (← acknowledgeStart id site)
  | .opstartNack cause, .offline => refuseStart id cause site
  | .rslUp, .offline | .phyLinkUp, .offline => enable site
  | .rslDown, .enabled | .phyLinkDown, .enabled | .disable, .enabled =>
    changePhase dispatch bts trx .offline site
  | .rslUp, .notInstalled | .phyLinkUp, .notInstalled
  | .rslDown, .notInstalled | .phyLinkDown, .notInstalled | .disable, .notInstalled
  | .rslDown, .offline | .phyLinkDown, .offline | .disable, .offline => .ok site
  | event, phase => .error (.unhandled id event.kind phase)

end RadioCarrier

namespace BasebandTransceiver

def enter (dispatch : Dispatcher) (bts trx : Nat) (previous phase : Phase) : Step := fun site =>
  let id := .basebandTransceiver bts trx
  match phase with
  | .notInstalled => do publishUninstalled id (← reset id site)
  | .dependency => .error (.noSuchPhase .basebandTransceiver .dependency)
  | .offline => do
    let site ← publishOffline id (← clearOutcomes id site)
    if previous = .enabled then
      dispatchEach (dispatchIfAccepted dispatch) (site.tree.channelIds bts trx) .bbTranscDisabled site
    else
      return site
  | .enabled => do
    let site ← publishEnabled id site
    dispatchEach (dispatchIfAccepted dispatch) (site.tree.channelIds bts trx) .bbTranscEnabled site

def changePhase (dispatch : Dispatcher) (bts trx : Nat) (target : Phase) : Step :=
  move (.basebandTransceiver bts trx) target fun previous => enter dispatch bts trx previous target

def handle (dispatch : Dispatcher) (bts trx : Nat) (phase : Phase) (event : Event) : Step := fun site =>
  let id := .basebandTransceiver bts trx
  let enable := tryEnable id (changePhase dispatch bts trx .enabled)
  let channels := site.tree.channelIds bts trx
  match event, phase with
  | .shutdownStart, _ | .shutdownFinish, _ =>
    shutdown dispatch id (changePhase dispatch bts trx .notInstalled) event channels site
  | .swAct, .notInstalled => do
    dispatchEach dispatch channels .swAct
      (← changePhase dispatch bts trx .offline (reportSoftware id site))
  | .omlUp, .notInstalled | .omlUp, .offline => do
    dispatchEach (dispatchIfAccepted dispatch) channels .omlUp (← republish id site)
  | .rxSetAttr attributes, .offline => setAttributes id attributes site
  -- not every BSC sends attributes for this class
  | .rxOpstart, .offline => .ok (start id site)
  | .opstartAck, .offline => do enable (← acknowledgeStart id site)
  | .opstartNack cause, .offline => refuseStart id cause site
  | .rslUp, .offline | .phyLinkUp, .offline => enable site
  | .rslDown, .enabled | .phyLinkDown, .enabled | .disable, .enabled =>
    changePhase dispatch bts trx .offline site
  | .rslUp, .notInstalled | .phyLinkUp, .notInstalled
  | .rslDown, .notInstalled | .phyLinkDown, .notInstalled | .disable, .notInstalled
  | .rslDown, .offline | .phyLinkDown, .offline | .disable, .offline => .ok site
  | event, phase => .error (.unhandled id event.kind phase)

end BasebandTransceiver

end BaseStation.Management
