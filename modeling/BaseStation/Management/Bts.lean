import BaseStation.Management.Procedure

namespace BaseStation.Management.Bts

def enter (dispatch : Dispatcher) (bts : Nat) (previous phase : Phase) : Step := fun site => do
  let id := .bts bts
  let site ← match phase with
    | .notInstalled => do publishUninstalled id (← reset id site)
    | .dependency => .error (.noSuchPhase .bts .dependency)
    | .offline => do publishOffline id (← clearOutcomes id site)
    | .enabled => do dispatch .gprsNse .btsEnabled (← publishEnabled id site)
  if previous = .enabled ∧ phase ≠ .enabled then
    dispatch .gprsNse .btsDisabled site
  else
    return site

def changePhase (dispatch : Dispatcher) (bts : Nat) (target : Phase) : Step :=
  move (.bts bts) target fun previous => enter dispatch bts previous target

def handle (dispatch : Dispatcher) (bts : Nat) (phase : Phase) (event : Event) : Step := fun site =>
  let id := .bts bts
  let children := site.tree.transceiverIds bts
  match event, phase with
  | .shutdownStart, _ | .shutdownFinish, _ =>
    shutdown dispatch id (changePhase dispatch bts .notInstalled) event children site
  | .omlUp, .notInstalled => do
    dispatchEach (dispatchIfAccepted dispatch) children .omlUp
      (← changePhase dispatch bts .offline (reportSoftware id site))
  | .omlUp, .offline => republish id site
  | .rxSetAttr attributes, .offline => setAttributes id attributes site
  | .rxOpstart, .offline => startConfigured id site
  | .opstartAck, .offline => do changePhase dispatch bts .enabled (← acknowledgeStart id site)
  | .opstartNack cause, .offline => refuseStart id cause site
  | event, phase => .error (.unhandled id event.kind phase)

end BaseStation.Management.Bts
