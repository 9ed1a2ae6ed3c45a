import BaseStation.Management.Procedure

namespace BaseStation.Management.GprsNse

def enter (phase : Phase) : Step := fun site =>
  match phase with
  | .notInstalled => do publishUninstalled .gprsNse (← reset .gprsNse site)
  | .dependency => do publishDependency .gprsNse (← clearStarted .gprsNse site)
  | .offline => do publishOffline .gprsNse (← clearStarted .gprsNse site)
  | .enabled => publishEnabled .gprsNse site

def changePhase (target : Phase) : Step := move .gprsNse target fun _ => enter target

def handle (dispatch : Dispatcher) (phase : Phase) (event : Event) : Step := fun site =>
  match event, phase with
  | .shutdownStart, _ | .shutdownFinish, _ =>
    shutdown dispatch .gprsNse (changePhase .notInstalled) event [] site
  | .omlUp, .notInstalled =>
    changePhase (if site.tree.bts.isEnabled then .offline else .dependency)
      (reportSoftware .gprsNse site)
  | .omlUp, .dependency | .omlUp, .offline => republish .gprsNse site
  | .rxSetAttr attributes, .dependency | .rxSetAttr attributes, .offline =>
    setAttributes .gprsNse attributes site
  | .rxOpstart, .offline => startConfigured .gprsNse site
  | .opstartAck, .offline => do changePhase .enabled (← acknowledgeStart .gprsNse site)
  | .opstartNack cause, .offline => refuseStart .gprsNse cause site
  | .btsEnabled, .dependency => changePhase .offline site
  | .btsDisabled, .offline | .btsDisabled, .enabled => changePhase .dependency site
  | .btsEnabled, _ | .btsDisabled, _ => .ok site
  | event, phase => .error (.unhandled .gprsNse event.kind phase)

end BaseStation.Management.GprsNse
