import BaseStation.Management.Procedure

namespace BaseStation.Management.SiteManager

/-- The site manager keeps its attributes when it is uninstalled. -/
def enter (phase : Phase) : Step := fun site =>
  match phase with
  | .notInstalled => do publishUninstalled .siteManager (← clearOutcomes .siteManager site)
  | .dependency => .error (.noSuchPhase .siteManager .dependency)
  | .offline => do publishOffline .siteManager (← clearOutcomes .siteManager site)
  | .enabled => publishEnabled .siteManager site

def changePhase (target : Phase) : Step := move .siteManager target fun _ => enter target

def handle (dispatch : Dispatcher) (phase : Phase) (event : Event) : Step := fun site =>
  let children := site.tree.siteChildren
  match event, phase with
  | .shutdownStart, _ | .shutdownFinish, _ =>
    shutdown dispatch .siteManager (changePhase .notInstalled) event children site
  | .omlUp, .notInstalled => do
    dispatchEach dispatch children .omlUp (← changePhase .offline (reportSoftware .siteManager site))
  | .rxSetAttr attributes, .offline => keepAttributes .siteManager attributes site
  | .rxOpstart, .offline => .ok (start .siteManager site)
  | .opstartAck, .offline => do changePhase .enabled (← acknowledgeStart .siteManager site)
  | .opstartNack cause, .offline => refuseStart .siteManager cause site
  | event, phase => .error (.unhandled .siteManager event.kind phase)

end BaseStation.Management.SiteManager
