import BaseStation.Management.Procedure

namespace BaseStation.Management.Channel

def enter (bts trx ts : Nat) (phase : Phase) : Step := fun site =>
  let id := .channel bts trx ts
  match phase with
  | .notInstalled => do
    let site := site.emit (.releaseTimeslot trx ts)
    let site ← reset id { site with hardware := site.hardware.releaseTimeslot id }
    publishUninstalled id site
  | .dependency => do publishDependency id (← clearStarted id site)
  | .offline => do publishOffline id (← clearStarted id site)
  | .enabled => publishEnabled id site

def changePhase (bts trx ts : Nat) (target : Phase) : Step :=
  move (.channel bts trx ts) target fun _ => enter bts trx ts target

def handle (dispatch : Dispatcher) (bts trx ts : Nat) (phase : Phase) (event : Event) : Step :=
  fun site =>
  let id := .channel bts trx ts
  let canStart := site.tree.channelsCanStart bts trx
  match event, phase with
  | .shutdownStart, _ | .shutdownFinish, _ =>
    shutdown dispatch id (changePhase bts trx ts .notInstalled) event [] site
  | .omlUp, .notInstalled | .omlUp, .dependency | .omlUp, .offline => republish id site
  | .swAct, .notInstalled =>
    changePhase bts trx ts (if canStart then .offline else .dependency) (reportSoftware id site)
  | .rxSetAttr attributes, .dependency | .rxSetAttr attributes, .offline =>
    setAttributes id attributes site
  | .rxOpstart, .dependency | .rxOpstart, .offline => startConfigured id site
  | .opstartAck, .dependency | .opstartAck, .offline => do
    changePhase bts trx ts .enabled (← acknowledgeStart id site)
  | .opstartNack cause, .dependency | .opstartNack cause, .offline => refuseStart id cause site
  | .bbTranscEnabled, .dependency | .rcarrierEnabled, .dependency =>
    if canStart then changePhase bts trx ts .offline site else .ok site
  | .bbTranscDisabled, .dependency | .rcarrierDisabled, .dependency => .ok site
  | .bbTranscDisabled, .offline | .rcarrierDisabled, .offline
  | .bbTranscDisabled, .enabled | .rcarrierDisabled, .enabled =>
    if canStart then .ok site else changePhase bts trx ts .dependency site
  | .disable, .enabled => changePhase bts trx ts .offline site
  | event, phase => .error (.unhandled id event.kind phase)

end BaseStation.Management.Channel
