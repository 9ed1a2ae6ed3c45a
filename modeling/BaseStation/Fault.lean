import BaseStation.Object.Machine
import BaseStation.Config.Basic
import BaseStation.Abis.State

namespace BaseStation

/-- Faults end the stack. -/
inductive Fault
  | unknownObject (id : ObjectId)
  | eventRefused (cls : ObjectClass) (id : ObjectId) (kind : EventKind) (phase : Phase)
  | moveRefused (cls : ObjectClass) (id : ObjectId) (source target : Phase)
  | noSuchPhase (cls : ObjectClass) (phase : Phase)
  | unhandled (id : ObjectId) (kind : EventKind) (phase : Phase)
  | notTransceiver (id : ObjectId)
  | notShutdown (id : ObjectId) (kind : EventKind)
  | nestingExceeded (id : ObjectId)
  | linkMoveRefused (source target : Abis.LinkState)
  | timeOverflow
  | invalidConfig (reason : SiteConfig.Invalid)
  | zeroPeriod
  deriving DecidableEq, Repr

namespace Fault

def unreachableText : String := "internal error: entered unreachable code: "

def message : Fault → String
  | unknownObject id => "unknown managed object " ++ id.text
  | eventRefused cls id kind phase =>
    cls.machineName ++ "[" ++ id.text ++ "]: event " ++ kind.name ++ " not permitted in state "
      ++ phase.name
  | moveRefused cls id source target =>
    cls.machineName ++ "[" ++ id.text ++ "]: transition " ++ source.name ++ " -> " ++ target.name
      ++ " not permitted"
  | noSuchPhase cls phase => cls.machineName ++ ": state " ++ phase.name ++ " does not exist"
  | unhandled id kind phase =>
    unreachableText ++ id.text ++ ": unhandled " ++ kind.name ++ " in " ++ phase.name
  | notTransceiver id => unreachableText ++ id.text ++ " is not a TRX object"
  | notShutdown id kind =>
    unreachableText ++ id.text ++ ": " ++ kind.name ++ " is not a shutdown event"
  | nestingExceeded id => unreachableText ++ id.text ++ " nested too deep"
  | linkMoveRefused source target =>
    "AbisLinkFsm: transition " ++ source.name ++ " -> " ++ target.name ++ " not permitted"
  | timeOverflow => "overflow when adding duration to instant"
  | invalidConfig reason => "Invalid stack configuration: " ++ reason.message
  | zeroPeriod => "attempt to calculate the remainder with a divisor of zero"

end Fault

end BaseStation
