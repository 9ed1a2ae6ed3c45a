import BaseStation.Text.Named

namespace BaseStation

inductive OperationalState
  | disabled
  | enabled
  deriving DecidableEq, Repr

namespace OperationalState

def all : List OperationalState := [disabled, enabled]

def name : OperationalState → String
  | disabled => "Disabled"
  | enabled => "Enabled"

instance : Named OperationalState := ⟨all, name⟩

end OperationalState

inductive Availability
  | notInstalled
  | offLine
  | dependency
  | ok
  deriving DecidableEq, Repr

namespace Availability

def all : List Availability := [notInstalled, offLine, dependency, ok]

def name : Availability → String
  | notInstalled => "NotInstalled"
  | offLine => "OffLine"
  | dependency => "Dependency"
  | ok => "Ok"

instance : Named Availability := ⟨all, name⟩

end Availability

inductive AdminState
  | locked
  | unlocked
  | shutdown
  deriving DecidableEq, Repr

namespace AdminState

def all : List AdminState := [locked, unlocked, shutdown]

def name : AdminState → String
  | locked => "Locked"
  | unlocked => "Unlocked"
  | shutdown => "Shutdown"

instance : Named AdminState := ⟨all, name⟩

end AdminState

structure ObjectState where
  operational : OperationalState
  availability : Availability
  administrative : AdminState
  deriving DecidableEq, Repr

namespace ObjectState

def initial : ObjectState := ⟨.disabled, .notInstalled, .locked⟩

instance : Inhabited ObjectState := ⟨initial⟩

/-- An object is enabled exactly when it is fully available. -/
def isConsistent (state : ObjectState) : Bool :=
  (state.operational == .enabled) == (state.availability == .ok)

def text (state : ObjectState) : String :=
  state.operational.name ++ "/" ++ state.availability.name ++ "/" ++ state.administrative.name

end ObjectState

end BaseStation
