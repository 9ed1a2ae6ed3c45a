namespace BaseStation.Abis

/-- States of the link to the BSC. A failed link stays failed. -/
inductive LinkState
  | connecting
  | connected
  | failed
  deriving DecidableEq, Repr

namespace LinkState

def name : LinkState → String
  | connecting => "Connecting"
  | connected => "Connected"
  | failed => "Failed"

def mayMove : LinkState → LinkState → Bool
  | connecting, connected | connecting, failed => true
  | connected, connecting | connected, failed => true
  | _, _ => false

end LinkState

end BaseStation.Abis
