import BaseStation.Config.Shared
import BaseStation.Stack.Assembly

namespace BaseStation

def load (path : String) : IO (Except LoadError SharedConfig) := do
  let octets ← try pure (some (← IO.FS.readBinFile path)) catch _ => pure none
  match octets with
  | none => return .error .noFile
  | some octets =>
    match SharedConfig.ofOctets octets.toList with
    | .error fault => throw (IO.userError fault.message)
    | .ok loaded => return loaded

/-- Runs a stack until a part asks it to stop. -/
def runToEnd (start : Stack Abis.ScriptedTransport) : IO Bool := do
  let mut stack := start
  repeat
    match stack.frame (← IO.monoMsNow) with
    | .error fault => throw (IO.userError fault.message)
    | .ok (stop, next) =>
      stack := next
      if stop then break
      IO.sleep 5
  return stack.flags.linkFailed

end BaseStation

open BaseStation in
def main (args : List String) : IO UInt32 := do
  let [path] := args
    | IO.eprintln "usage: base-station CONFIG"
      return 2
  match ← load path with
  | .error reason =>
    IO.println ("Failed to load configuration from " ++ path ++ ": " ++ reason.message)
    return 1
  | .ok shared =>
    let config := shared.config
    if config.backend = .none then
      IO.eprintln " -> No PHY configured, transceivers stay down"
    -- No network is at hand: each BSC refuses the connection.
    match Stack.ofConfig config { Abis.ScriptedTransport.fresh with refusing := true } with
    | .error reason =>
      IO.println ("Failed to set up Abis link: " ++ reason.message)
      return 1
    | .ok stack => return if ← runToEnd stack then 1 else 0
