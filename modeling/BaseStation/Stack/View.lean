import BaseStation.Stack.Assembly

namespace BaseStation

def Hardware.channelPchans (hardware : Hardware) (numTrx : Nat) : List (ObjectId × Pchan) :=
  (ObjectId.channels 0 numTrx).filterMap fun id => (hardware.pchan? id).map (id, ·)

def Abis.ScriptedTransport.dialledText (transport : ScriptedTransport) : List String :=
  transport.dialled.map fun (host, tcpPort) => host ++ ":" ++ toString tcpPort.toNat

/-- Asks again for a log in a process that has one. The first keeps printing; a file that is named is
opened and keeps what it holds, and its writer has to be kept. The answer is whether there is a writer,
and what the file holds. -/
def Log.reopen (file : Option String) : Bool × Option String := (file.isSome, file)

namespace Stack

variable {τ : Type} [Abis.Transport τ]

def component? (stack : Stack τ) (entity : Entity) : Option (Component τ) :=
  (stack.part? entity).map (·.component)

def layer1? (stack : Stack τ) : Option Layer1 :=
  match stack.component? .layer1 with
  | some (.layer1 layer1) => some layer1
  | _ => none

def endpoint? (stack : Stack τ) : Option (Abis.Endpoint τ) :=
  match stack.component? .abis with
  | some (.endpoint endpoint) => some endpoint
  | _ => none

def setComponent (stack : Stack τ) (component : Component τ) : Stack τ :=
  stack.modifyPart component.entity (·.become component)

def channel? (stack : Stack τ) (chan : ChannelAddress) : Option LogicalChannel :=
  stack.layer1?.bind (·.get? chan)

def setChannel (stack : Stack τ) (chan : ChannelAddress) (lchan : LogicalChannel) : Stack τ :=
  match stack.layer1? with
  | none => stack
  | some layer1 => stack.setComponent (.layer1 (layer1.modify chan fun _ => lchan))

def measure (stack : Stack τ) (chan : ChannelAddress) (sample : Lchan.Sample) (frame : Nat) :
    Except Lchan.MeasurementError (Bool × Stack τ) := do
  let (done, layer1) ← (stack.layer1?.getD .empty).measure chan frame sample
  return (done, stack.setComponent (.layer1 layer1))

def tryMeasure (chan : ChannelAddress) (sample : Lchan.Sample) (frame : Nat) (stack : Stack τ) :
    Bool × Stack τ :=
  match stack.measure chan sample frame with
  | .ok measured => measured
  | .error _ => (false, stack)

def received (stack : Stack τ) : List (Entity × List Message) :=
  stack.parts.filterMap fun part =>
    match part.component with
    | .recorder recorder =>
      if recorder.received.isEmpty then none else some (recorder.entity, recorder.received)
    | _ => none

def trace (stack : Stack τ) : List Management.Trace :=
  stack.parts.flatMap fun part =>
    match part.component with
    | .manager manager => manager.trace
    | _ => []

def forget (stack : Stack τ) : Stack τ :=
  { stack with parts := stack.parts.map fun part =>
    match part.component with
    | .recorder recorder => part.become (.recorder recorder.take.2)
    | .manager manager => part.become (.manager manager.takeTrace.2)
    | _ => part }

end Stack

end BaseStation
