import BaseStation.Stack.Basic

namespace BaseStation

/-- What the outside shows before a frame. -/
structure Moment where
  running : Bool
  now : Nat
  deriving DecidableEq, Repr

namespace Stack

variable {τ : Type} [Abis.Transport τ]

def startPart (now : Nat) (stack : Stack τ) (entity : Entity) : Except Fault (Stack τ) :=
  match stack.part? entity with
  | none => .ok stack
  | some part => do return stack.settle (← part.startFrame stack.flags stack.time now)

def startFrame (now : Nat) (stack : Stack τ) : Except Fault (Stack τ) :=
  (stack.parts.map (·.entity)).foldlM (startPart now) stack

def endFrame (stack : Stack τ) : Except Fault (Bool × Stack τ) := do
  let stop := stack.parts.any (·.component.wantsStop stack.time)
  let stack ← stack.deliverAll
  return (stop, { stack with time := stack.time.advance 1 })

def frame (now : Nat) (stack : Stack τ) : Except Fault (Bool × Stack τ) := do
  endFrame (← deliverAll (← stack.startFrame now))

/-- Runs frames from number `done` on. The limit is looked at after a frame. -/
def runFrom (world : Nat → Moment) (limit : Option Nat) :
    Nat → Nat → Stack τ → Except Fault (Nat × Stack τ)
  | 0, done, stack => .ok (done, stack)
  | fuel + 1, done, stack =>
    if !(world done).running then .ok (done, stack)
    else do
      let (stop, stack) ← stack.frame (world done).now
      if stop || limit.any (· ≤ done + 1) then return (done + 1, stack)
      runFrom world limit fuel (done + 1) stack

/-- Frames after which a run without a limit is given up: twice round the frame clock. -/
def patience : Nat := 2 * hyperframe

def run (stack : Stack τ) (limit : Option Nat) (world : Nat → Moment) :
    Except Fault (Nat × Stack τ) :=
  stack.runFrom world limit (max 1 (limit.getD patience)) 0

end Stack

end BaseStation
