import BaseStation.Stack.Part
import BaseStation.Queue

namespace BaseStation

structure Stack (τ : Type) where
  /-- In the order of registration, at most one for each entity. -/
  parts : List (Part τ)
  queue : Queue
  time : FrameTime
  flags : LinkFlags

namespace Stack

variable {τ : Type} [Abis.Transport τ]

def empty (time : FrameTime) : Stack τ := ⟨[], .empty, time, .initial⟩

def part? (stack : Stack τ) (entity : Entity) : Option (Part τ) :=
  stack.parts.find? (·.entity == entity)

/-- Adds a part. One of the same entity is replaced in its place. -/
def register (stack : Stack τ) (part : Part τ) : Stack τ :=
  if (stack.part? part.entity).isSome then
    { stack with parts := stack.parts.map fun old => if old.entity = part.entity then part else old }
  else { stack with parts := stack.parts ++ [part] }

def modifyPart (stack : Stack τ) (entity : Entity) (f : Part τ → Part τ) : Stack τ :=
  { stack with parts := stack.parts.map fun part => if part.entity = entity then f part else part }

def configure (stack : Stack τ) (entity : Entity) (config : SiteConfig) : Stack τ :=
  stack.modifyPart entity fun part => { part with config := config, shared := false }

def submit (stack : Stack τ) (message : Message) : Stack τ :=
  { stack with queue := stack.queue.push message }

def settle (stack : Stack τ) (effect : Effect (Part τ)) : Stack τ :=
  { stack.modifyPart effect.state.entity (fun _ => effect.state) with
    flags := effect.flags
    queue := stack.queue.pushAll effect.sent }

/-- Delivers the message that waits longest; one for a part that is not there is dropped. -/
def deliver (stack : Stack τ) : Except Fault (Stack τ) :=
  match stack.queue.pop? with
  | none => .ok stack
  | some (message, queue) =>
    let stack := { stack with queue := queue }
    match stack.part? message.dest with
    | none => .ok stack
    | some part => do return stack.settle (← part.receive stack.flags message)

def deliverMany : Nat → Stack τ → Except Fault (Stack τ)
  | 0, stack => .ok stack
  | count + 1, stack => do deliverMany count (← stack.deliver)

def deliverRound (stack : Stack τ) : Except Fault (Stack τ) := stack.deliverMany stack.queue.length

def deliverRounds : Nat → Stack τ → Except Fault (Stack τ)
  | 0, stack => .ok stack
  | rounds + 1, stack => do deliverRounds rounds (← stack.deliverRound)

/-- The manager releases timeslots, layer 1 deactivates the channels on them, and the PHY sends
nothing. -/
def longestChain : Nat := 3

def deliverAll (stack : Stack τ) : Except Fault (Stack τ) := stack.deliverRounds longestChain

end Stack

end BaseStation
