import BaseStation.Primitive

namespace BaseStation

/-- Stands in for a part of the stack: keeps what it receives, and may ask the stack to stop at a
frame. -/
structure Recorder where
  entity : Entity
  received : List Message
  stopAt : Option Nat
  deriving DecidableEq, Repr

namespace Recorder

def fresh (entity : Entity) (stopAt : Option Nat) : Recorder := ⟨entity, [], stopAt⟩

def receive (recorder : Recorder) (message : Message) : Recorder :=
  { recorder with received := recorder.received ++ [message] }

def take (recorder : Recorder) : List Message × Recorder :=
  (recorder.received, { recorder with received := [] })

end Recorder

end BaseStation
