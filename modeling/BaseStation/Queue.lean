import BaseStation.Primitive

namespace BaseStation

structure Queue where
  messages : List Message
  deriving DecidableEq, Repr

namespace Queue

def empty : Queue := ⟨[]⟩

def push (queue : Queue) (message : Message) : Queue := ⟨queue.messages ++ [message]⟩

def pushAll (queue : Queue) (messages : List Message) : Queue := ⟨queue.messages ++ messages⟩

def pushUrgent (queue : Queue) (message : Message) : Queue := ⟨message :: queue.messages⟩

def pop? (queue : Queue) : Option (Message × Queue) :=
  match queue.messages with
  | [] => none
  | message :: rest => some (message, ⟨rest⟩)

def length (queue : Queue) : Nat := queue.messages.length

def isEmpty (queue : Queue) : Bool := queue.messages.isEmpty

end Queue

end BaseStation
