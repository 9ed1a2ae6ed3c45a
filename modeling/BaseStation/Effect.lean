import BaseStation.Config.Basic
import BaseStation.Primitive

namespace BaseStation

/-- What a part of the stack made of an input: its state and the link flags afterwards, and the
messages it sent, in order. -/
structure Effect (σ : Type) where
  state : σ
  flags : LinkFlags
  sent : List Message

def Effect.silent {σ : Type} (state : σ) (flags : LinkFlags) : Effect σ := ⟨state, flags, []⟩

end BaseStation
