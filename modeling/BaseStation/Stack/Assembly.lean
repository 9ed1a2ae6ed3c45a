import BaseStation.Stack.Run

namespace BaseStation

def Component.ofEntity {τ : Type} (config : SiteConfig) (hardware : Hardware) (tracing : Bool)
    (transport : τ) : Entity → Except Abis.SetupError (Component τ)
  | .phy => .ok (.phy .fresh)
  | .layer1 => .ok (.layer1 .empty)
  | .oml => .ok (.manager { Manager.ofConfig config hardware with tracing := tracing })
  | .abis => do return .endpoint (← Abis.Endpoint.ofConfig config transport)

namespace Part

variable {τ : Type}

def ofComponent (config : SiteConfig) (component : Component τ) : Part τ := ⟨component, config, true⟩

end Part

namespace Stack

variable {τ : Type} [Abis.Transport τ]

/-- A stack of the given components, all going by one configuration. -/
def ofComponents (config : SiteConfig) (time : FrameTime) (components : List (Component τ)) :
    Stack τ :=
  (components.map (Part.ofComponent config)).foldl register (.empty time)

def ofConfig (config : SiteConfig) (transport : τ) : Except Abis.SetupError (Stack τ) := do
  let hardware := Hardware.fresh config.bts.numTrx.toNat
  let phy := if config.backend = .virtual then [Entity.phy] else []
  let components ← (phy ++ [Entity.layer1, .oml, .abis]).mapM
    (Component.ofEntity config hardware false transport)
  return .ofComponents config ⟨0⟩ components

end Stack

end BaseStation
