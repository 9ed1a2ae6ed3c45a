import BaseStation.Phy
import BaseStation.Layer1
import BaseStation.Management.Manager
import BaseStation.Abis.Endpoint
import BaseStation.Stack.Recorder

namespace BaseStation

inductive Component (τ : Type)
  | phy (phy : Phy)
  | layer1 (layer1 : Layer1)
  | manager (manager : Manager)
  | endpoint (endpoint : Abis.Endpoint τ)
  | recorder (recorder : Recorder)

structure Part (τ : Type) where
  component : Component τ
  config : SiteConfig
  /-- The link flags it sets are those of the stack. -/
  shared : Bool

namespace Component

def entity {τ : Type} : Component τ → Entity
  | phy _ => .phy
  | layer1 _ => .layer1
  | manager _ => .oml
  | endpoint _ => .abis
  | recorder r => r.entity

def wantsStop {τ : Type} (component : Component τ) (time : FrameTime) : Bool :=
  match component with
  | phy _ | layer1 _ => false
  | manager m => m.stopping
  | endpoint e => e.failed
  | recorder r => r.stopAt == some time.frame

end Component

namespace Part

variable {τ : Type} [Abis.Transport τ]

def entity (part : Part τ) : Entity := part.component.entity

def become (part : Part τ) (component : Component τ) : Part τ := { part with component := component }

def effectOf {σ : Type} (part : Part τ) (flags : LinkFlags) (wrap : σ → Component τ)
    (effect : Effect σ) : Effect (Part τ) :=
  ⟨part.become (wrap effect.state), if part.shared then effect.flags else flags, effect.sent⟩

def receive (part : Part τ) (flags : LinkFlags) (message : Message) :
    Except Fault (Effect (Part τ)) :=
  match part.component with
  | .phy phy => .ok (.silent (part.become (.phy (phy.receive message))) flags)
  | .layer1 layer1 =>
    let (layer1, sent) := layer1.receive part.config message
    .ok ⟨part.become (.layer1 layer1), flags, sent⟩
  | .manager manager => do
    return part.effectOf flags .manager (← manager.receive flags message)
  | .endpoint endpoint =>
    .ok (.silent (part.become (.endpoint (endpoint.receive part.config message))) flags)
  | .recorder recorder => .ok (.silent (part.become (.recorder (recorder.receive message))) flags)

def startFrame (part : Part τ) (flags : LinkFlags) (time : FrameTime) (now : Nat) :
    Except Fault (Effect (Part τ)) :=
  match part.component with
  | .phy phy =>
    let (phy, sent) := phy.startFrame part.config time
    .ok ⟨part.become (.phy phy), flags, sent⟩
  | .endpoint endpoint => do
    return part.effectOf flags .endpoint (← endpoint.startFrame part.config flags time now)
  | .layer1 _ | .manager _ | .recorder _ => .ok (.silent part flags)

end Part

end BaseStation
