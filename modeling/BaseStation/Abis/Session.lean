import BaseStation.Abis.Link

namespace BaseStation.Abis

structure Session (τ : Type) where
  link : Link
  transport : τ
  notices : List Notice

namespace Session

variable {τ : Type} [Transport τ]

def moveTo (target : LinkState) (session : Session τ) : Except Fault (Session τ) := do
  return { session with link := ← session.link.moveTo target }

def notify (notice : Notice) (session : Session τ) : Session τ :=
  { session with notices := session.notices ++ [notice] }

def close (session : Session τ) : Session τ :=
  { session with transport := Transport.close session.transport }

def fail (session : Session τ) : Except Fault (Session τ) := do
  let session ← session.moveTo .failed
  return { session.close with link := { session.link with due := none } }.notify .failed

def connect (session : Session τ) : Except Fault (Session τ) :=
  let link := { session.link with due := none }
  match link.takeHost with
  | none => { session with link := link }.fail
  | some (host, link) =>
    let (outcome, transport) := Transport.connect session.transport host link.tcpPort
    let session := { session with link := link, transport := transport }
    match outcome with
    | .ok () => session.moveTo .connected
    | .error _ => session.fail

def lineDown (now : Nat) (session : Session τ) : Except Fault (Session τ) :=
  let wasUp := session.link.wasUp
  let session := { session with link := session.link.setLinksDown }.close
  if wasUp then session.fail
  else do
    let session ← session.moveTo .connecting
    return { session with link := ← session.link.retryFrom now }

def lineUp (session : Session τ) : Session τ :=
  { session with link := session.link.setLinksUp }.notify .up

def hear (now : Nat) (session : Session τ) : Except Fault (Session τ) :=
  if session.link.state = .connected then
    match next : Transport.next? session.transport with
    | none => .ok session
    | some (.up, rest) =>
      have := Transport.unread_lt_of_next? next
      hear now ({ session with transport := rest } : Session τ).lineUp
    | some (.down, rest) => { session with transport := rest }.lineDown now
  else .ok session
termination_by Transport.unread session.transport
decreasing_by exact this

def poll (now : Nat) (link : Link) (transport : τ) : Except Fault (Session τ) := do
  let session : Session τ := ⟨link, transport, []⟩
  let session ← if link.isDue now then session.connect else .ok session
  session.hear now

end Session

end BaseStation.Abis
