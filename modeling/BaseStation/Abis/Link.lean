import BaseStation.Fault
import BaseStation.Abis.Transport

namespace BaseStation.Abis

inductive Notice
  | up
  | failed
  deriving DecidableEq, Repr

def Notice.name : Notice → String
  | up => "SignLinkUp"
  | failed => "Failed"

/-- The link to a BSC. Times are in milliseconds. -/
structure Link where
  hosts : List String
  tcpPort : UInt16
  reconnectDelay : Nat
  state : LinkState
  next : Option Nat
  attempts : Nat
  due : Option Nat
  omlUp : Bool
  rslUp : List Bool
  deriving DecidableEq, Repr

namespace Link

def ofConfig (config : AbisConfig) (numTrx : Nat) : Except SetupError Link :=
  if config.hosts = [] then .error .noHosts
  else .ok
    { hosts := config.hosts
      tcpPort := config.tcpPort
      reconnectDelay := config.reconnectDelay.toNat * 1000
      state := .connecting
      next := some 0
      attempts := 0
      due := none
      omlUp := false
      rslUp := List.replicate numTrx false }

/-- Times lie before it; the clock counts seconds in 63 bits. -/
def timeLimit : Nat := 0x8000000000000000 * 1000

def nextHost? (link : Link) : Option String := link.next.bind (link.hosts[·]?)

def isRslUp (link : Link) (trx : Nat) : Bool := link.rslUp.getD trx false

def start (link : Link) (now : Nat) : Link := { link with due := some now }

def isDue (link : Link) (now : Nat) : Bool := link.due.any (· ≤ now)

/-- The link whose next host is to be tried after the delay. -/
def retryFrom (link : Link) (now : Nat) : Except Fault Link :=
  if now + link.reconnectDelay < timeLimit then .ok { link with due := some (now + link.reconnectDelay) }
  else .error .timeOverflow

def moveTo (link : Link) (target : LinkState) : Except Fault Link :=
  if link.state.mayMove target then .ok { link with state := target }
  else .error (.linkMoveRefused link.state target)

def placeAfter (link : Link) (place : Nat) : Option Nat :=
  if place + 1 < link.hosts.length then some (place + 1) else none

/-- The host to try now. It counts as tried, and the place moves on whatever comes of it. -/
def takeHost (link : Link) : Option (String × Link) :=
  match link.next with
  | none => none
  | some place =>
    match link.hosts[place]? with
    | none => none
    | some host =>
      some (host, { link with next := link.placeAfter place, attempts := link.attempts + 1 })

def setLinksUp (link : Link) : Link :=
  { link with omlUp := true, rslUp := link.rslUp.map fun _ => true }

def setLinksDown (link : Link) : Link :=
  { link with omlUp := false, rslUp := link.rslUp.map fun _ => false }

def wasUp (link : Link) : Bool := link.omlUp || link.rslUp.any id

/-- The place to try next once the host at `removed` is gone: it stays with its host, and passes to the
host behind, or else before, if it is that host which is gone. -/
def placeWithout (link : Link) (removed : Nat) : Option Nat :=
  match link.next with
  | none => none
  | some place =>
    if place = removed then
      if link.hosts.length ≤ 1 then none
      else if place + 1 = link.hosts.length then some (place - 1)
      else some place
    else if removed < place then some (place - 1)
    else some place

def removeHost (link : Link) (host : String) : Bool × Link :=
  match link.hosts.findIdx? (· == host) with
  | none => (false, link)
  | some place =>
    (true, { link with hosts := link.hosts.eraseIdx place, next := link.placeWithout place })

end Link

end BaseStation.Abis
