namespace BaseStation.Abis

inductive SetupError
  | noHosts
  | resolve (text : String)
  | connect (text : String)
  deriving DecidableEq, Repr

namespace SetupError

def name : SetupError → String
  | noHosts => "NoHosts"
  | resolve _ => "Resolve"
  | connect _ => "Connect"

def message : SetupError → String
  | noHosts => "no BSC host configured"
  | resolve text => "resolve failed: " ++ text
  | connect text => "connect failed: " ++ text

end SetupError

inductive LineEvent
  | up
  | down
  deriving DecidableEq, Repr

/-- A transport. It has finitely many events to tell at a time. -/
class Transport (τ : Type) where
  connect : τ → String → UInt16 → Except SetupError Unit × τ
  next? : τ → Option (LineEvent × τ)
  close : τ → τ
  unread : τ → Nat
  unread_lt_of_next? : ∀ {transport rest : τ} {event : LineEvent},
    next? transport = some (event, rest) → unread rest < unread transport

/-- A transport that tells what it was given to tell, and keeps a record of how it was used. -/
structure ScriptedTransport where
  events : List LineEvent
  refusing : Bool
  dialled : List (String × UInt16)
  closed : Nat
  deriving DecidableEq, Repr

namespace ScriptedTransport

def fresh : ScriptedTransport := ⟨[], false, [], 0⟩

def connect (transport : ScriptedTransport) (host : String) (tcpPort : UInt16) :
    Except SetupError Unit × ScriptedTransport :=
  (if transport.refusing then .error (.connect "refused") else .ok (),
    { transport with dialled := transport.dialled ++ [(host, tcpPort)] })

def next? (transport : ScriptedTransport) : Option (LineEvent × ScriptedTransport) :=
  match transport.events with
  | [] => none
  | event :: rest => some (event, { transport with events := rest })

def close (transport : ScriptedTransport) : ScriptedTransport :=
  { transport with closed := transport.closed + 1 }

def tell (transport : ScriptedTransport) (event : LineEvent) : ScriptedTransport :=
  { transport with events := transport.events ++ [event] }

instance : Transport ScriptedTransport where
  connect := connect
  next? := next?
  close := close
  unread transport := transport.events.length
  unread_lt_of_next? {transport rest event} next := by
    unfold ScriptedTransport.next? at next
    split at next
    · cases next
    · rename_i events
      cases next
      simp [events]

end ScriptedTransport

end BaseStation.Abis
