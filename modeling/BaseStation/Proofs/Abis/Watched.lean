import BaseStation.Abis.Session

namespace BaseStation.Abis

inductive Happening
  | dialled (host : String) (accepted : Bool)
  | heard (event : LineEvent)
  | closed
  | notified (notice : Notice)
  deriving DecidableEq, Repr

structure Watched (τ : Type) where
  transport : τ
  record : List Happening

namespace Watched

variable {τ : Type} [Transport τ]

def connect (watched : Watched τ) (host : String) (tcpPort : UInt16) :
    Except SetupError Unit × Watched τ :=
  let (outcome, transport) := Transport.connect watched.transport host tcpPort
  (outcome, ⟨transport, watched.record ++ [.dialled host outcome.isOk]⟩)

def next? (watched : Watched τ) : Option (LineEvent × Watched τ) :=
  (Transport.next? watched.transport).map fun (event, rest) =>
    (event, ⟨rest, watched.record ++ [.heard event]⟩)

def close (watched : Watched τ) : Watched τ :=
  ⟨Transport.close watched.transport, watched.record ++ [.closed]⟩

instance : Transport (Watched τ) where
  connect := connect
  next? := next?
  close := close
  unread watched := Transport.unread watched.transport
  unread_lt_of_next? {watched rest event} next := by
    simp only [Watched.next?, Option.map_eq_some_iff] at next
    obtain ⟨⟨event', rest'⟩, told, same⟩ := next
    cases same
    exact Transport.unread_lt_of_next? told

theorem connect_eq (watched : Watched τ) (host : String) (tcpPort : UInt16) :
    Transport.connect watched host tcpPort =
      ((Transport.connect watched.transport host tcpPort).1,
        ⟨(Transport.connect watched.transport host tcpPort).2,
          watched.record ++ [.dialled host (Transport.connect watched.transport host tcpPort).1.isOk]⟩) :=
  rfl

theorem next?_eq (watched : Watched τ) :
    Transport.next? watched = (Transport.next? watched.transport).map fun (event, rest) =>
      (event, (⟨rest, watched.record ++ [.heard event]⟩ : Watched τ)) :=
  rfl

theorem close_eq (watched : Watched τ) :
    Transport.close watched = (⟨Transport.close watched.transport, watched.record ++ [.closed]⟩ : Watched τ) :=
  rfl

end Watched

namespace Session

variable {τ : Type} [Transport τ]

section hear

variable {session : Session τ} {rest : τ}

theorem hear_away (now : Nat) (away : session.link.state ≠ .connected) : session.hear now = .ok session := by
  rw [hear, if_neg away]

theorem hear_idle (now : Nat) (connected : session.link.state = .connected)
    (next : Transport.next? session.transport = none) : session.hear now = .ok session := by
  rw [hear, if_pos connected]
  split
  · rfl
  · rename_i told
    cases next.symm.trans told
  · rename_i told
    cases next.symm.trans told

theorem hear_up (now : Nat) (connected : session.link.state = .connected)
    (next : Transport.next? session.transport = some (.up, rest)) :
    session.hear now = ({ session with transport := rest } : Session τ).lineUp.hear now := by
  rw [hear, if_pos connected]
  split
  · rename_i told
    cases next.symm.trans told
  · rename_i told
    cases next.symm.trans told
    rfl
  · rename_i told
    cases next.symm.trans told

theorem hear_down (now : Nat) (connected : session.link.state = .connected)
    (next : Transport.next? session.transport = some (.down, rest)) :
    session.hear now = ({ session with transport := rest } : Session τ).lineDown now := by
  rw [hear, if_pos connected]
  split
  · rename_i told
    cases next.symm.trans told
  · rename_i told
    cases next.symm.trans told
  · rename_i told
    cases next.symm.trans told
    rfl

end hear

def unwatched (session : Session (Watched τ)) : Session τ :=
  ⟨session.link, session.transport.transport, session.notices⟩

omit [Transport τ] in
theorem unwatched_moveTo (target : LinkState) (session : Session (Watched τ)) :
    session.unwatched.moveTo target = (session.moveTo target).map unwatched := by
  simp only [moveTo, unwatched]
  cases session.link.moveTo target <;> rfl

theorem unwatched_fail (session : Session (Watched τ)) :
    session.unwatched.fail = session.fail.map unwatched := by
  simp only [fail, unwatched_moveTo]
  cases session.moveTo .failed <;> rfl

theorem unwatched_connect (session : Session (Watched τ)) :
    session.unwatched.connect = session.connect.map unwatched := by
  obtain ⟨link, ⟨transport, record⟩, notices⟩ := session
  simp only [connect, unwatched]
  cases ({ link with due := none } : Link).takeHost with
  | none => exact unwatched_fail ⟨{ link with due := none }, ⟨transport, record⟩, notices⟩
  | some taken =>
    obtain ⟨host, taken⟩ := taken
    simp only [Watched.connect_eq]
    obtain ⟨outcome, transport'⟩ := Transport.connect transport host taken.tcpPort
    let recorded : Watched τ := ⟨transport', record ++ [.dialled host outcome.isOk]⟩
    cases outcome with
    | ok _ => exact unwatched_moveTo .connected ⟨taken, recorded, notices⟩
    | error _ => exact unwatched_fail ⟨taken, recorded, notices⟩

theorem unwatched_lineDown (now : Nat) (session : Session (Watched τ)) :
    session.unwatched.lineDown now = (session.lineDown now).map unwatched := by
  obtain ⟨link, ⟨transport, record⟩, notices⟩ := session
  let closed : Session (Watched τ) :=
    ({ link := link.setLinksDown, transport := ⟨transport, record⟩, notices } : Session (Watched τ)).close
  cases up : link.wasUp with
  | true =>
    simp only [lineDown, unwatched, up, if_true]
    exact unwatched_fail closed
  | false =>
    let retry {σ : Type} (session : Session σ) : Except Fault (Session σ) :=
      session.link.retryFrom now >>= fun link => .ok { session with link := link }
    have alike (session : Session (Watched τ)) : retry session.unwatched = (retry session).map unwatched := by
      show (session.link.retryFrom now >>= _) = (session.link.retryFrom now >>= _ : Except Fault _).map _
      cases session.link.retryFrom now <;> rfl
    simp only [lineDown, unwatched, up]
    show closed.unwatched.moveTo .connecting >>= retry =
      (closed.moveTo .connecting >>= retry).map unwatched
    rw [unwatched_moveTo]
    cases closed.moveTo .connecting with
    | error fault => rfl
    | ok session => exact alike session

theorem unwatched_hear (now : Nat) (session : Session (Watched τ)) :
    session.unwatched.hear now = (session.hear now).map unwatched := by
  induction unread : Transport.unread session.transport using Nat.strongRecOn generalizing session with
  | ind count ih =>
    obtain ⟨link, ⟨transport, record⟩, notices⟩ := session
    let session : Session (Watched τ) := ⟨link, ⟨transport, record⟩, notices⟩
    by_cases connected : link.state = .connected
    · cases next : Transport.next? transport with
      | none =>
        have quiet : Transport.next? session.transport = none := by rw [Watched.next?_eq, next]; rfl
        rw [hear_idle now connected quiet]
        exact hear_idle now connected next
      | some told =>
        obtain ⟨event, rest⟩ := told
        let recorded : Watched τ := ⟨rest, record ++ [.heard event]⟩
        have next' : Transport.next? session.transport = some (event, recorded) := by
          rw [Watched.next?_eq, next]
          rfl
        have less : Transport.unread recorded < count := unread ▸ Transport.unread_lt_of_next? next'
        cases event with
        | up =>
          rw [hear_up now connected next']
          refine Eq.trans (hear_up now connected next) ?_
          exact ih _ less ({ session with transport := recorded } : Session (Watched τ)).lineUp rfl
        | down =>
          rw [hear_down now connected next']
          refine Eq.trans (hear_down now connected next) ?_
          exact unwatched_lineDown now { session with transport := recorded }
    · have away : session.link.state ≠ .connected := connected
      have away' : session.unwatched.link.state ≠ .connected := connected
      rw [hear_away now away]
      exact hear_away now away'

/-- A poll does not notice that it is watched. -/
theorem poll_unwatched (now : Nat) (link : Link) (watched : Watched τ) :
    poll now link watched.transport = (poll now link watched).map unwatched := by
  let session : Session (Watched τ) := ⟨link, watched, []⟩
  simp only [poll]
  by_cases due : link.isDue now
  · simp only [due, if_true]
    have connects : session.unwatched.connect = session.connect.map unwatched := unwatched_connect session
    show session.unwatched.connect >>= hear now = (session.connect >>= hear now).map unwatched
    rw [connects]
    cases session.connect with
    | error fault => rfl
    | ok next => exact unwatched_hear now next
  · simp only [due]
    exact unwatched_hear now session

end Session

end BaseStation.Abis
