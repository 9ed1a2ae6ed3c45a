import BaseStation.Proofs.Abis.Watched

namespace BaseStation.Abis

namespace Link

def failed (link : Link) : Link := { link with state := .failed, due := none }

def retrying (now : Nat) (link : Link) : Link :=
  { link.setLinksDown with state := .connecting, due := some (now + link.reconnectDelay) }

def connected (link : Link) : Link := { link with state := .connected, due := none }

variable {link taken : Link} {host : String}

theorem isDue_iff {now : Nat} : link.isDue now = true ↔ ∃ due, link.due = some due ∧ due ≤ now := by
  simp [isDue, Option.any_eq_true]

theorem isSome_of_isDue {now : Nat} (due : link.isDue now = true) : link.due.isSome = true := by
  obtain ⟨moment, pending, _⟩ := isDue_iff.mp due
  rw [pending]
  rfl

theorem takeHost_eq_some : link.takeHost = some (host, taken) ↔
    ∃ place, link.next = some place ∧ link.hosts[place]? = some host ∧
      taken = { link with next := link.placeAfter place, attempts := link.attempts + 1 } := by
  unfold takeHost
  cases next : link.next with
  | none => simp
  | some place =>
    cases slot : link.hosts[place]? with
    | none => simp [slot]
    | some host' =>
      let tried : Link := { link with next := link.placeAfter place, attempts := link.attempts + 1 }
      have either : tried = taken ↔ taken = tried := eq_comm
      simp [slot, tried, either]

theorem state_of_takeHost (takes : link.takeHost = some (host, taken)) : taken.state = link.state := by
  obtain ⟨place, _, _, rfl⟩ := takeHost_eq_some.mp takes
  rfl

theorem reconnectDelay_of_takeHost (takes : link.takeHost = some (host, taken)) :
    taken.reconnectDelay = link.reconnectDelay := by
  obtain ⟨place, _, _, rfl⟩ := takeHost_eq_some.mp takes
  rfl

theorem takeHost_stopped (link : Link) : ({ link with due := none } : Link).takeHost =
    link.takeHost.map fun (host, taken) => (host, { taken with due := none }) := by
  obtain ⟨hosts, tcpPort, delay, state, next, attempts, due, omlUp, rslUp⟩ := link
  cases next with
  | none => rfl
  | some place =>
    unfold takeHost
    dsimp only
    cases hosts[place]? <;> rfl

end Link

/-- How a connected link hears what its transport has to tell: what happens, what its owner is told, and the
link afterwards. -/
inductive Hears (now : Nat) : Link → List Happening → List Notice → Link → Prop
  | idle (link : Link) : Hears now link [] [] link
  | up {link link' : Link} {acts : List Happening} {notices : List Notice}
      (rest : Hears now link.setLinksUp acts notices link') :
      Hears now link (.heard .up :: acts) (.up :: notices) link'
  | lost {link : Link} (up : link.wasUp = true) :
      Hears now link [.heard .down, .closed, .closed] [.failed] link.setLinksDown.failed
  | dropped {link : Link} (down : link.wasUp = false) :
      Hears now link [.heard .down, .closed] [] (link.retrying now)

inductive Polls (now : Nat) (link : Link) : List Happening → List Notice → Link → Prop
  | idle (early : link.isDue now = false) (away : link.state ≠ .connected) : Polls now link [] [] link
  | hears {link' : Link} {acts : List Happening} {notices : List Notice} (early : link.isDue now = false)
      (connected : link.state = .connected) (hears : Hears now link acts notices link') :
      Polls now link acts notices link'
  | exhausted (due : link.isDue now = true) (spent : link.takeHost = none) :
      Polls now link [.closed] [.failed] link.failed
  | refused {taken : Link} {host : String} (due : link.isDue now = true)
      (takes : link.takeHost = some (host, taken)) :
      Polls now link [.dialled host false, .closed] [.failed] taken.failed
  | connects {taken link' : Link} {host : String} {acts : List Happening} {notices : List Notice}
      (due : link.isDue now = true) (takes : link.takeHost = some (host, taken))
      (hears : Hears now taken.connected acts notices link') :
      Polls now link (.dialled host true :: acts) notices link'

section retries

variable {τ : Type} [Transport τ]

/-- The next that the transport tells of is that a line went down which had not come up. -/
def Link.LosesLine (link : Link) (transport : τ) : Prop :=
  link.wasUp = false ∧ ∃ rest, Transport.next? transport = some (.down, rest)

/-- A poll after which another host is to be tried. -/
inductive Retries (now : Nat) (link : Link) (transport : τ) : Prop
  | heard (early : link.isDue now = false) (connected : link.state = .connected) (drops : link.LosesLine transport)
  | dialled {taken : Link} {host : String} {line : τ} (due : link.isDue now = true)
      (takes : link.takeHost = some (host, taken))
      (accepted : Transport.connect transport host taken.tcpPort = (.ok (), line)) (drops : taken.LosesLine line)

end retries

namespace Session

variable {τ : Type} [Transport τ] {now : Nat} {link : Link} {transport : τ} {fault : Fault}

theorem fail_eq (session : Session τ) (mayFail : session.link.state.mayMove .failed = true) :
    session.fail =
      .ok ⟨session.link.failed, Transport.close session.transport, session.notices ++ [.failed]⟩ := by
  simp only [fail, moveTo, Link.moveTo, mayFail, if_true]
  rfl

theorem lineDown_lost (session : Session τ) (now : Nat) (connected : session.link.state = .connected)
    (up : session.link.wasUp = true) :
    session.lineDown now = .ok ⟨session.link.setLinksDown.failed,
      Transport.close (Transport.close session.transport), session.notices ++ [.failed]⟩ := by
  let closed : Session τ := ({ session with link := session.link.setLinksDown } : Session τ).close
  have mayFail : closed.link.state.mayMove .failed = true := by
    show session.link.state.mayMove .failed = true
    rw [connected]
    rfl
  have failed := fail_eq closed mayFail
  simp only [lineDown, up, if_true]
  exact failed

theorem lineDown_of_down (session : Session τ) (now : Nat) (connected : session.link.state = .connected)
    (down : session.link.wasUp = false) :
    session.lineDown now = ({ session.link.setLinksDown with state := .connecting } : Link).retryFrom now >>=
      fun link => .ok ⟨link, Transport.close session.transport, session.notices⟩ := by
  have mayRetry : session.link.setLinksDown.state.mayMove .connecting = true := by
    show session.link.state.mayMove .connecting = true
    rw [connected]
    rfl
  simp only [lineDown, down, close, moveTo, Link.moveTo, mayRetry, if_true]
  rfl

theorem lineDown_dropped (session : Session τ) (now : Nat) (connected : session.link.state = .connected)
    (down : session.link.wasUp = false) (inTime : now + session.link.reconnectDelay < Link.timeLimit) :
    session.lineDown now =
      .ok ⟨session.link.retrying now, Transport.close session.transport, session.notices⟩ := by
  let lowered : Link := { session.link.setLinksDown with state := .connecting }
  have retries : lowered.retryFrom now = .ok (session.link.retrying now) := if_pos inTime
  rw [lineDown_of_down session now connected down, retries]
  rfl

theorem lineDown_late (session : Session τ) (now : Nat) (connected : session.link.state = .connected)
    (down : session.link.wasUp = false) (late : Link.timeLimit ≤ now + session.link.reconnectDelay) :
    session.lineDown now = .error .timeOverflow := by
  let lowered : Link := { session.link.setLinksDown with state := .connecting }
  have hopeless : lowered.retryFrom now = .error .timeOverflow := if_neg (Nat.not_lt.mpr late)
  rw [lineDown_of_down session now connected down, hopeless]
  rfl

theorem hear_hears (now : Nat) (session : Session (Watched τ))
    (connected : session.link.state = .connected)
    (inTime : session.link.LosesLine session.transport.transport →
      now + session.link.reconnectDelay < Link.timeLimit) :
    ∃ acts notices link' transport', session.hear now =
        .ok ⟨link', ⟨transport', session.transport.record ++ acts⟩, session.notices ++ notices⟩ ∧
      Hears now session.link acts notices link' := by
  induction unread : Transport.unread session.transport using Nat.strongRecOn generalizing session with
  | ind count ih =>
    obtain ⟨link, ⟨transport, record⟩, notices⟩ := session
    let session : Session (Watched τ) := ⟨link, ⟨transport, record⟩, notices⟩
    have connected : link.state = .connected := connected
    cases next : Transport.next? transport with
    | none =>
      have quiet : Transport.next? session.transport = none := by rw [Watched.next?_eq, next]; rfl
      refine ⟨[], [], link, transport, ?_, .idle link⟩
      rw [hear_idle now connected quiet, List.append_nil, List.append_nil]
    | some told =>
      obtain ⟨event, rest⟩ := told
      let recorded : Watched τ := ⟨rest, record ++ [.heard event]⟩
      let told : Session (Watched τ) := ⟨link, recorded, notices⟩
      have next' : Transport.next? session.transport = some (event, recorded) := by
        rw [Watched.next?_eq, next]
        rfl
      cases event with
      | up =>
        have less : Transport.unread recorded < count := unread ▸ Transport.unread_lt_of_next? next'
        -- a line that came up is not dialled again
        obtain ⟨acts, more, link', transport', heard, hears⟩ :=
          ih _ less told.lineUp connected (by rintro ⟨⟨⟩, _⟩) rfl
        refine ⟨.heard .up :: acts, .up :: more, link', transport', ?_, .up hears⟩
        rw [hear_up now connected next']
        refine heard.trans ?_
        simp [told, recorded, lineUp, notify]
      | down =>
        rw [hear_down now connected next']
        cases up : link.wasUp with
        | true =>
          refine ⟨_, [.failed], _, Transport.close (Transport.close rest), ?_, .lost up⟩
          refine (lineDown_lost told now connected up).trans ?_
          simp [told, recorded, Watched.close_eq]
        | false =>
          refine ⟨_, [], _, Transport.close rest, ?_, .dropped up⟩
          refine (lineDown_dropped told now connected up (inTime ⟨up, rest, next⟩)).trans ?_
          simp [told, recorded, Watched.close_eq]

theorem connect_exhausted (session : Session τ) (connecting : session.link.state = .connecting)
    (spent : session.link.takeHost = none) :
    session.connect =
      .ok ⟨session.link.failed, Transport.close session.transport, session.notices ++ [.failed]⟩ := by
  simp only [connect, Link.takeHost_stopped, spent, Option.map_none]
  refine fail_eq { session with link := { session.link with due := none } } ?_
  show session.link.state.mayMove .failed = true
  rw [connecting]
  rfl

theorem connect_refused (session : Session τ) {taken : Link} {host : String} {cause : SetupError}
    {transport : τ} (connecting : session.link.state = .connecting)
    (takes : session.link.takeHost = some (host, taken))
    (refused : Transport.connect session.transport host taken.tcpPort = (.error cause, transport)) :
    session.connect = .ok ⟨taken.failed, Transport.close transport, session.notices ++ [.failed]⟩ := by
  simp only [connect, Link.takeHost_stopped, takes, Option.map_some, refused]
  refine fail_eq ⟨{ taken with due := none }, transport, session.notices⟩ ?_
  show taken.state.mayMove .failed = true
  rw [Link.state_of_takeHost takes, connecting]
  rfl

theorem connect_accepted (session : Session τ) {taken : Link} {host : String} {transport : τ}
    (connecting : session.link.state = .connecting) (takes : session.link.takeHost = some (host, taken))
    (accepted : Transport.connect session.transport host taken.tcpPort = (.ok (), transport)) :
    session.connect = .ok ⟨taken.connected, transport, session.notices⟩ := by
  have mayMove : ({ taken with due := none } : Link).state.mayMove .connected = true := by
    show taken.state.mayMove .connected = true
    rw [Link.state_of_takeHost takes, connecting]
    rfl
  simp only [connect, Link.takeHost_stopped, takes, Option.map_some, accepted, moveTo, Link.moveTo, mayMove,
    if_true]
  rfl

theorem poll_due {session : Session τ} (transport : τ) (due : link.isDue now = true)
    (connects : (⟨link, transport, []⟩ : Session τ).connect = .ok session) :
    poll now link transport = session.hear now := by
  simp only [poll, due, if_true, connects]
  rfl

theorem poll_early (transport : τ) (early : link.isDue now = false) :
    poll now link transport = (⟨link, transport, []⟩ : Session τ).hear now := by
  simp only [poll, early]
  rfl

theorem poll_idle (transport : τ) (early : link.isDue now = false) (away : link.state ≠ .connected) :
    poll now link transport = .ok ⟨link, transport, []⟩ := by
  rw [poll_early transport early]
  exact hear_away now away

theorem hear_late {session : Session τ} (connected : session.link.state = .connected)
    (drops : session.link.LosesLine session.transport)
    (late : Link.timeLimit ≤ now + session.link.reconnectDelay) : session.hear now = .error .timeOverflow := by
  obtain ⟨down, rest, next⟩ := drops
  rw [hear_down now connected next]
  exact lineDown_late _ now connected down late

theorem poll_late (timer : link.due.isSome = true → link.state = .connecting)
    (retries : Retries now link transport) (late : Link.timeLimit ≤ now + link.reconnectDelay) :
    poll now link transport = .error .timeOverflow := by
  cases retries with
  | heard early connected drops =>
    rw [poll_early transport early]
    exact hear_late connected drops late
  | @dialled taken _ line due takes accepted drops =>
    have connecting := timer (Link.isSome_of_isDue due)
    have connects := connect_accepted (⟨link, transport, []⟩ : Session τ) connecting takes accepted
    rw [poll_due transport due connects]
    refine hear_late rfl drops ?_
    show Link.timeLimit ≤ now + taken.reconnectDelay
    rw [Link.reconnectDelay_of_takeHost takes]
    exact late

theorem poll_due_polls (connecting : link.state = .connecting) {now : Nat} (due : link.isDue now = true)
    (inTime : Retries now link transport → now + link.reconnectDelay < Link.timeLimit) :
    ∃ acts notices link' transport',
      poll now link (⟨transport, []⟩ : Watched τ) = .ok ⟨link', ⟨transport', acts⟩, notices⟩ ∧
        Polls now link acts notices link' := by
  let watched : Watched τ := ⟨transport, []⟩
  let session : Session (Watched τ) := ⟨link, watched, []⟩
  cases takes : link.takeHost with
  | none =>
    have connects := connect_exhausted session connecting takes
    refine ⟨_, _, _, Transport.close transport, ?_, .exhausted due takes⟩
    rw [poll_due watched due connects, hear_away now (by rintro ⟨⟩)]
    rfl
  | some entry =>
    obtain ⟨host, taken⟩ := entry
    cases dials : Transport.connect transport host taken.tcpPort with
    | mk outcome transport' =>
      have recorded : Transport.connect watched host taken.tcpPort =
          (outcome, ⟨transport', [.dialled host outcome.isOk]⟩) := by
        rw [Watched.connect_eq, dials]
        rfl
      cases outcome with
      | error cause =>
        have connects := connect_refused session connecting takes recorded
        refine ⟨_, _, _, Transport.close transport', ?_, .refused due takes⟩
        rw [poll_due watched due connects, hear_away now (by rintro ⟨⟩)]
        rfl
      | ok _ =>
        have connects := connect_accepted session connecting takes recorded
        have soon (drops : taken.LosesLine transport') : now + taken.reconnectDelay < Link.timeLimit := by
          rw [Link.reconnectDelay_of_takeHost takes]
          exact inTime (.dialled due takes dials drops)
        obtain ⟨acts, notices, link', last, heard, hears⟩ :=
          hear_hears now ⟨taken.connected, (⟨transport', [.dialled host true]⟩ : Watched τ), []⟩ rfl soon
        refine ⟨.dialled host true :: acts, notices, link', last, ?_, .connects due takes hears⟩
        rw [poll_due watched due connects]
        exact heard

theorem poll_polls (timer : link.due.isSome = true → link.state = .connecting)
    (inTime : Retries now link transport → now + link.reconnectDelay < Link.timeLimit) :
    ∃ acts notices link' transport',
      poll now link (⟨transport, []⟩ : Watched τ) = .ok ⟨link', ⟨transport', acts⟩, notices⟩ ∧
        Polls now link acts notices link' := by
  let watched : Watched τ := ⟨transport, []⟩
  cases due : link.isDue now with
  | false =>
    by_cases connected : link.state = .connected
    · obtain ⟨acts, notices, link', transport', heard, hears⟩ :=
        hear_hears now (⟨link, watched, []⟩ : Session (Watched τ)) connected fun drops =>
          inTime (.heard due connected drops)
      rw [poll_early watched due]
      exact ⟨acts, notices, link', transport', heard, .hears due connected hears⟩
    · exact ⟨[], [], link, transport, poll_idle watched due connected, .idle due connected⟩
  | true => exact poll_due_polls (timer (Link.isSome_of_isDue due)) due inTime

theorem poll_ok (timer : link.due.isSome = true → link.state = .connecting)
    (inTime : Retries now link transport → now + link.reconnectDelay < Link.timeLimit) :
    ∃ session acts, poll now link transport = .ok session ∧
      Polls now link acts session.notices session.link := by
  obtain ⟨acts, notices, link', transport', polled, polls⟩ := poll_polls timer inTime
  refine ⟨⟨link', transport', notices⟩, acts, ?_, polls⟩
  have unwatched := poll_unwatched now link (⟨transport, []⟩ : Watched τ)
  rw [polled] at unwatched
  exact unwatched

theorem inTime_of_ok {session : Session τ} (timer : link.due.isSome = true → link.state = .connecting)
    (polled : poll now link transport = .ok session) (retries : Retries now link transport) :
    now + link.reconnectDelay < Link.timeLimit := by
  rw [← Nat.not_le]
  intro late
  cases (poll_late timer retries late).symm.trans polled

theorem polls_of_ok {session : Session τ} (timer : link.due.isSome = true → link.state = .connecting)
    (polled : poll now link transport = .ok session) :
    ∃ acts, Polls now link acts session.notices session.link := by
  obtain ⟨session', acts, polled', polls⟩ := poll_ok timer (inTime_of_ok timer polled)
  cases polled.symm.trans polled'
  exact ⟨acts, polls⟩

/-- A poll faults just if another host is to be tried at a time that the clock cannot tell. -/
theorem poll_eq_error_iff (timer : link.due.isSome = true → link.state = .connecting) :
    poll now link transport = .error fault ↔
      fault = .timeOverflow ∧ Link.timeLimit ≤ now + link.reconnectDelay ∧ Retries now link transport := by
  constructor
  · intro faults
    by_cases hopeless : Link.timeLimit ≤ now + link.reconnectDelay ∧ Retries now link transport
    · cases (poll_late timer hopeless.2 hopeless.1).symm.trans faults
      exact ⟨rfl, hopeless⟩
    · have inTime (retries : Retries now link transport) : now + link.reconnectDelay < Link.timeLimit :=
        Nat.not_le.mp fun late => hopeless ⟨late, retries⟩
      obtain ⟨session, _, polled, _⟩ := poll_ok timer inTime
      cases polled.symm.trans faults
  · rintro ⟨rfl, late, retries⟩
    exact poll_late timer retries late

end Session

end BaseStation.Abis
