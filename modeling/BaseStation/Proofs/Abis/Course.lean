import BaseStation.Proofs.Abis.LinkSound

namespace BaseStation.Abis

def entries (now : Nat) (acts : List Happening) (notices : List Notice) : List (Nat × Happening) :=
  (acts ++ notices.map Happening.notified).map (now, ·)

theorem entries_nil (now : Nat) : entries now [] [] = [] := rfl

theorem entries_snoc (now : Nat) (acts : List Happening) (notices : List Notice) (notice : Notice) :
    entries now acts (notices ++ [notice]) = entries now acts notices ++ [(now, .notified notice)] := by
  simp [entries]

theorem mem_entries {now : Nat} {acts : List Happening} {notices : List Notice} {entry : Nat × Happening} :
    entry ∈ entries now acts notices ↔
      entry.1 = now ∧ (entry.2 ∈ acts ∨ ∃ notice ∈ notices, entry.2 = .notified notice) := by
  obtain ⟨moment, act⟩ := entry
  simp only [entries, List.mem_map, List.mem_append, Prod.mk.injEq]
  constructor
  · rintro ⟨act', mem, rfl, rfl⟩
    exact ⟨rfl, mem.imp_right fun ⟨notice, mem, same⟩ => ⟨notice, mem, same.symm⟩⟩
  · rintro ⟨rfl, mem⟩
    exact ⟨act, mem.imp_right fun ⟨notice, mem, same⟩ => ⟨notice, mem, same.symm⟩, rfl, rfl⟩

/-- What becomes of a link that is made for a list of hosts, started at most once, and otherwise polled and
rid of hosts at any time. The transport, of which nothing is assumed, may be in any state at each poll. -/
inductive Course (τ : Type) [Transport τ] (config : AbisConfig) (numTrx : Nat) :
    List String → Bool → List (Nat × Happening) → Link → Prop
  | make {link : Link} (made : Link.ofConfig config numTrx = .ok link) : Course τ config numTrx [] false [] link
  | start {removed : List String} {history : List (Nat × Happening)} {link : Link} (now : Nat)
      (course : Course τ config numTrx removed false history link) :
      Course τ config numTrx removed true history (link.start now)
  | poll {removed : List String} {started : Bool} {history : List (Nat × Happening)} {link : Link}
      {session : Session (Watched τ)} (now : Nat) (transport : τ)
      (course : Course τ config numTrx removed started history link)
      (polled : Session.poll now link ⟨transport, []⟩ = .ok session) :
      Course τ config numTrx removed started (history ++ entries now session.transport.record session.notices)
        session.link
  | remove {removed : List String} {started : Bool} {history : List (Nat × Happening)} {link : Link}
      (host : String) (course : Course τ config numTrx removed started history link) :
      Course τ config numTrx (removed ++ [host]) started history (link.removeHost host).2

namespace Course

variable {τ : Type} [Transport τ] {config : AbisConfig} {numTrx now : Nat} {removed : List String}
  {started : Bool} {history : List (Nat × Happening)} {link : Link}

theorem polls_of_polled {link : Link} {transport : τ} {session : Session (Watched τ)}
    (sound : link.Sound numTrx) (polled : Session.poll now link ⟨transport, []⟩ = .ok session) :
    Polls now link session.transport.record session.notices session.link := by
  have unwatched := Session.poll_unwatched now link (⟨transport, []⟩ : Watched τ)
  rw [polled] at unwatched
  obtain ⟨acts, notices, link', transport', polled', polls⟩ :=
    Session.poll_polls sound.timer (Session.inTime_of_ok sound.timer unwatched)
  cases polled.symm.trans polled'
  exact polls

theorem idle_of_not_started (course : Course τ config numTrx removed started history link)
    (early : started = false) : link.state = .connecting ∧ link.due = none ∧ history = [] := by
  induction course with
  | make made =>
    unfold Link.ofConfig at made
    split at made <;> cases made
    exact ⟨rfl, rfl, rfl⟩
  | start now course ih => cases early
  | poll now transport course polled ih =>
    obtain ⟨connecting, timer, rfl⟩ := ih early
    rename_i link session
    have notDue : link.isDue now = false := by simp [Link.isDue, timer]
    have away : link.state ≠ .connected := by rw [connecting]; decide
    cases (Session.poll_idle (⟨transport, []⟩ : Watched τ) notDue away).symm.trans polled
    exact ⟨connecting, timer, rfl⟩
  | remove host course ih =>
    obtain ⟨connecting, timer, rfl⟩ := ih early
    unfold Link.removeHost
    split <;> exact ⟨connecting, timer, rfl⟩

theorem sound (course : Course τ config numTrx removed started history link) : link.Sound numTrx := by
  induction course with
  | make made => exact Link.Sound.ofConfig made
  | start now course ih =>
    have connecting := (course.idle_of_not_started rfl).1
    exact ⟨fun _ => connecting, ih.rsl, ih.up⟩
  | poll now transport course polled ih => exact (polls_of_polled ih polled).sound ih
  | remove host course ih => exact ih.removeHost host

theorem reconnectDelay (course : Course τ config numTrx removed started history link) :
    link.reconnectDelay = config.reconnectDelay.toNat * 1000 := by
  induction course with
  | make made =>
    unfold Link.ofConfig at made
    split at made <;> cases made
    rfl
  | start now course ih => exact ih
  | poll now transport course polled ih =>
    have polls := polls_of_polled course.sound polled
    exact polls.reconnectDelay.trans ih
  | remove host course ih =>
    unfold Link.removeHost
    split <;> exact ih

theorem state_removeHost (link : Link) (host : String) : (link.removeHost host).2.state = link.state := by
  unfold Link.removeHost
  split <;> rfl

end Course

/-- The failure of the link is the last that happened, and was told once; without it nothing was told of
one. -/
structure Reported (history : List (Nat × Happening)) (link : Link) : Prop where
  last : link.state = .failed → ∃ before moment, history = before ++ [(moment, .notified .failed)] ∧
    ∀ entry ∈ before, entry.2 ≠ .notified .failed
  never : link.state ≠ .failed → ∀ entry ∈ history, entry.2 ≠ .notified .failed

variable {τ : Type} [Transport τ] {config : AbisConfig} {numTrx now : Nat} {removed : List String}
  {started : Bool} {history : List (Nat × Happening)} {link : Link}

theorem failed_not_mem_entries {acts : List Happening} {notices : List Notice}
    (acted : .notified .failed ∉ acts) (told : .failed ∉ notices) :
    ∀ entry ∈ entries now acts notices, entry.2 ≠ .notified .failed := by
  intro entry mem failed
  rcases (mem_entries.mp mem).2 with act | ⟨notice, mem, same⟩
  · exact acted (failed ▸ act)
  · cases same.symm.trans failed
    exact told mem

theorem Reported.poll {acts : List Happening} {notices : List Notice} {link' : Link}
    (reported : Reported history link) (sound : link.Sound numTrx)
    (polls : Polls now link acts notices link') : Reported (history ++ entries now acts notices) link' := by
  by_cases failed : link.state = .failed
  · obtain ⟨rfl, rfl, rfl⟩ := polls.of_failed sound failed
    rw [entries_nil, List.append_nil]
    exact reported
  · obtain ⟨tells, silent⟩ := polls.announces failed
    have quiet := polls.ne_notified .failed
    have before : ∀ entry ∈ history, entry.2 ≠ .notified .failed := reported.never failed
    refine ⟨fun failed' => ?_, fun running => ?_⟩
    · obtain ⟨told, rfl, never⟩ := tells failed'
      refine ⟨history ++ entries now acts told, now, ?_, ?_⟩
      · rw [entries_snoc, List.append_assoc]
      · exact List.forall_mem_append.mpr ⟨before, failed_not_mem_entries quiet never⟩
    · exact List.forall_mem_append.mpr ⟨before, failed_not_mem_entries quiet (silent running)⟩

theorem Course.reported (course : Course τ config numTrx removed started history link) :
    Reported history link := by
  induction course with
  | make made =>
    unfold Link.ofConfig at made
    split at made <;> cases made
    exact ⟨by rintro ⟨⟩, fun _ _ mem => absurd mem List.not_mem_nil⟩
  | start now course ih => exact ⟨ih.last, ih.never⟩
  | poll now transport course polled ih => exact ih.poll course.sound (polls_of_polled course.sound polled)
  | @remove _ _ _ link host course ih =>
    have same := state_removeHost link host
    exact ⟨fun failed => ih.last (same ▸ failed), fun running => ih.never (same ▸ running)⟩

/-- What a link does at any time. -/
structure Safe (τ : Type) [Transport τ] (config : AbisConfig) (numTrx : Nat)
    (history : List (Nat × Happening)) (link : Link) : Prop where
  /-- A poll faults just if the next host is to be tried at a time that the clock cannot tell. -/
  faults : ∀ now (transport : τ) fault, Session.poll now link transport = .error fault ↔
    fault = .timeOverflow ∧ Link.timeLimit ≤ now + config.reconnectDelay.toNat * 1000 ∧
      Retries now link transport
  /-- A poll tells of a failure when the link enters it. -/
  told : ∀ now (transport : τ) session, Session.poll now link transport = .ok session →
    session.notices.count .failed = if link.state ≠ .failed ∧ session.link.state = .failed then 1 else 0
  /-- A failed link stays as it is and leaves the transport alone. -/
  final : link.state = .failed → (∀ host, (link.removeHost host).2.state = .failed) ∧
    ∀ now (transport : τ), Session.poll now link transport = .ok ⟨link, transport, []⟩
  /-- Hosts are dialled while connecting, as the first that happens in a poll, and one in a poll. -/
  dials : ∀ now (transport : τ) session, Session.poll now link (⟨transport, []⟩ : Watched τ) = .ok session →
    (∃ act ∈ session.transport.record, act.isDial = true) →
    link.state = .connecting ∧ ∃ host accepted rest,
      session.transport.record = .dialled host accepted :: rest ∧ ∀ act ∈ rest, act.isDial = false
  reported : Reported history link
  timer : link.due.isSome = true → link.state = .connecting
  linksUp : link.omlUp = true ↔ ∀ trx < numTrx, link.isRslUp trx = true
  up : link.omlUp = true → link.state = .connected

theorem told_of_polled {transport : τ} {session : Session τ} (sound : link.Sound numTrx)
    (polled : Session.poll now link transport = .ok session) :
    session.notices.count .failed =
      if link.state ≠ .failed ∧ session.link.state = .failed then 1 else 0 := by
  obtain ⟨acts, polls⟩ := Session.polls_of_ok sound.timer polled
  by_cases failed : link.state = .failed
  · obtain ⟨_, silent, _⟩ := polls.of_failed sound failed
    simp [silent, failed]
  · rw [(polls.announces failed).count]
    simp [failed]

theorem poll_of_failed (sound : link.Sound numTrx) (failed : link.state = .failed) (now : Nat)
    (transport : τ) : Session.poll now link transport = .ok ⟨link, transport, []⟩ := by
  have away : link.state ≠ .connected := by rw [failed]; decide
  have early : link.isDue now = false := by
    rw [← Bool.not_eq_true]
    intro due
    cases (sound.connecting_of_due due).symm.trans failed
  exact Session.poll_idle transport early away

/-- Every list with a host in it makes a link. Whatever a transport does, and whenever the link is polled or
loses hosts, it is safe; what a poll cannot do is to set the timer beyond the times of the clock. -/
theorem Course.safe (τ : Type) [Transport τ] (config : AbisConfig) (numTrx : Nat) (hosts : config.hosts ≠ [])
    (carriers : 0 < numTrx) : (∃ link, Link.ofConfig config numTrx = .ok link) ∧
      ∀ removed started history link, Course τ config numTrx removed started history link →
        Safe τ config numTrx history link := by
  refine ⟨⟨_, if_neg hosts⟩, fun removed started history link course => ?_⟩
  have sound := course.sound
  refine ⟨fun now transport fault => ?_, fun now transport session polled => told_of_polled sound polled,
    fun failed => ⟨fun host => ?_, poll_of_failed sound failed⟩, fun now transport session polled => ?_,
    course.reported, sound.timer, sound.omlUp_iff carriers, sound.up⟩
  · rw [← course.reconnectDelay]
    exact Session.poll_eq_error_iff sound.timer
  · rw [state_removeHost, failed]
  · exact (polls_of_polled sound polled).dials sound

def refusal : List (Nat × Happening) := [(0, .dialled "main" false), (0, .closed), (0, .notified .failed)]

theorem course_refusal : ∃ link, link.state = .failed ∧
    Course ScriptedTransport (.ofHosts ["main"]) 1 [] true refusal link := by
  let link : Link := ⟨["main"], 3002, 1000, .connecting, some 0, 0, none, false, [false]⟩
  have made : Link.ofConfig (.ofHosts ["main"]) 1 = .ok link := rfl
  have started := (Course.make (τ := ScriptedTransport) made).start 0
  let refusing : ScriptedTransport := { ScriptedTransport.fresh with refusing := true }
  let connecting : Session (Watched ScriptedTransport) := ⟨link.start 0, ⟨refusing, []⟩, []⟩
  obtain ⟨session, connects⟩ : ∃ session, connecting.connect = .ok session := ⟨_, rfl⟩
  have polled : Session.poll 0 (link.start 0) connecting.transport = _ := Session.poll_due _ rfl connects
  cases connects
  have settled := polled.trans (Session.hear_away 0 (by rintro ⟨⟩))
  exact ⟨_, rfl, started.poll 0 refusing settled⟩

theorem Course.safe_refusal : ∃ link, link.state = .failed ∧
    Safe ScriptedTransport (.ofHosts ["main"]) 1 refusal link := by
  obtain ⟨link, failed, course⟩ := course_refusal
  have safe := (Course.safe ScriptedTransport (.ofHosts ["main"]) 1 (by decide) (by decide)).2
  exact ⟨link, failed, safe _ _ _ _ course⟩

def patient : SiteConfig :=
  { SiteConfig.ofHosts ["main"] with
    backend := .virtual
    abis := { AbisConfig.ofHosts ["main"] with reconnectDelay := 9223372036854775807 } }

/-- The line to the only host goes down before it came up, and the time to try again at is beyond the clock. -/
theorem Course.not_always_polled : ¬ ∀ config : SiteConfig, config.validate = .ok () →
    ∀ history link, Course ScriptedTransport config.abis config.bts.numTrx.toNat [] true history link →
      ∀ now (transport : ScriptedTransport), ∃ session, Session.poll now link transport = .ok session := by
  intro always
  let link : Link :=
    ⟨["main"], 3002, patient.abis.reconnectDelay.toNat * 1000, .connecting, some 0, 0, none, false, [false]⟩
  have made : Link.ofConfig patient.abis patient.bts.numTrx.toNat = .ok link := rfl
  have course := (Course.make (τ := ScriptedTransport) made).start 0
  let dropping := ScriptedTransport.fresh.tell .down
  obtain ⟨session, polled⟩ := always patient rfl _ _ course 1000 dropping
  have retries : Retries 1000 (link.start 0) dropping := .dialled rfl rfl rfl ⟨rfl, _, rfl⟩
  have late : Link.timeLimit ≤ 1000 + (link.start 0).reconnectDelay := by
    rw [course.reconnectDelay]
    decide +kernel
  cases polled.symm.trans (Session.poll_late course.sound.timer retries late)

end BaseStation.Abis
