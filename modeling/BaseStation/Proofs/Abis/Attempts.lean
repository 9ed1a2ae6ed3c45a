import BaseStation.Proofs.Abis.Course

namespace BaseStation.Abis

def Happening.host? : Happening → Option String
  | .dialled host _ => some host
  | _ => none

def Happening.isFinal : Happening → Bool
  | .dialled _ accepted => !accepted
  | .heard .up | .notified .up => true
  | _ => false

def dials (history : List (Nat × Happening)) : List String := history.filterMap (·.2.host?)

def Ended (delay : Nat) (history : List (Nat × Happening)) (now : Nat) : Prop :=
  history = [] ∨ ∃ earlier dialled host last,
    history = earlier ++ [(dialled, .dialled host true), (last, .heard .down), (last, .closed)] ∧
      last + delay ≤ now

/-- How a link went through its hosts. The delay is in milliseconds. -/
structure Attempted (config : AbisConfig) (history : List (Nat × Happening)) (link : Link) : Prop where
  count : link.attempts ≤ config.hosts.length
  dialled : dials history = config.hosts.take link.attempts
  spaced : ∀ before entry after, history = before ++ entry :: after → entry.2.isDial = true →
    Ended (config.reconnectDelay.toNat * 1000) before entry.1
  settled : history.Pairwise fun earlier later => earlier.2.isFinal = true → later.2.isDial = false

structure Link.Resumes (link' link : Link) : Prop where
  hosts : link'.hosts = link.hosts
  delay : link'.reconnectDelay = link.reconnectDelay
  next : link'.next = link.next
  attempts : link'.attempts = link.attempts

structure Tried (config : AbisConfig) (history : List (Nat × Happening)) (link : Link) : Prop
    extends Attempted config history link where
  hosts : link.hosts = config.hosts
  delay : link.reconnectDelay = config.reconnectDelay.toNat * 1000
  next : link.next = if link.attempts < config.hosts.length then some link.attempts else none

variable {config : AbisConfig} {numTrx now delay : Nat} {history more : List (Nat × Happening)}
  {link link' taken : Link} {host : String} {acts : List Happening} {notices : List Notice}

theorem Ended.mono {later : Nat} (ended : Ended delay history now) (after : now ≤ later) :
    Ended delay history later := by
  rcases ended with fresh | ⟨earlier, dialled, host, last, same, passed⟩
  · exact .inl fresh
  · exact .inr ⟨earlier, dialled, host, last, same, Nat.le_trans passed after⟩

theorem host?_of_not_dial {act : Happening} (quiet : act.isDial = false) : act.host? = none := by
  cases act with
  | dialled host accepted => cases quiet
  | heard event => rfl
  | closed => rfl
  | notified notice => rfl

theorem dials_append_quiet (quiet : ∀ entry ∈ more, entry.2.isDial = false) :
    dials (history ++ more) = dials history := by
  have quiet : more.filterMap (·.2.host?) = [] := by
    rw [List.filterMap_eq_nil_iff]
    exact fun entry mem => host?_of_not_dial (quiet entry mem)
  rw [dials, List.filterMap_append, quiet, List.append_nil, dials]

theorem split_append {before after : List (Nat × Happening)} {entry : Nat × Happening}
    (split : history ++ more = before ++ entry :: after) :
    (∃ rest, history = before ++ entry :: rest) ∨
      ∃ added, before = history ++ added ∧ more = added ++ entry :: after := by
  rcases List.append_eq_append_iff.mp split with ⟨added, same, rest⟩ | ⟨kept, same, rest⟩
  · exact .inr ⟨added, same, rest⟩
  · cases kept with
    | nil => exact .inr ⟨[], by simpa using same.symm, rest.symm⟩
    | cons first kept =>
      obtain ⟨rfl, _⟩ := List.cons.inj rest
      exact .inl ⟨kept, same⟩

theorem Tried.resume (tried : Tried config history link) (resumes : link'.Resumes link) :
    Tried config history link' := by
  obtain ⟨hosts, delay, next, attempts⟩ := resumes
  refine ⟨⟨?_, ?_, tried.spaced, tried.settled⟩, hosts.trans tried.hosts, delay.trans tried.delay, ?_⟩
  · exact attempts ▸ tried.count
  · exact attempts ▸ tried.dialled
  · rw [next, attempts, tried.next]

theorem Tried.append_quiet (tried : Tried config history link)
    (quiet : ∀ entry ∈ more, entry.2.isDial = false) : Tried config (history ++ more) link := by
  refine ⟨⟨tried.count, ?_, ?_, ?_⟩, tried.hosts, tried.delay, tried.next⟩
  · rw [dials_append_quiet quiet]
    exact tried.dialled
  · intro before entry after split dial
    rcases split_append split with ⟨rest, same⟩ | ⟨added, _, rfl⟩
    · exact tried.spaced before entry rest same dial
    · have silent := quiet entry (by simp)
      cases silent.symm.trans dial
  · rw [List.pairwise_append]
    refine ⟨tried.settled, ?_, fun _ _ entry mem _ => quiet entry mem⟩
    exact List.pairwise_of_forall_mem_list fun _ _ entry mem _ => quiet entry mem

theorem Tried.dial (tried : Tried config history link) (takes : link.takeHost = some (host, taken))
    (ended : Ended (config.reconnectDelay.toNat * 1000) history now)
    (running : ∀ entry ∈ history, entry.2.isFinal = false) (accepted : Bool) :
    Tried config (history ++ [(now, .dialled host accepted)]) taken := by
  obtain ⟨place, next, slot, rfl⟩ := Link.takeHost_eq_some.mp takes
  rw [tried.hosts] at slot
  have left : link.attempts < config.hosts.length ∧ link.attempts = place := by
    have places := next.symm.trans tried.next
    split at places
    · rename_i left
      exact ⟨left, (Option.some.inj places).symm⟩
    · cases places
  obtain ⟨left, rfl⟩ := left
  refine ⟨⟨left, ?_, ?_, ?_⟩, tried.hosts, tried.delay, ?_⟩
  · rw [dials, List.filterMap_append, List.take_add_one, slot]
    exact congrArg (· ++ [host]) tried.dialled
  · intro before entry after split dial
    rcases split_append split with ⟨rest, same⟩ | ⟨added, rfl, same⟩
    · exact tried.spaced before entry rest same dial
    · cases added with
      | nil =>
        obtain ⟨rfl, _⟩ := List.cons.inj same
        rw [List.append_nil]
        exact ended
      | cons first added => simp at same
  · rw [List.pairwise_append]
    refine ⟨tried.settled, List.pairwise_singleton .., fun entry mem _ _ final => ?_⟩
    cases (running entry mem).symm.trans final
  · simp only [Link.placeAfter, tried.hosts]

inductive Outcome (now : Nat) (link : Link) : List Happening → List Notice → Link → Prop
  | silent : Outcome now link [] [] link
  | failed {acts : List Happening} {notices : List Notice} {link' : Link} (failed : link'.state = .failed) :
      Outcome now link acts notices link'
  | up {acts : List Happening} {notices : List Notice} {link' : Link} (connected : link'.state = .connected)
      (up : link'.omlUp = true) : Outcome now link acts notices link'
  | dropped (down : link.wasUp = false) :
      Outcome now link [.heard .down, .closed] [] (link.retrying now)

theorem Hears.outcome (hears : Hears now link acts notices link') (connected : link.state = .connected) :
    Outcome now link acts notices link' := by
  induction hears with
  | idle link => exact .silent
  | up rest ih =>
    cases ih connected with
    | silent => exact .up connected rfl
    | failed failed => exact .failed failed
    | up connected up => exact .up connected up
    | dropped down => cases down
  | lost up => exact .failed rfl
  | dropped down => exact .dropped down

theorem Hears.resumes (hears : Hears now link acts notices link') : link'.Resumes link := by
  induction hears with
  | idle link => exact ⟨rfl, rfl, rfl, rfl⟩
  | up _ ih => exact ⟨ih.hosts, ih.delay, ih.next, ih.attempts⟩
  | lost up => exact ⟨rfl, rfl, rfl, rfl⟩
  | dropped down => exact ⟨rfl, rfl, rfl, rfl⟩

structure Trying (config : AbisConfig) (history : List (Nat × Happening)) (link : Link) : Prop
    extends Tried config history link where
  waits : ∀ due, link.due = some due → Ended (config.reconnectDelay.toNat * 1000) history due
  connected : link.state = .connected → link.omlUp = false →
    ∃ earlier dialled host, history = earlier ++ [(dialled, .dialled host true)]
  running : link.state ≠ .failed → link.omlUp = false → ∀ entry ∈ history, entry.2.isFinal = false

theorem quiet_entries (quiet : ∀ act ∈ acts, act.isDial = false) :
    ∀ entry ∈ entries now acts notices, entry.2.isDial = false := by
  intro entry mem
  rcases (mem_entries.mp mem).2 with act | ⟨notice, _, same⟩
  · exact quiet _ act
  · rw [same]
    rfl

theorem Tried.trying (tried : Tried config history link) (sound : link.Sound numTrx)
    (done : link.state = .failed ∨ link.state = .connected ∧ link.omlUp = true) :
    Trying config history link := by
  refine ⟨tried, fun due pending => ?_, fun connected down => ?_, fun running down => ?_⟩
  · have connecting := sound.timer (by rw [pending]; rfl)
    rcases done with failed | ⟨connected, _⟩
    · cases connecting.symm.trans failed
    · cases connecting.symm.trans connected
  · rcases done with failed | ⟨_, up⟩
    · cases connected.symm.trans failed
    · cases down.symm.trans up
  · rcases done with failed | ⟨_, up⟩
    · exact absurd failed running
    · cases down.symm.trans up

theorem Trying.hears (trying : Trying config history link) (hears : Hears now link acts notices link')
    (connected : link.state = .connected) (sound : link.Sound numTrx) :
    Trying config (history ++ entries now acts notices) link' := by
  have sound' := hears.sound sound connected
  have quiet : ∀ entry ∈ entries now acts notices, entry.2.isDial = false := quiet_entries hears.isDial
  have tried := (trying.toTried.resume hears.resumes).append_quiet quiet
  cases hears.outcome connected with
  | silent =>
    rw [entries_nil, List.append_nil]
    exact trying
  | failed failed => exact tried.trying sound' (.inl failed)
  | up connected up => exact tried.trying sound' (.inr ⟨connected, up⟩)
  | dropped down =>
    have omlDown : link.omlUp = false := by
      rw [Link.wasUp, Bool.or_eq_false_iff] at down
      exact down.1
    obtain ⟨earlier, dialled, host, same⟩ := trying.connected connected omlDown
    have before := trying.running (by rw [connected]; decide) omlDown
    refine ⟨tried, fun due pending => ?_, by rintro ⟨⟩, fun _ _ => ?_⟩
    · have passed : now + config.reconnectDelay.toNat * 1000 = due := trying.delay ▸ Option.some.inj pending
      refine .inr ⟨earlier, dialled, host, now, ?_, Nat.le_of_eq passed⟩
      simp [same, entries]
    · rw [List.forall_mem_append]
      refine ⟨before, fun entry mem => ?_⟩
      have act : entry.2 = .heard .down ∨ entry.2 = .closed := by simpa using (mem_entries.mp mem).2
      rcases act with act | act <;> rw [act] <;> rfl

/-- Where a host may be dialled the line to the one before ended, and none came up or was refused. -/
theorem Trying.due (trying : Trying config history link) (sound : link.Sound numTrx)
    (due : link.isDue now = true) : Ended (config.reconnectDelay.toNat * 1000) history now ∧
      ∀ entry ∈ history, entry.2.isFinal = false := by
  have connecting := sound.connecting_of_due due
  have down := sound.down (by rw [connecting]; decide)
  refine ⟨?_, trying.running (by rw [connecting]; decide) down⟩
  obtain ⟨moment, pending, passed⟩ := Link.isDue_iff.mp due
  exact (trying.waits moment pending).mono passed

theorem entries_cons (act : Happening) :
    history ++ entries now (act :: acts) notices = history ++ [(now, act)] ++ entries now acts notices := by
  simp [entries]

theorem Trying.poll (trying : Trying config history link) (sound : link.Sound numTrx)
    (polls : Polls now link acts notices link') :
    Trying config (history ++ entries now acts notices) link' := by
  have sound' := polls.sound sound
  cases polls with
  | idle early away =>
    rw [entries_nil, List.append_nil]
    exact trying
  | hears early connected hears => exact trying.hears hears connected sound
  | exhausted due spent =>
    have tried : Tried config history link.failed := trying.toTried.resume ⟨rfl, rfl, rfl, rfl⟩
    exact (tried.append_quiet (quiet_entries (by simp [Happening.isDial]))).trying sound' (.inl rfl)
  | @refused taken _ due takes =>
    obtain ⟨ended, running⟩ := trying.due sound due
    have dialled := trying.toTried.dial takes ended running false
    have tried : Tried config _ taken.failed := dialled.resume ⟨rfl, rfl, rfl, rfl⟩
    rw [entries_cons]
    exact (tried.append_quiet (quiet_entries (by simp [Happening.isDial]))).trying sound' (.inl rfl)
  | @connects taken _ host _ _ due takes hears =>
    obtain ⟨ended, running⟩ := trying.due sound due
    have dialled := trying.toTried.dial takes ended running true
    have tried : Tried config _ taken.connected := dialled.resume ⟨rfl, rfl, rfl, rfl⟩
    have opened : Trying config (history ++ [(now, .dialled host true)]) taken.connected := by
      refine ⟨tried, by rintro _ ⟨⟩, fun _ _ => ⟨history, now, host, rfl⟩, fun _ _ => ?_⟩
      rw [List.forall_mem_append]
      exact ⟨running, List.forall_mem_singleton.mpr rfl⟩
    rw [entries_cons]
    have takenSound := sound.takeHost takes
    exact opened.hears hears rfl ⟨by rintro ⟨⟩, takenSound.rsl, fun _ => rfl⟩

theorem Trying.ofConfig (made : Link.ofConfig config numTrx = .ok link) : Trying config [] link := by
  unfold Link.ofConfig at made
  split at made
  · cases made
  · rename_i hosts
    cases made
    have nonempty : 0 < config.hosts.length := List.length_pos_iff.mpr hosts
    refine ⟨⟨⟨Nat.zero_le _, rfl, ?_, .nil⟩, rfl, rfl, ?_⟩, by rintro _ ⟨⟩, by rintro ⟨⟩, ?_⟩
    · intro before entry after split
      simp at split
    · rw [if_pos nonempty]
    · exact fun _ _ _ mem => absurd mem List.not_mem_nil

theorem Course.trying {τ : Type} [Transport τ] {started : Bool}
    (course : Course τ config numTrx [] started history link) : Trying config history link := by
  generalize untouched : [] = removed at course
  induction course with
  | make made => exact .ofConfig made
  | start now course ih =>
    cases untouched
    have fresh := (course.idle_of_not_started rfl).2.2
    have before := ih rfl
    exact ⟨before.toTried.resume ⟨rfl, rfl, rfl, rfl⟩, fun _ _ => .inl fresh, before.connected, before.running⟩
  | poll now transport course polled ih =>
    exact (ih untouched).poll course.sound (polls_of_polled course.sound polled)
  | remove host course => simp at untouched

/-- A link that loses no host dials a prefix of its list, each host of it once. Another is dialled when the
line to the one before went down without having come up, and after the delay; none is once a line came up or
was refused. -/
theorem Course.attempted (τ : Type) [Transport τ] (config : AbisConfig) (numTrx : Nat) (started : Bool)
    (history : List (Nat × Happening)) (link : Link)
    (course : Course τ config numTrx [] started history link) : Attempted config history link :=
  course.trying.toAttempted

def secondTry : List (Nat × Happening) :=
  [(0, .dialled "main" true), (0, .heard .down), (0, .closed), (1000, .dialled "spare" true),
    (1000, .heard .up), (1000, .heard .down), (1000, .closed), (1000, .closed), (1000, .notified .up),
    (1000, .notified .failed)]

theorem course_secondTry : ∃ link, link.attempts = 2 ∧
    Course ScriptedTransport (.ofHosts ["main", "spare"]) 1 [] true secondTry link := by
  let link : Link := ⟨["main", "spare"], 3002, 1000, .connecting, some 0, 0, none, false, [false]⟩
  have made : Link.ofConfig (.ofHosts ["main", "spare"]) 1 = .ok link := rfl
  have started := (Course.make (τ := ScriptedTransport) made).start 0
  let dropping : ScriptedTransport := ⟨[.down], false, [], 0⟩
  let first : Session (Watched ScriptedTransport) := ⟨link.start 0, ⟨dropping, []⟩, []⟩
  obtain ⟨opened, connects⟩ : ∃ opened, first.connect = .ok opened := ⟨_, rfl⟩
  have polled : Session.poll 0 first.link first.transport = _ := Session.poll_due _ rfl connects
  cases connects
  have dropped := started.poll 0 dropping (polled.trans (Session.hear_down 0 rfl rfl))
  let losing : ScriptedTransport := ⟨[.up, .down], false, [], 0⟩
  let waiting : Link := ⟨["main", "spare"], 3002, 1000, .connecting, some 1, 1, some 1000, false, [false]⟩
  let second : Session (Watched ScriptedTransport) := ⟨waiting, ⟨losing, []⟩, []⟩
  obtain ⟨opened, connects⟩ : ∃ opened, second.connect = .ok opened := ⟨_, rfl⟩
  have polled : Session.poll 1000 second.link second.transport = _ := Session.poll_due _ rfl connects
  cases connects
  have came := polled.trans (Session.hear_up 1000 rfl rfl)
  have lost := dropped.poll 1000 losing (came.trans (Session.hear_down 1000 rfl rfl))
  exact ⟨_, rfl, lost⟩

theorem Course.attempted_secondTry :
    ∃ link, link.attempts = 2 ∧ Attempted (.ofHosts ["main", "spare"]) secondTry link := by
  obtain ⟨link, twice, course⟩ := course_secondTry
  exact ⟨link, twice, Course.attempted ScriptedTransport _ 1 true secondTry link course⟩

end BaseStation.Abis
