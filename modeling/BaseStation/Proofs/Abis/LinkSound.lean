import BaseStation.Config.Basic
import BaseStation.Proofs.Abis.Polls

namespace BaseStation.Abis

namespace Link

structure Sound (numTrx : Nat) (link : Link) : Prop where
  timer : link.due.isSome = true → link.state = .connecting
  rsl : link.rslUp = List.replicate numTrx link.omlUp
  up : link.omlUp = true → link.state = .connected

variable {numTrx now : Nat} {link link' taken : Link} {host : String} {config : AbisConfig}

theorem Sound.ofConfig (made : Link.ofConfig config numTrx = .ok link) : link.Sound numTrx := by
  unfold Link.ofConfig at made
  split at made
  · cases made
  · cases made
    exact ⟨by rintro ⟨⟩, rfl, by rintro ⟨⟩⟩

theorem Sound.setLinksUp (sound : link.Sound numTrx) (connected : link.state = .connected) :
    link.setLinksUp.Sound numTrx := by
  refine ⟨sound.timer, ?_, fun _ => connected⟩
  simp [Link.setLinksUp, sound.rsl]

theorem Sound.failed (sound : link.Sound numTrx) (down : link.omlUp = false) : link.failed.Sound numTrx := by
  refine ⟨by rintro ⟨⟩, sound.rsl, ?_⟩
  intro up
  cases down.symm.trans up

theorem Sound.setLinksDown (sound : link.Sound numTrx) : link.setLinksDown.Sound numTrx := by
  refine ⟨sound.timer, ?_, by rintro ⟨⟩⟩
  simp [Link.setLinksDown, sound.rsl]

theorem Sound.retrying (sound : link.Sound numTrx) (now : Nat) : (link.retrying now).Sound numTrx :=
  ⟨fun _ => rfl, sound.setLinksDown.rsl, by rintro ⟨⟩⟩

theorem Sound.down (sound : link.Sound numTrx) (away : link.state ≠ .connected) : link.omlUp = false := by
  rw [← Bool.not_eq_true]
  exact fun up => away (sound.up up)

theorem Sound.takeHost (sound : link.Sound numTrx) (takes : link.takeHost = some (host, taken)) :
    taken.Sound numTrx := by
  obtain ⟨place, _, _, rfl⟩ := takeHost_eq_some.mp takes
  exact ⟨sound.timer, sound.rsl, sound.up⟩

theorem Sound.removeHost (sound : link.Sound numTrx) (host : String) :
    (link.removeHost host).2.Sound numTrx := by
  unfold Link.removeHost
  split
  · exact sound
  · exact ⟨sound.timer, sound.rsl, sound.up⟩

theorem Sound.omlUp_iff (sound : link.Sound numTrx) (carriers : 0 < numTrx) :
    link.omlUp = true ↔ ∀ trx < numTrx, link.isRslUp trx = true := by
  have one (trx : Nat) (bound : trx < numTrx) : link.isRslUp trx = link.omlUp := by
    simp [isRslUp, sound.rsl, bound]
  constructor
  · intro up trx bound
    rw [one trx bound, up]
  · intro all
    rw [← one 0 carriers]
    exact all 0 carriers

theorem Sound.connecting_of_due (sound : link.Sound numTrx) (due : link.isDue now = true) :
    link.state = .connecting :=
  sound.timer (isSome_of_isDue due)

end Link

section polls

variable {numTrx now : Nat} {link link' : Link} {acts : List Happening} {notices : List Notice}

theorem Hears.sound (hears : Hears now link acts notices link') (sound : link.Sound numTrx)
    (connected : link.state = .connected) : link'.Sound numTrx := by
  induction hears with
  | idle link => exact sound
  | up _ ih => exact ih (sound.setLinksUp connected) connected
  | lost up => exact sound.setLinksDown.failed rfl
  | dropped down => exact sound.retrying now

theorem Polls.sound (polls : Polls now link acts notices link') (sound : link.Sound numTrx) :
    link'.Sound numTrx := by
  cases polls with
  | idle early away => exact sound
  | hears early connected hears => exact hears.sound sound connected
  | exhausted due spent =>
    have connecting := sound.connecting_of_due due
    exact sound.failed (sound.down (by rw [connecting]; rintro ⟨⟩))
  | refused due takes =>
    have connecting := sound.connecting_of_due due
    have taken := sound.takeHost takes
    exact taken.failed (taken.down (by rw [Link.state_of_takeHost takes, connecting]; rintro ⟨⟩))
  | connects due takes hears =>
    have taken := sound.takeHost takes
    exact hears.sound ⟨by rintro ⟨⟩, taken.rsl, fun _ => rfl⟩ rfl

theorem Hears.reconnectDelay (hears : Hears now link acts notices link') :
    link'.reconnectDelay = link.reconnectDelay := by
  induction hears with
  | idle link => rfl
  | up _ ih => exact ih
  | lost up => rfl
  | dropped down => rfl

theorem Polls.reconnectDelay (polls : Polls now link acts notices link') :
    link'.reconnectDelay = link.reconnectDelay := by
  cases polls with
  | idle early away => rfl
  | hears early connected hears => exact hears.reconnectDelay
  | exhausted due spent => rfl
  | refused due takes =>
    have tried := Link.reconnectDelay_of_takeHost takes
    exact tried
  | connects due takes hears =>
    have tried := Link.reconnectDelay_of_takeHost takes
    exact hears.reconnectDelay.trans tried

/-- A link that fails says so last, and says it once; one that does not fail does not say so. -/
def Announces (notices : List Notice) (link : Link) : Prop :=
  (link.state = .failed → ∃ before, notices = before ++ [.failed] ∧ .failed ∉ before) ∧
    (link.state ≠ .failed → .failed ∉ notices)

theorem Announces.count (announces : Announces notices link) :
    notices.count .failed = if link.state = .failed then 1 else 0 := by
  by_cases failed : link.state = .failed
  · obtain ⟨before, rfl, never⟩ := announces.1 failed
    rw [if_pos failed, List.count_append, List.count_eq_zero.mpr never, List.count_singleton_self]
  · rw [if_neg failed]
    exact List.count_eq_zero.mpr (announces.2 failed)

theorem Hears.announces (hears : Hears now link acts notices link')
    (connected : link.state = .connected) : Announces notices link' := by
  induction hears with
  | idle link =>
    refine ⟨fun failed => ?_, fun _ => List.not_mem_nil⟩
    cases connected.symm.trans failed
  | up _ ih =>
    obtain ⟨tells, silent⟩ := ih connected
    refine ⟨fun failed => ?_, fun running => ?_⟩
    · obtain ⟨before, rfl, never⟩ := tells failed
      exact ⟨.up :: before, rfl, by simpa using never⟩
    · simpa using silent running
  | lost up => exact ⟨fun _ => ⟨[], rfl, List.not_mem_nil⟩, fun running => absurd rfl running⟩
  | dropped down => exact ⟨by rintro ⟨⟩, fun _ => List.not_mem_nil⟩

theorem Polls.announces (polls : Polls now link acts notices link') (running : link.state ≠ .failed) :
    Announces notices link' := by
  cases polls with
  | idle early away => exact ⟨fun failed => absurd failed running, fun _ => List.not_mem_nil⟩
  | hears early connected hears => exact hears.announces connected
  | exhausted due spent => exact ⟨fun _ => ⟨[], rfl, List.not_mem_nil⟩, fun running => absurd rfl running⟩
  | refused due takes => exact ⟨fun _ => ⟨[], rfl, List.not_mem_nil⟩, fun running => absurd rfl running⟩
  | connects due takes hears => exact hears.announces rfl

/-- A failed link does nothing any more. -/
theorem Polls.of_failed (polls : Polls now link acts notices link') (sound : link.Sound numTrx)
    (failed : link.state = .failed) : acts = [] ∧ notices = [] ∧ link' = link := by
  have never (due : link.isDue now = true) : False := by
    have connecting := sound.connecting_of_due due
    cases connecting.symm.trans failed
  cases polls with
  | idle early away => exact ⟨rfl, rfl, rfl⟩
  | hears early connected hears => cases connected.symm.trans failed
  | exhausted due spent => exact (never due).elim
  | refused due takes => exact (never due).elim
  | connects due takes hears => exact (never due).elim

def Happening.isDial : Happening → Bool
  | .dialled _ _ => true
  | _ => false

theorem Hears.isDial (hears : Hears now link acts notices link') : ∀ act ∈ acts, act.isDial = false := by
  induction hears with
  | idle link => exact fun _ mem => absurd mem List.not_mem_nil
  | up _ ih => exact List.forall_mem_cons.mpr ⟨rfl, ih⟩
  | lost up => simp [Happening.isDial]
  | dropped down => simp [Happening.isDial]

/-- A poll dials before anything else happens, and only while the link is connecting. -/
theorem Polls.dials (polls : Polls now link acts notices link') (sound : link.Sound numTrx)
    (dials : ∃ act ∈ acts, act.isDial = true) :
    link.state = .connecting ∧ ∃ host accepted rest, acts = .dialled host accepted :: rest ∧
      ∀ act ∈ rest, act.isDial = false := by
  obtain ⟨act, mem, dial⟩ := dials
  cases polls with
  | idle early away => exact absurd mem List.not_mem_nil
  | hears early connected hears => cases dial.symm.trans (hears.isDial act mem)
  | exhausted due spent =>
    rw [List.mem_singleton.mp mem] at dial
    cases dial
  | refused due takes =>
    exact ⟨sound.connecting_of_due due, _, false, [.closed], rfl, by simp [Happening.isDial]⟩
  | connects due takes hears =>
    exact ⟨sound.connecting_of_due due, _, true, _, rfl, hears.isDial⟩

end polls

theorem Hears.ne_notified {now : Nat} {link link' : Link} {acts : List Happening} {notices : List Notice}
    (hears : Hears now link acts notices link') (notice : Notice) : .notified notice ∉ acts := by
  induction hears with
  | idle link => exact List.not_mem_nil
  | up _ ih => simpa using ih
  | lost up => simp
  | dropped down => simp

theorem Polls.ne_notified {now : Nat} {link link' : Link} {acts : List Happening} {notices : List Notice}
    (polls : Polls now link acts notices link') (notice : Notice) : .notified notice ∉ acts := by
  cases polls with
  | idle early away => exact List.not_mem_nil
  | hears early connected hears => exact hears.ne_notified notice
  | exhausted due spent => simp
  | refused due takes => simp
  | connects due takes hears => simpa using hears.ne_notified notice

end BaseStation.Abis
