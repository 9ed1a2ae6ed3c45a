import BaseStation.Proofs.Abis.Conservation

namespace BaseStation.Abis

section polls

variable {now : Nat} {link link' : Link} {acts : List Happening} {notices : List Notice}

theorem Hears.up_iff (hears : Hears now link acts notices link') : .up ∈ notices ↔ .heard .up ∈ acts := by
  induction hears with
  | idle link => simp
  | up _ _ => simp
  | lost up => simp
  | dropped down => simp

theorem Polls.up_iff (polls : Polls now link acts notices link') : .up ∈ notices ↔ .heard .up ∈ acts := by
  cases polls with
  | idle early away => simp
  | hears early connected hears => exact hears.up_iff
  | exhausted due spent => simp
  | refused due takes => simp
  | connects due takes hears => simpa using hears.up_iff

theorem Hears.omlUp_iff (hears : Hears now link acts notices link') :
    link'.omlUp = true ↔ (.heard .up ∈ acts ∨ link.omlUp = true) ∧ .heard .down ∉ acts := by
  induction hears with
  | idle link => simp
  | up _ ih => simpa [Link.setLinksUp] using ih
  | lost up => simp [Link.setLinksDown, Link.failed]
  | dropped down => simp [Link.setLinksDown, Link.retrying]

theorem Polls.omlUp_iff (polls : Polls now link acts notices link') (up : .heard .up ∈ acts) :
    link'.omlUp = true ↔ .heard .down ∉ acts := by
  cases polls with
  | idle early away => exact absurd up List.not_mem_nil
  | hears early connected hears => simp [hears.omlUp_iff, up]
  | exhausted due spent => simp at up
  | refused due takes => simp at up
  | connects due takes hears =>
    rcases List.mem_cons.mp up with same | heard
    · cases same
    · simp [hears.omlUp_iff, heard]

end polls

namespace Endpoint

variable {τ : Type} {config : SiteConfig} {numTrx : Nat} {given : List Primitive} {endpoint : Endpoint τ}

theorem foldl_heed_reportsSent (config : SiteConfig) (time : FrameTime) (notices : List Notice)
    (effect : Effect (Endpoint τ)) :
    (notices.foldl (heed config time) effect).state.reportsSent =
      effect.state.reportsSent + if .up ∈ notices then effect.state.waiting.length else 0 := by
  induction notices generalizing effect with
  | nil => rfl
  | cons notice rest ih =>
    rw [List.foldl_cons, ih]
    cases notice with
    | failed => simp [heed]
    | up =>
      -- nothing waits any more for the notices behind
      simp [heed, flush]

variable [Transport τ]

/-- What happens between the link and the transport as a frame starts. -/
def happenings (now : Nat) (endpoint : Endpoint τ) : List Happening :=
  match Session.poll now (endpoint.linkAt now) (⟨endpoint.transport, []⟩ : Watched τ) with
  | .ok session => session.transport.record
  | .error _ => []

theorem startFrame_of_poll {flags : LinkFlags} {time : FrameTime} {now : Nat} {session : Session τ}
    (polled : Session.poll now (endpoint.linkAt now) endpoint.transport = .ok session) :
    endpoint.startFrame config flags time now = .ok (session.notices.foldl (heed config time) (.silent
      { endpoint with link := session.link, transport := session.transport, started := true } flags)) := by
  rw [startFrame_eq, polled]
  rfl

theorem startFrame_happenings {flags : LinkFlags} {time : FrameTime} {now : Nat}
    {effect : Effect (Endpoint τ)} (sound : endpoint.Sound numTrx)
    (started : endpoint.startFrame config flags time now = .ok effect) :
    ∃ session : Session τ,
      Polls now (endpoint.linkAt now) (endpoint.happenings now) session.notices session.link ∧
      effect = session.notices.foldl (heed config time) (.silent
        { endpoint with link := session.link, transport := session.transport, started := true } flags) := by
  have timer := (sound.linkAt now).timer
  obtain ⟨session, ended, rfl⟩ := poll_of_startFrame started
  obtain ⟨acts, notices, link, transport, polled, polls⟩ :=
    Session.poll_polls timer (Session.inTime_of_ok timer ended)
  have told : endpoint.happenings now = acts := by rw [happenings, polled]
  have unwatched := Session.poll_unwatched now (endpoint.linkAt now) (⟨endpoint.transport, []⟩ : Watched τ)
  rw [polled] at unwatched
  cases ended.symm.trans unwatched
  exact ⟨_, told ▸ polls, rfl⟩

theorem reportsSent_startFrame {flags : LinkFlags} {time : FrameTime} {now : Nat}
    {effect : Effect (Endpoint τ)} (sound : endpoint.Sound numTrx)
    (started : endpoint.startFrame config flags time now = .ok effect) :
    (endpoint.reportsSent < effect.state.reportsSent ↔
        endpoint.waiting ≠ [] ∧ .heard .up ∈ endpoint.happenings now) ∧
      (.heard .up ∈ endpoint.happenings now →
        (effect.state.link.omlUp = true ↔ .heard .down ∉ endpoint.happenings now)) := by
  obtain ⟨session, polls, rfl⟩ := startFrame_happenings sound started
  let begun : Endpoint τ :=
    { endpoint with link := session.link, transport := session.transport, started := true }
  obtain ⟨link, _, _⟩ := foldl_heed_news config time session.notices (.silent begun flags)
  have sent := foldl_heed_reportsSent config time session.notices (.silent begun flags)
  refine ⟨?_, fun up => ?_⟩
  · rw [sent, ← polls.up_iff, ← List.length_pos_iff]
    by_cases up : .up ∈ session.notices <;> simp [up, begun, Effect.silent]
  · rw [link]
    exact polls.omlUp_iff up

omit [Transport τ] in
theorem omlUp_of_receive {message : Message}
    (grows : endpoint.reportsSent < (endpoint.receive config message).reportsSent) :
    (endpoint.receive config message).link.omlUp = true := by
  rw [(receive_link ..).1]
  unfold receive at grows
  split at grows
  · unfold sendReport at grows
    split at grows
    · assumption
    · exact absurd grows (Nat.lt_irrefl _)
  · unfold sendResult at grows
    split at grows <;> exact absurd grows (Nat.lt_irrefl _)
  · exact absurd grows (Nat.lt_irrefl _)

/-- The reports that are sent as they are received are sent while signalling is up. As a frame starts reports
are sent just if some wait and the line is heard to come up. Signalling is up as they are sent, but for frames
in which the line is also heard to go down. -/
theorem Serves.hands_over (serves : Serves config given endpoint) :
    (∀ message, endpoint.reportsSent < (endpoint.receive config message).reportsSent →
        (endpoint.receive config message).link.omlUp = true) ∧
      ∀ (transport : τ) flags time now effect,
        { endpoint with transport := transport }.startFrame config flags time now = .ok effect →
          (endpoint.reportsSent < effect.state.reportsSent ↔ endpoint.waiting ≠ [] ∧
            .heard .up ∈ { endpoint with transport := transport }.happenings now) ∧
          (endpoint.reportsSent < effect.state.reportsSent → (effect.state.link.omlUp = true ↔
            .heard .down ∉ { endpoint with transport := transport }.happenings now)) := by
  refine ⟨fun message => omlUp_of_receive, fun transport flags time now effect started => ?_⟩
  obtain ⟨grows, up⟩ := reportsSent_startFrame (serves.sound.onTransport transport) started
  exact ⟨grows, fun more => up (grows.mp more).2⟩

def premature : Endpoint ScriptedTransport :=
  unattached.receive (.ofHosts ["main"]) (.ofPrimitive ⟨0⟩ (.report (.softwareActivated .siteManager)))

theorem serves_premature :
    Serves (.ofHosts ["main"]) [.report (.softwareActivated .siteManager)] premature := by
  have made : Endpoint.ofConfig (.ofHosts ["main"]) ScriptedTransport.fresh = .ok unattached := rfl
  exact (Serves.made made).receives (.ofPrimitive ⟨0⟩ (.report (.softwareActivated .siteManager)))

theorem Serves.hands_over_premature : ∃ effect,
    { premature with transport := ScriptedTransport.fresh.tell .up }.startFrame (.ofHosts ["main"]) .initial
        ⟨0⟩ 0 = .ok effect ∧
      premature.reportsSent < effect.state.reportsSent ∧ effect.state.link.omlUp = true := by
  let told : Endpoint ScriptedTransport := { premature with transport := ScriptedTransport.fresh.tell .up }
  have happened : told.happenings 0 = [.dialled "main" true, .heard .up] := by
    have polled : Session.poll 0 (told.linkAt 0) (⟨told.transport, []⟩ : Watched ScriptedTransport) = _ :=
      (Session.poll_due _ rfl rfl).trans ((Session.hear_up 0 rfl rfl).trans (Session.hear_idle 0 rfl rfl))
    rw [happenings, polled]
    rfl
  have polled : Session.poll 0 (told.linkAt 0) told.transport = _ :=
    (Session.poll_due _ rfl rfl).trans ((Session.hear_up 0 rfl rfl).trans (Session.hear_idle 0 rfl rfl))
  have started : told.startFrame (.ofHosts ["main"]) .initial ⟨0⟩ 0 = .ok _ := startFrame_of_poll polled
  obtain ⟨grows, up⟩ := serves_premature.hands_over.2 told.transport .initial ⟨0⟩ 0 _ started
  have more := grows.mpr ⟨by decide, by rw [happened]; decide⟩
  exact ⟨_, started, more, (up more).mpr (by rw [happened]; decide)⟩

/-- The report that waits is handed to a link that is gone, if the line comes up and goes down before the same
frame. -/
theorem handed_to_lost : ¬ ∀ (config : SiteConfig) (given : List Primitive)
    (endpoint : Endpoint ScriptedTransport), Serves config given endpoint →
      ∀ (transport : ScriptedTransport) flags time now effect,
        { endpoint with transport := transport }.startFrame config flags time now = .ok effect →
          endpoint.reportsSent < effect.state.reportsSent → effect.state.link.omlUp = true := by
  intro always
  let told : Endpoint ScriptedTransport :=
    { premature with transport := (ScriptedTransport.fresh.tell .up).tell .down }
  have polled : Session.poll 0 (told.linkAt 0) told.transport = _ :=
    (Session.poll_due _ rfl rfl).trans ((Session.hear_up 0 rfl rfl).trans
      ((Session.hear_down 0 rfl rfl).trans (Session.lineDown_lost _ 0 rfl rfl)))
  have started : told.startFrame (.ofHosts ["main"]) .initial ⟨0⟩ 0 = .ok _ := startFrame_of_poll polled
  cases always _ _ _ serves_premature told.transport .initial ⟨0⟩ 0 _ started (by decide)

end Endpoint

end BaseStation.Abis
