import BaseStation.Abis.Endpoint
import BaseStation.Proofs.Abis.LinkSound
import BaseStation.Proofs.Management.Settle

namespace BaseStation.Abis.Endpoint

variable {τ : Type} {config : SiteConfig} {numTrx : Nat} {endpoint : Endpoint τ}

structure Sound (numTrx : Nat) (endpoint : Endpoint τ) : Prop where
  link : endpoint.link.Sound numTrx
  fresh : endpoint.started = false → endpoint.link.state = .connecting
  failed : endpoint.failed = true ↔ endpoint.link.state = .failed

theorem Sound.ofConfig {transport : τ} (made : Endpoint.ofConfig config transport = .ok endpoint) :
    endpoint.Sound config.bts.numTrx.toNat ∧ endpoint.failed = false := by
  unfold Endpoint.ofConfig at made
  obtain ⟨link, linked, made⟩ := bind_eq_ok made
  cases made
  have sound := Link.Sound.ofConfig linked
  unfold Link.ofConfig at linked
  split at linked <;> cases linked
  exact ⟨⟨sound, fun _ => rfl, by constructor <;> rintro ⟨⟩⟩, rfl⟩

theorem receive_link (endpoint : Endpoint τ) (config : SiteConfig) (message : Message) :
    (endpoint.receive config message).link = endpoint.link ∧
      (endpoint.receive config message).started = endpoint.started ∧
      (endpoint.receive config message).failed = endpoint.failed := by
  unfold receive
  split
  · unfold sendReport
    split <;> exact ⟨rfl, rfl, rfl⟩
  · unfold sendResult
    split <;> exact ⟨rfl, rfl, rfl⟩
  · exact ⟨rfl, rfl, rfl⟩

theorem Sound.receive (sound : endpoint.Sound numTrx) (config : SiteConfig) (message : Message) :
    (endpoint.receive config message).Sound numTrx := by
  obtain ⟨link, started, failed⟩ := endpoint.receive_link config message
  refine ⟨link ▸ sound.link, fun fresh => ?_, ?_⟩
  · rw [link]
    exact sound.fresh (started ▸ fresh)
  · rw [link, failed]
    exact sound.failed

def IsNews (time : FrameTime) (messages : List Message) : Prop :=
  ∀ message ∈ messages, ∃ control, control ≠ .abisLinkFailed ∧ message = .ofPrimitive time (.link control)

structure Flushes (time : FrameTime) (effect effect' : Effect (Endpoint τ)) : Prop where
  link : effect'.state.link = effect.state.link
  started : effect'.state.started = effect.state.started
  failed : effect'.state.failed = effect.state.failed
  flags : effect'.flags = effect.flags
  sent : ∃ news, effect'.sent = effect.sent ++ news ∧ IsNews time news

theorem heed_up (config : SiteConfig) (time : FrameTime) (effect : Effect (Endpoint τ)) :
    Flushes time effect (heed config time effect .up) := by
  refine ⟨rfl, rfl, rfl, rfl, _, rfl, ?_⟩
  intro message mem
  rcases List.mem_cons.mp mem with rfl | mem
  · exact ⟨.omlLinkUp, by decide, rfl⟩
  · obtain ⟨trx, _, rfl⟩ := List.mem_map.mp mem
    exact ⟨.rslLinkUp trx, by rintro ⟨⟩, rfl⟩

theorem foldl_heed (config : SiteConfig) (time : FrameTime) {notices : List Notice} (ups : .failed ∉ notices)
    (effect : Effect (Endpoint τ)) : Flushes time effect (notices.foldl (heed config time) effect) := by
  induction notices generalizing effect with
  | nil => exact ⟨rfl, rfl, rfl, rfl, [], (List.append_nil _).symm, fun _ mem => absurd mem List.not_mem_nil⟩
  | cons notice rest ih =>
    rw [List.mem_cons, not_or] at ups
    cases notice with
    | failed => exact absurd rfl ups.1
    | up =>
      have first := heed_up config time effect
      have later := ih ups.2 (heed config time effect .up)
      obtain ⟨news, sent, isNews⟩ := first.sent
      obtain ⟨news', sent', isNews'⟩ := later.sent
      refine ⟨later.link.trans first.link, later.started.trans first.started,
        later.failed.trans first.failed, later.flags.trans first.flags, news ++ news', ?_, ?_⟩
      · rw [← List.append_assoc, ← sent]
        exact sent'
      · exact List.forall_mem_append.mpr ⟨isNews, isNews'⟩

/-- How a frame starts for an endpoint: its link keeps running, or it fails. -/
inductive Starts (numTrx : Nat) (flags : LinkFlags) (time : FrameTime) : Effect (Endpoint τ) → Prop
  | runs {endpoint : Endpoint τ} {news : List Message} (sound : endpoint.Sound numTrx)
      (running : endpoint.failed = false) (isNews : IsNews time news) :
      Starts numTrx flags time ⟨endpoint, flags, news⟩
  | fails {endpoint : Endpoint τ} {news : List Message} (sound : endpoint.Sound numTrx)
      (failed : endpoint.failed = true) (isNews : IsNews time news) :
      Starts numTrx flags time ⟨endpoint, { flags with linkFailed := true },
        news ++ [.ofPrimitive time (.link .abisLinkFailed)]⟩

theorem Starts.sound {flags : LinkFlags} {time : FrameTime} {effect : Effect (Endpoint τ)}
    (starts : Starts numTrx flags time effect) : effect.state.Sound numTrx := by
  cases starts with
  | runs sound _ _ => exact sound
  | fails sound _ _ => exact sound

theorem Flushes.runs {flags : LinkFlags} {time : FrameTime} {effect : Effect (Endpoint τ)}
    (flushes : Flushes time (.silent endpoint flags) effect) (sound : endpoint.link.Sound numTrx)
    (begun : endpoint.started = true) (running : endpoint.failed = false)
    (alive : endpoint.link.state ≠ .failed) : Starts numTrx flags time effect := by
  obtain ⟨endpoint', flags', sent⟩ := effect
  obtain ⟨linked, begun', kept, rfl, news, rfl, isNews⟩ := flushes
  have linked : endpoint'.link = endpoint.link := linked
  have running' : endpoint'.failed = false := kept.trans running
  refine .runs ⟨linked ▸ sound, ?_, ?_⟩ running' isNews
  · intro fresh
    cases (begun'.trans begun).symm.trans fresh
  · rw [running']
    exact ⟨by rintro ⟨⟩, fun ended => absurd (linked ▸ ended) alive⟩

theorem Flushes.fails {flags : LinkFlags} {time : FrameTime} {effect : Effect (Endpoint τ)}
    (flushes : Flushes time (.silent endpoint flags) effect) (sound : endpoint.link.Sound numTrx)
    (begun : endpoint.started = true) (failed : endpoint.link.state = .failed) :
    Starts numTrx flags time (heed config time effect .failed) := by
  obtain ⟨endpoint', flags', sent⟩ := effect
  obtain ⟨linked, begun', _, rfl, news, rfl, isNews⟩ := flushes
  have linked : endpoint'.link = endpoint.link := linked
  refine .fails ⟨linked ▸ sound, ?_, ?_⟩ rfl isNews
  · intro fresh
    cases (begun'.trans begun).symm.trans fresh
  · exact ⟨fun _ => linked ▸ failed, fun _ => rfl⟩

def linkAt (now : Nat) (endpoint : Endpoint τ) : Link :=
  if endpoint.started then endpoint.link else endpoint.link.start now

theorem linkAt_state (now : Nat) (endpoint : Endpoint τ) :
    (endpoint.linkAt now).state = endpoint.link.state := by
  unfold linkAt
  split <;> rfl

theorem Sound.linkAt (sound : endpoint.Sound numTrx) (now : Nat) : (endpoint.linkAt now).Sound numTrx := by
  unfold Endpoint.linkAt
  split
  · exact sound.link
  · rename_i fresh
    exact ⟨fun _ => sound.fresh (by simpa using fresh), sound.link.rsl, sound.link.up⟩

theorem linkAt_reconnectDelay (now : Nat) (endpoint : Endpoint τ) :
    (endpoint.linkAt now).reconnectDelay = endpoint.link.reconnectDelay := by
  unfold linkAt
  split <;> rfl

variable [Transport τ] {flags : LinkFlags} {time : FrameTime} {now : Nat} {effect : Effect (Endpoint τ)}

/-- A frame starts with a poll of the link, and each notice of it is passed on. -/
theorem startFrame_eq (endpoint : Endpoint τ) (config : SiteConfig) (flags : LinkFlags) (time : FrameTime)
    (now : Nat) : endpoint.startFrame config flags time now =
      (Session.poll now (endpoint.linkAt now) endpoint.transport).map fun session =>
        session.notices.foldl (heed config time) (.silent
          { endpoint with link := session.link, transport := session.transport, started := true } flags) := by
  show (Session.poll now (endpoint.linkAt now) endpoint.transport >>= _) = _
  cases Session.poll now (endpoint.linkAt now) endpoint.transport <;> rfl

theorem poll_of_startFrame (started : endpoint.startFrame config flags time now = .ok effect) :
    ∃ session : Session τ, Session.poll now (endpoint.linkAt now) endpoint.transport = .ok session ∧
      effect = session.notices.foldl (heed config time) (.silent
        { endpoint with link := session.link, transport := session.transport, started := true } flags) := by
  rw [startFrame_eq] at started
  cases polled : Session.poll now (endpoint.linkAt now) endpoint.transport with
  | error fault =>
    rw [polled] at started
    cases started
  | ok session =>
    rw [polled] at started
    cases started
    exact ⟨session, rfl, rfl⟩

theorem startFrame_polls (sound : endpoint.Sound numTrx)
    (started : endpoint.startFrame config flags time now = .ok effect) :
    ∃ (session : Session τ) (acts : List Happening),
      Polls now (endpoint.linkAt now) acts session.notices session.link ∧
      effect = session.notices.foldl (heed config time) (.silent
        { endpoint with link := session.link, transport := session.transport, started := true } flags) := by
  obtain ⟨session, polled, rfl⟩ := poll_of_startFrame started
  obtain ⟨acts, polls⟩ := Session.polls_of_ok (sound.linkAt now).timer polled
  exact ⟨session, acts, polls, rfl⟩

theorem startFrame_eq_error_iff {fault : Fault} (sound : endpoint.Sound numTrx) :
    endpoint.startFrame config flags time now = .error fault ↔
      fault = .timeOverflow ∧ Link.timeLimit ≤ now + endpoint.link.reconnectDelay ∧
        Retries now (endpoint.linkAt now) endpoint.transport := by
  rw [startFrame_eq, ← linkAt_reconnectDelay now, ← Session.poll_eq_error_iff (sound.linkAt now).timer]
  cases Session.poll now (endpoint.linkAt now) endpoint.transport with
  | error fault' => simp [Except.map]
  | ok session => simp [Except.map]

theorem startFrame_starts (sound : endpoint.Sound numTrx) (running : endpoint.failed = false)
    (started : endpoint.startFrame config flags time now = .ok effect) : Starts numTrx flags time effect := by
  have alive : (endpoint.linkAt now).state ≠ .failed := by
    rw [linkAt_state]
    intro failed
    cases running.symm.trans (sound.failed.mpr failed)
  obtain ⟨session, acts, polls, rfl⟩ := startFrame_polls sound started
  have announces := polls.announces alive
  have sound' := polls.sound (sound.linkAt now)
  let begun : Endpoint τ :=
    { endpoint with link := session.link, transport := session.transport, started := true }
  by_cases failed : session.link.state = .failed
  · obtain ⟨before, ends, ups⟩ := announces.1 failed
    have flushes := foldl_heed config time ups (.silent begun flags)
    rw [ends, List.foldl_append, List.foldl_cons, List.foldl_nil]
    exact flushes.fails sound' rfl failed
  · have flushes := foldl_heed config time (announces.2 failed) (.silent begun flags)
    exact flushes.runs sound' rfl running failed

end BaseStation.Abis.Endpoint
