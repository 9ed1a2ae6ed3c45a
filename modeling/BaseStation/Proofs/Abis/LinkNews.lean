import BaseStation.Proofs.Abis.EndpointFrames
import BaseStation.Proofs.Management.Signalling

namespace BaseStation

open Abis (Notice)

def Message.IsBeside (message : Message) : Prop :=
  message.dest = .oml → ∀ seen : Signalling, seen.hear message.primitive = seen

namespace Signalling

def after (seen : Signalling) (messages : List Message) : Signalling :=
  messages.foldl (fun seen message => if message.dest = .oml then seen.hear message.primitive else seen) seen

def learn (seen : Signalling) : Notice → Signalling
  | .up => ⟨true, true, seen.rsl.map fun _ => true⟩
  | .failed => ⟨false, false, seen.rsl.map fun _ => false⟩

variable {seen : Signalling} {message : Message} {messages : List Message}

theorem after_append (seen : Signalling) (first second : List Message) :
    seen.after (first ++ second) = (seen.after first).after second := List.foldl_append

theorem after_cons_self (own : message.dest = .oml) (rest : List Message) :
    seen.after (message :: rest) = (seen.hear message.primitive).after rest := by
  rw [after, List.foldl_cons, if_pos own]
  rfl

theorem after_cons_of_ne (away : message.dest ≠ .oml) (rest : List Message) :
    seen.after (message :: rest) = seen.after rest := by
  rw [after, List.foldl_cons, if_neg away]
  rfl

theorem after_of_beside (beside : ∀ message ∈ messages, message.IsBeside) (seen : Signalling) :
    seen.after messages = seen := by
  induction messages with
  | nil => rfl
  | cons message rest ih =>
    have rest := ih fun other mem => beside other (List.mem_cons_of_mem _ mem)
    by_cases own : message.dest = .oml
    · rw [after_cons_self own, beside message List.mem_cons_self own]
      exact rest
    · rw [after_cons_of_ne own]
      exact rest

end Signalling

namespace Abis

def Link.signalling (link : Link) : Signalling := ⟨link.omlUp, link.omlUp, link.rslUp⟩

theorem Link.signalling_ofConfig {config : AbisConfig} {numTrx : Nat} {link : Link}
    (made : Link.ofConfig config numTrx = .ok link) :
    link.signalling = ⟨false, false, List.replicate numTrx false⟩ := by
  unfold Link.ofConfig at made
  split at made <;> cases made
  rfl

section notices

variable {numTrx now : Nat} {link link' : Link} {acts : List Happening} {notices : List Notice}

theorem Hears.signalling (hears : Hears now link acts notices link') (sound : link.Sound numTrx)
    (connected : link.state = .connected) : notices.foldl Signalling.learn link.signalling = link'.signalling := by
  induction hears with
  | idle link => rfl
  | up _ ih => exact ih (sound.setLinksUp connected) connected
  | lost up => rfl
  | @dropped link down =>
    -- no notice is given, as nothing was up
    have silent : link.omlUp = false := (Bool.or_eq_false_iff.mp down).1
    simp [Link.signalling, Link.retrying, Link.setLinksDown, sound.rsl, silent]

theorem Link.Sound.signalling_failed (sound : link.Sound numTrx) (away : link.state ≠ .connected) :
    link.signalling.learn .failed = link.failed.signalling := by
  have silent := sound.down away
  simp [Link.signalling, Link.failed, Signalling.learn, sound.rsl, silent]

theorem Polls.signalling (polls : Polls now link acts notices link') (sound : link.Sound numTrx) :
    notices.foldl Signalling.learn link.signalling = link'.signalling := by
  cases polls with
  | idle early away => rfl
  | hears early connected hears => exact hears.signalling sound connected
  | exhausted due spent =>
    have connecting := sound.connecting_of_due due
    exact sound.signalling_failed (by rw [connecting]; rintro ⟨⟩)
  | refused due takes =>
    have connecting := sound.connecting_of_due due
    have tried := (sound.takeHost takes).signalling_failed (by
      rw [Link.state_of_takeHost takes, connecting]
      rintro ⟨⟩)
    obtain ⟨place, _, _, same⟩ := Link.takeHost_eq_some.mp takes
    rw [← tried, same]
    rfl
  | connects due takes hears =>
    have taken := sound.takeHost takes
    have heard := hears.signalling ⟨by rintro ⟨⟩, taken.rsl, fun _ => rfl⟩ rfl
    obtain ⟨place, _, _, same⟩ := Link.takeHost_eq_some.mp takes
    rw [← heard, same]
    rfl

end notices

namespace Endpoint

variable {τ : Type} {config : SiteConfig} {numTrx : Nat} {endpoint : Endpoint τ} {flags : LinkFlags}
  {time : FrameTime}

def news (numTrx : Nat) (time : FrameTime) : Notice → List Message
  | .up => .ofPrimitive time (.link .omlLinkUp) :: (List.range numTrx).map fun trx =>
      .ofPrimitive time (.link (.rslLinkUp trx))
  | .failed => [.ofPrimitive time (.link .abisLinkFailed)]

theorem signalling_ofConfig {transport : τ} (made : Endpoint.ofConfig config transport = .ok endpoint) :
    endpoint.link.signalling = ⟨false, false, List.replicate config.bts.numTrx.toNat false⟩ := by
  obtain ⟨link, linked, made⟩ := bind_eq_ok made
  cases made
  exact Link.signalling_ofConfig linked

theorem after_rslLinkUps {count : Nat} {seen : Signalling} (bound : count ≤ seen.rsl.length) (time : FrameTime) :
    seen.after ((List.range count).map fun trx => .ofPrimitive time (.link (.rslLinkUp trx))) =
      { seen with rsl := List.replicate count true ++ seen.rsl.drop count } := by
  induction count with
  | zero => rfl
  | succ count ih =>
    have place : count < seen.rsl.length := bound
    rw [List.range_succ, List.map_append, Signalling.after_append, ih (Nat.le_of_succ_le bound)]
    show Signalling.mk _ _ ((List.replicate count true ++ seen.rsl.drop count).set count true) = _
    rw [List.drop_eq_getElem_cons place, List.set_append_right _ _ (by simp), List.length_replicate,
      Nat.sub_self, List.set_cons_zero, List.replicate_succ', List.append_assoc]
    rfl

theorem after_news {seen : Signalling} (full : seen.rsl.length = numTrx) (time : FrameTime) (notice : Notice) :
    seen.after (news numTrx time notice) = seen.learn notice := by
  cases notice with
  | failed => rfl
  | up =>
    rw [news, Signalling.after_cons_self rfl]
    let site : Signalling := { seen with oml := true, installed := true }
    have bound : numTrx ≤ site.rsl.length := Nat.le_of_eq full.symm
    refine (after_rslLinkUps bound time).trans ?_
    show Signalling.mk true true (List.replicate numTrx true ++ seen.rsl.drop numTrx) = _
    rw [List.drop_of_length_le (Nat.le_of_eq full), List.append_nil, Signalling.learn, List.map_const', full]

theorem after_allNews {seen : Signalling} (full : seen.rsl.length = numTrx) (time : FrameTime)
    (notices : List Notice) :
    seen.after (notices.flatMap (news numTrx time)) = notices.foldl Signalling.learn seen := by
  induction notices generalizing seen with
  | nil => rfl
  | cons notice rest ih =>
    have full' : (seen.learn notice).rsl.length = numTrx := by
      cases notice <;> exact (List.length_map _).trans full
    rw [List.flatMap_cons, Signalling.after_append, after_news full, List.foldl_cons]
    exact ih full'

theorem heed_news (config : SiteConfig) (time : FrameTime) (effect : Effect (Endpoint τ)) (notice : Notice) :
    (heed config time effect notice).state.link = effect.state.link ∧
      (heed config time effect notice).flags.omlLinkUp = effect.flags.omlLinkUp ∧
      (heed config time effect notice).sent = effect.sent ++ news config.bts.numTrx.toNat time notice := by
  cases notice <;> exact ⟨rfl, rfl, rfl⟩

theorem foldl_heed_news (config : SiteConfig) (time : FrameTime) (notices : List Notice)
    (effect : Effect (Endpoint τ)) :
    (notices.foldl (heed config time) effect).state.link = effect.state.link ∧
      (notices.foldl (heed config time) effect).flags.omlLinkUp = effect.flags.omlLinkUp ∧
      (notices.foldl (heed config time) effect).sent =
        effect.sent ++ notices.flatMap (news config.bts.numTrx.toNat time) := by
  induction notices generalizing effect with
  | nil => exact ⟨rfl, rfl, (List.append_nil _).symm⟩
  | cons notice rest ih =>
    obtain ⟨link, oml, sent⟩ := heed_news config time effect notice
    obtain ⟨link', oml', sent'⟩ := ih (heed config time effect notice)
    refine ⟨link'.trans link, oml'.trans oml, sent'.trans ?_⟩
    rw [sent, List.append_assoc, List.flatMap_cons]

theorem signalling_linkAt (now : Nat) (endpoint : Endpoint τ) :
    (endpoint.linkAt now).signalling = endpoint.link.signalling := by
  unfold linkAt
  split <;> rfl

variable [Transport τ]

theorem startFrame_sound {now : Nat} {effect : Effect (Endpoint τ)} (sound : endpoint.Sound numTrx)
    (started : endpoint.startFrame config flags time now = .ok effect) : effect.state.Sound numTrx := by
  cases running : endpoint.failed with
  | false =>
    exact (startFrame_starts sound running started).sound
  | true =>
    -- the link of a failed endpoint stays as it is
    have linkSound := sound.linkAt now
    have failed : (endpoint.linkAt now).state = .failed :=
      (linkAt_state now endpoint).trans (sound.failed.mp running)
    obtain ⟨session, acts, polls, rfl⟩ := startFrame_polls sound started
    obtain ⟨_, silent, same⟩ := polls.of_failed linkSound failed
    rw [silent, same]
    exact ⟨linkSound, (by rintro ⟨⟩), fun _ => failed, fun _ => running⟩

/-- Whatever a frame makes of the link, what is sent as it starts tells of it. -/
theorem startFrame_signalling {now : Nat} {effect : Effect (Endpoint τ)}
    (sound : endpoint.Sound config.bts.numTrx.toNat)
    (started : endpoint.startFrame config flags time now = .ok effect) :
    effect.flags.omlLinkUp = flags.omlLinkUp ∧
      endpoint.link.signalling.after effect.sent = effect.state.link.signalling := by
  obtain ⟨session, acts, polls, rfl⟩ := startFrame_polls sound started
  let begun : Endpoint τ :=
    { endpoint with link := session.link, transport := session.transport, started := true }
  obtain ⟨link, oml, sent⟩ := foldl_heed_news config time session.notices (.silent begun flags)
  refine ⟨oml, ?_⟩
  have full : endpoint.link.signalling.rsl.length = config.bts.numTrx.toNat := by
    simp [Link.signalling, sound.link.rsl]
  have told := polls.signalling (sound.linkAt now)
  rw [signalling_linkAt] at told
  rw [sent, link]
  exact (after_allNews full time _).trans told

end Endpoint

end Abis

end BaseStation
