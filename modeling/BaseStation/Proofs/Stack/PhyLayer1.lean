import BaseStation.Proofs.Layer1.Agreement
import BaseStation.Proofs.Stack.Delivery
import BaseStation.Stack.View

namespace BaseStation.Stack

variable {τ : Type} {config : SiteConfig} {phy : Phy} {layer1 : Layer1}
  {queue : Queue} {time : FrameTime} {flags : LinkFlags} {message : Message} {rest : List Message}
  {overlooked : List ChannelAddress} {stack stack' : Stack τ}

def pair (config : SiteConfig) (phy : Phy) (layer1 : Layer1) (queue : Queue) (time : FrameTime)
    (flags : LinkFlags) : Stack τ :=
  ⟨[.ofComponent config (.phy phy), .ofComponent config (.layer1 layer1)], queue, time, flags⟩

def heard (config : SiteConfig) (phy : Phy) (layer1 : Layer1) (message : Message) :
    Phy × Layer1 × List Message :=
  match message.dest with
  | .phy => (phy.receive message, layer1, [])
  | .layer1 => (phy, layer1.receive config message)
  | .oml | .abis => (phy, layer1, [])

theorem deliver_pair :
    (pair (τ := τ) config phy layer1 ⟨message :: rest⟩ time flags).deliver =
      .ok (pair config (heard config phy layer1 message).1 (heard config phy layer1 message).2.1
        ⟨rest ++ (heard config phy layer1 message).2.2⟩ time flags) := by
  obtain ⟨sap, source, dest, created, primitive⟩ := message
  cases dest with
  | phy | layer1 => rfl
  | oml | abis =>
    simp only [heard, List.append_nil]
    rfl

theorem startFrame_pair [Abis.Transport τ] (now : Nat) :
    (pair (τ := τ) config phy layer1 queue time flags).startFrame now =
      .ok (pair config (phy.startFrame config time).1 layer1
        (queue.pushAll (phy.startFrame config time).2) time flags) := by
  simp only [startFrame, pair, List.map_cons, List.map_nil, List.foldlM_cons, List.foldlM_nil]
  show Except.ok (settle (settle _ _) (.silent _ _)) = _
  simp only [settle, Effect.silent, Queue.pushAll, List.append_nil]
  rfl

theorem startFrame_params (phy : Phy) (config : SiteConfig) (time : FrameTime) :
    (phy.startFrame config time).1.params = phy.params ∧
      ∀ message ∈ (phy.startFrame config time).2, message.dest = .oml := by
  unfold Phy.startFrame
  split
  · exact ⟨rfl, by simp⟩
  · refine ⟨rfl, fun message sent => ?_⟩
    obtain ⟨trx, _, rfl⟩ := List.mem_map.mp sent
    rfl

def overlookedNext (config : SiteConfig) (stack : Stack τ) (overlooked : List ChannelAddress) :
    List ChannelAddress :=
  match stack.queue.messages, stack.layer1? with
  | message :: _, some layer1 =>
    if message.dest = .layer1 then layer1.overlooked config message overlooked else overlooked
  | _, _ => overlooked

/-- A stack of a PHY and layer 1 that started fresh, was given messages for layer 1 and has delivered some
of what waits. Overlooked are the channels activated while active of which the PHY was not told since. -/
inductive Paired [Abis.Transport τ] (config : SiteConfig) : List ChannelAddress → Stack τ → Prop
  | fresh (time : FrameTime) : Paired config [] (ofComponents config time [.phy .fresh, .layer1 .empty])
  | submit {overlooked : List ChannelAddress} {stack : Stack τ} (message : Message)
      (addressed : message.dest = .layer1) (before : Paired config overlooked stack) :
      Paired config overlooked (stack.submit message)
  | deliver {overlooked : List ChannelAddress} {stack stack' : Stack τ}
      (before : Paired config overlooked stack) (delivered : stack.deliver = .ok stack') :
      Paired config (overlookedNext config stack overlooked) stack'
  | startFrame {overlooked : List ChannelAddress} {stack stack' : Stack τ} {now : Nat}
      (before : Paired config overlooked stack) (started : stack.startFrame now = .ok stack') :
      Paired config overlooked stack'
  | tick {overlooked : List ChannelAddress} {stack : Stack τ} (before : Paired config overlooked stack) :
      Paired config overlooked { stack with time := stack.time.advance 1 }

/-- Once all that waits has arrived, the PHY holds what layer 1 uses. -/
def Follows (config : SiteConfig) (overlooked : List ChannelAddress) (stack : Stack τ) : Prop :=
  ∃ phy layer1 queue time flags, stack = pair config phy layer1 queue time flags ∧
    (phy.afterAll queue.messages).Follows layer1 overlooked

theorem afterAll_of_away {messages : List Message} (away : ∀ message ∈ messages, message.dest ≠ .phy)
    (phy : Phy) : phy.afterAll messages = phy := by
  induction messages with
  | nil => rfl
  | cons message rest ih =>
    rw [Phy.afterAll_cons_of_ne (away message List.mem_cons_self)]
    exact ih fun other later => away other (List.mem_cons_of_mem _ later)

/-- What the PHY will hold depends on nothing of it but what it holds. -/
theorem afterAll_params {other : Phy} (same : other.params = phy.params) (messages : List Message) :
    (other.afterAll messages).params = (phy.afterAll messages).params := by
  induction messages generalizing phy other with
  | nil => exact same
  | cons message rest ih =>
    by_cases own : message.dest = .phy
    · rw [Phy.afterAll_cons_self own, Phy.afterAll_cons_self own]
      apply ih
      unfold Phy.receive
      split <;> simp [Phy.setParams, Phy.deactivate, Phy.eraseParams, same]
    · rw [Phy.afterAll_cons_of_ne own, Phy.afterAll_cons_of_ne own]
      exact ih same

theorem Follows.deliver (follows : Follows config overlooked stack)
    (delivered : stack.deliver = .ok stack') :
    Follows config (overlookedNext config stack overlooked) stack' := by
  obtain ⟨phy, layer1, ⟨messages⟩, time, flags, rfl, agrees⟩ := follows
  cases messages with
  | nil =>
    cases delivered
    exact ⟨phy, layer1, ⟨[]⟩, time, flags, rfl, agrees⟩
  | cons message rest =>
    rw [deliver_pair] at delivered
    cases delivered
    refine ⟨_, _, _, _, _, rfl, ?_⟩
    obtain ⟨sap, source, dest, created, primitive⟩ := message
    rw [Phy.afterAll_append]
    cases dest with
    | phy =>
      rw [Phy.afterAll_cons_self rfl] at agrees
      exact agrees
    | layer1 =>
      rw [Phy.afterAll_cons_of_ne (show Entity.layer1 ≠ .phy by decide)] at agrees
      exact agrees.receive config _
    | oml =>
      rw [Phy.afterAll_cons_of_ne (show Entity.oml ≠ .phy by decide)] at agrees
      exact agrees
    | abis =>
      rw [Phy.afterAll_cons_of_ne (show Entity.abis ≠ .phy by decide)] at agrees
      exact agrees

theorem Follows.startFrame [Abis.Transport τ] (follows : Follows config overlooked stack) {now : Nat}
    (started : stack.startFrame now = .ok stack') : Follows config overlooked stack' := by
  obtain ⟨phy, layer1, queue, time, flags, rfl, agrees⟩ := follows
  rw [startFrame_pair] at started
  cases started
  refine ⟨_, _, _, _, _, rfl, ?_⟩
  obtain ⟨same, away⟩ := startFrame_params phy config time
  rw [Queue.pushAll, Phy.afterAll_append,
    afterAll_of_away fun message sent => by simp [away message sent]]
  intro chan params held
  apply agrees chan params
  rw [Phy.params?, ← afterAll_params same]
  exact held

theorem Paired.follows [Abis.Transport τ] (run : Paired config overlooked stack) :
    Follows config overlooked stack := by
  induction run with
  | fresh time =>
    refine ⟨.fresh, .empty, .empty, time, .initial, rfl, fun chan params held => ?_⟩
    cases held
  | submit _ addressed _ ih =>
    obtain ⟨phy, layer1, queue, time, flags, rfl, agrees⟩ := ih
    refine ⟨phy, layer1, _, time, flags, rfl, ?_⟩
    rw [Queue.push, Phy.afterAll_append, afterAll_of_away (by simp [addressed])]
    exact agrees
  | deliver _ delivered ih => exact ih.deliver delivered
  | startFrame _ started ih => exact ih.startFrame started
  | tick _ ih =>
    obtain ⟨phy, layer1, queue, time, flags, rfl, agrees⟩ := ih
    exact ⟨phy, layer1, queue, _, flags, rfl, agrees⟩

theorem Paired.deliverAll [Abis.Transport τ] (run : Paired config overlooked stack)
    (delivered : stack.deliverAll = .ok stack') : ∃ overlooked', Paired config overlooked' stack' := by
  refine deliverRounds_keeps (P := fun stack => ∃ overlooked, Paired config overlooked stack) ?_ delivered ⟨_, run⟩
  rintro stack stack' first ⟨_, run⟩
  exact ⟨_, run.deliver first⟩

/-- When no message waits, the PHY holds parameters of active channels only, and they are those in use
unless the channel was activated while active and the PHY was not told of it since. -/
theorem Paired.params_agree [Abis.Transport τ] (config : SiteConfig)
    (overlooked : List ChannelAddress) (stack : Stack τ) (run : Paired config overlooked stack)
    (settled : stack.queue.isEmpty = true) :
    ∃ phy, stack.component? .phy = some (.phy phy) ∧
      ∀ chan params, phy.params? chan = some params →
        ∃ lchan, stack.channel? chan = some lchan ∧
          (chan ∉ overlooked → params = lchan.transmitParams) := by
  obtain ⟨phy, layer1, ⟨messages⟩, time, flags, rfl, agrees⟩ := run.follows
  have empty : messages = [] := List.isEmpty_iff.mp settled
  subst empty
  exact ⟨phy, rfl, agrees⟩

section Restart

open Abis (ScriptedTransport)

def activation (repeated : Bool) : Message :=
  .ofPrimitive ⟨0⟩ (.activate ⟨⟨0, 2, 0⟩, .tchF, .tchF, .speechV1, 0, none, 0, none, 0,
    ⟨repeated, false, 0⟩, .none⟩)

def lostBlock : Message := .ofPrimitive ⟨0⟩ (.sacchBlock ⟨0, 2, 0⟩ 0 none)

def repeating : Stack ScriptedTransport :=
  pair (.ofHosts []) (Phy.fresh.setParams ⟨0, 2, 0⟩ ⟨0, 0, 0, true, false⟩)
    ((Layer1.empty.receive (.ofHosts []) (activation true)).1.receive (.ofHosts []) lostBlock).1
    .empty ⟨0⟩ .initial

theorem paired_repeating : Paired (.ofHosts []) [] repeating := by
  have fresh : Paired (τ := ScriptedTransport) (.ofHosts []) [] _ := .fresh ⟨0⟩
  have activated := (fresh.submit (activation true) rfl).deliver rfl
  have reported := (activated.submit lostBlock rfl).deliver rfl
  exact (reported.deliver rfl).deliver rfl

theorem params_agree_repeating : ∃ phy lchan,
    repeating.component? .phy = some (.phy phy) ∧ repeating.channel? ⟨0, 2, 0⟩ = some lchan ∧
      phy.params? ⟨0, 2, 0⟩ = some lchan.transmitParams ∧ lchan.repeatFacch = true := by
  obtain ⟨phy, component, agree⟩ := Paired.params_agree _ _ repeating paired_repeating rfl
  have held : phy.params? ⟨0, 2, 0⟩ = some ⟨0, 0, 0, true, false⟩ := by
    cases component
    rfl
  obtain ⟨lchan, active, equal⟩ := agree _ _ held
  have inUse : lchan.transmitParams = ⟨0, 0, 0, true, false⟩ := (equal List.not_mem_nil).symm
  exact ⟨phy, lchan, component, active, by rw [inUse, held], congrArg (·.repeatFacch) inUse⟩

/-- The channel activated once more, now without repeated blocks: layer 1 starts it anew, and the PHY
goes on repeating. -/
theorem params_disagree_restarted :
    ¬ ∀ (overlooked : List ChannelAddress) (stack : Stack ScriptedTransport) (phy : Phy)
        (chan : ChannelAddress) (lchan : LogicalChannel) (params : Lchan.TransmitParams),
      Paired (.ofHosts []) overlooked stack → stack.queue.isEmpty = true →
        stack.component? .phy = some (.phy phy) → stack.channel? chan = some lchan →
          phy.params? chan = some params → params = lchan.transmitParams := by
  intro agree
  have restarted := (paired_repeating.submit (activation false) rfl).deliver rfl
  have equal := agree _ _ _ ⟨0, 2, 0⟩ _ _ restarted rfl rfl rfl rfl
  have repeated : true = false := congrArg (·.repeatFacch) equal
  cases repeated

end Restart

end BaseStation.Stack
