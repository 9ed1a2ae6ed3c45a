import BaseStation.Proofs.Layer1.Releases
import BaseStation.Proofs.Stack.PhyLayer1

namespace BaseStation

theorem Phy.receive_deactivated (phy : Phy) {message : Message} (own : message.dest = .phy) :
    (phy.receive message).deactivated = phy.deactivated + if message.deactivates then 1 else 0 := by
  obtain ⟨sap, source, dest, created, primitive⟩ := message
  cases own
  cases primitive <;> rfl

namespace Stack

variable {τ : Type} {config : SiteConfig} {count : Nat} {stack stack' : Stack τ}

def active [Abis.Transport τ] (stack : Stack τ) : Finset ChannelAddress :=
  (stack.layer1?.map Layer1.active).getD ∅

variable [Abis.Transport τ]

inductive Moves : Stack τ → Stack τ → Prop
  | submit (stack : Stack τ) (message : Message) (addressed : message.dest = .layer1) :
      Moves stack (stack.submit message)
  | deliver {stack stack' : Stack τ} (delivered : stack.deliver = .ok stack') : Moves stack stack'
  | startFrame {stack stack' : Stack τ} {now : Nat} (started : stack.startFrame now = .ok stack') :
      Moves stack stack'
  | tick (stack : Stack τ) : Moves stack { stack with time := stack.time.advance 1 }

/-- A stack of a PHY and layer 1 that started fresh, and how often a channel that was active was not any more
after the next thing done. -/
inductive Exchanges (config : SiteConfig) : Nat → Stack τ → Prop
  | fresh (time : FrameTime) : Exchanges config 0 (ofComponents config time [.phy .fresh, .layer1 .empty])
  | step {count : Nat} {stack stack' : Stack τ} (before : Exchanges config count stack)
      (moves : Moves stack stack') : Exchanges config (count + (stack.active \ stack'.active).card) stack'

theorem Exchanges.paired (run : Exchanges config count stack) : ∃ overlooked, Paired config overlooked stack := by
  induction run with
  | fresh time => exact ⟨_, .fresh time⟩
  | step _ moves ih =>
    obtain ⟨_, paired⟩ := ih
    cases moves with
    | submit message addressed => exact ⟨_, paired.submit message addressed⟩
    | deliver delivered => exact ⟨_, paired.deliver delivered⟩
    | startFrame started => exact ⟨_, paired.startFrame started⟩
    | tick => exact ⟨_, paired.tick⟩

def Tallies (config : SiteConfig) (count : Nat) (stack : Stack τ) : Prop :=
  ∃ phy layer1 queue time flags, stack = pair config phy layer1 queue time flags ∧
    layer1.addresses.Nodup ∧ phy.deactivated + queue.messages.countP Message.deactivates = count

theorem tallies_pair {phy phy' : Phy} {layer1 : Layer1} {queue queue' : Queue} {time time' : FrameTime}
    {flags flags' : LinkFlags} (distinct : layer1.addresses.Nodup)
    (counted : phy'.deactivated + queue'.messages.countP Message.deactivates = count) :
    let before : Stack τ := pair config phy layer1 queue time flags
    let after : Stack τ := pair config phy' layer1 queue' time' flags'
    Tallies config (count + (before.active \ after.active).card) after := by
  refine ⟨phy', layer1, queue', time', flags', rfl, distinct, ?_⟩
  -- no channel is given up
  show _ = _ + (layer1.active \ layer1.active).card
  rw [Finset.sdiff_self, counted]
  rfl

theorem Tallies.deliver (tallies : Tallies config count stack) (delivered : stack.deliver = .ok stack') :
    Tallies config (count + (stack.active \ stack'.active).card) stack' := by
  obtain ⟨phy, layer1, ⟨messages⟩, time, flags, rfl, distinct, rfl⟩ := tallies
  cases messages with
  | nil =>
    cases delivered
    exact tallies_pair distinct rfl
  | cons message rest =>
    rw [deliver_pair] at delivered
    cases delivered
    cases dest : message.dest with
    | phy =>
      simp only [heard, dest]
      refine tallies_pair distinct ?_
      rw [List.append_nil, List.countP_cons, phy.receive_deactivated dest]
      dsimp only
      omega
    | layer1 =>
      have changes := layer1.receive_changes config message
      have silent : message.deactivates = false := by simp [Message.deactivates, dest]
      simp only [heard, dest]
      refine ⟨_, _, _, _, _, rfl, changes.nodup distinct, ?_⟩
      show _ = _ + (layer1.active \ (layer1.receive config message).1.active).card
      rw [List.countP_append, changes.count distinct, List.countP_cons, silent, Nat.add_assoc]
      rfl
    | oml | abis =>
      have silent : message.deactivates = false := by simp [Message.deactivates, dest]
      simp only [heard, dest]
      refine tallies_pair distinct ?_
      rw [List.append_nil, List.countP_cons, silent]
      rfl

theorem Tallies.moves (tallies : Tallies config count stack) (moves : Moves stack stack') :
    Tallies config (count + (stack.active \ stack'.active).card) stack' := by
  cases moves with
  | deliver delivered => exact tallies.deliver delivered
  | submit message addressed =>
    obtain ⟨phy, layer1, queue, time, flags, rfl, distinct, rfl⟩ := tallies
    have silent : message.deactivates = false := by simp [Message.deactivates, addressed]
    refine tallies_pair distinct ?_
    rw [Queue.push, List.countP_append, List.countP_singleton, silent]
    rfl
  | startFrame started =>
    obtain ⟨phy, layer1, queue, time, flags, rfl, distinct, rfl⟩ := tallies
    rw [startFrame_pair] at started
    cases started
    have same : (phy.startFrame config time).1.deactivated = phy.deactivated := by
      unfold Phy.startFrame
      split <;> rfl
    have silent : (phy.startFrame config time).2.countP Message.deactivates = 0 := by
      refine List.countP_eq_zero.mpr fun message sent => ?_
      simp [Message.deactivates, (startFrame_params phy config time).2 message sent]
    refine tallies_pair distinct ?_
    rw [Queue.pushAll, List.countP_append, silent, same]
    rfl
  | tick =>
    obtain ⟨phy, layer1, queue, time, flags, rfl, distinct, rfl⟩ := tallies
    exact tallies_pair distinct rfl

theorem Exchanges.tallies (run : Exchanges config count stack) : Tallies config count stack := by
  induction run with
  | fresh time => exact ⟨.fresh, .empty, .empty, time, .initial, rfl, List.nodup_nil, rfl⟩
  | step _ moves ih => exact ih.moves moves

/-- Whenever nothing waits the PHY holds parameters of active channels only, and has deactivated a channel as
often as one that was active was given up. The release of a timeslot frees it, whatever the order in which the
channels are come upon, and nothing is said of the release of a channel that is not active. -/
theorem Exchanges.releases_conserved (run : Exchanges config count stack) :
    ∃ phy layer1, stack.component? .phy = some (.phy phy) ∧ stack.component? .layer1 = some (.layer1 layer1) ∧
      (stack.queue.isEmpty = true → phy.deactivated = count ∧
        ∀ chan params, phy.params? chan = some params → layer1.isActive chan = true) ∧
      (∀ message trx ts, message.primitive = .releaseTimeslot trx ts →
        layer1.FreesTimeslot message.created trx ts (layer1.receive config message) ∧
        ∀ other : Layer1, other.channels.Perm layer1.channels →
          (other.receive config message).1.channels.Perm (layer1.receive config message).1.channels ∧
          (other.receive config message).2 = (layer1.receive config message).2) ∧
      ∀ message chan, message.primitive = .release chan → layer1.isActive chan = false →
        layer1.receive config message = (layer1, []) := by
  obtain ⟨_, paired⟩ := run.paired
  obtain ⟨phy, layer1, ⟨messages⟩, time, flags, rfl, distinct, counted⟩ := run.tallies
  refine ⟨phy, layer1, rfl, rfl, fun settled => ?_, fun message trx ts asked => ?_, fun message chan asked idle => ?_⟩
  · have empty : messages = [] := List.isEmpty_iff.mp settled
    subst empty
    refine ⟨counted, fun chan params held => ?_⟩
    obtain ⟨_, _, _, _, _, same, follows⟩ := paired.follows
    cases same
    obtain ⟨lchan, found, _⟩ := follows chan params held
    exact Layer1.isActive_iff.mpr ⟨lchan, found⟩
  · simp only [Layer1.receive, asked]
    exact ⟨Layer1.releaseTimeslot_frees _ _ _ distinct,
      fun _ perm => Layer1.releaseTimeslot_of_perm _ _ _ distinct perm⟩
  · simp [Layer1.receive, asked, Layer1.release, idle]

theorem releases_conserved_again : ∃ (count : Nat) (stack : Stack Abis.ScriptedTransport) (phy : Phy),
    Exchanges (.ofHosts []) count stack ∧ stack.queue.isEmpty = true ∧
      stack.component? .phy = some (.phy phy) ∧ phy.deactivated = 1 ∧ count = 1 := by
  let release : Message := .ofPrimitive ⟨0⟩ (.release ⟨0, 2, 0⟩)
  have fresh : Exchanges (τ := Abis.ScriptedTransport) (.ofHosts []) 0 _ := .fresh ⟨0⟩
  have active := (fresh.step (.submit _ (activation true) rfl)).step (.deliver rfl)
  have released := ((active.step (.submit _ release rfl)).step (.deliver rfl)).step (.deliver rfl)
  have again := (released.step (.submit _ release rfl)).step (.deliver rfl)
  obtain ⟨phy, _, component, _, conserved, _⟩ := again.releases_conserved
  have counted := (conserved rfl).1
  have once : phy.deactivated = 1 := by
    cases component
    rfl
  exact ⟨_, _, phy, again, rfl, component, once, counted.symm.trans once⟩

end Stack

end BaseStation
