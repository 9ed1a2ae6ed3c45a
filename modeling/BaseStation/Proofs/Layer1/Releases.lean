import Mathlib.Data.Finset.Card
import BaseStation.Proofs.Layer1.Agreement

namespace BaseStation

def Message.deactivates (message : Message) : Bool :=
  match message.dest, message.primitive with
  | .phy, .deactivate _ => true
  | _, _ => false

namespace Layer1

variable {layer1 other : Layer1} {chan : ChannelAddress} {chans : List ChannelAddress}
  {lchan : LogicalChannel} {time : FrameTime} {trx ts : Nat}

def addresses (layer1 : Layer1) : List ChannelAddress := layer1.channels.map (·.chan)

def active (layer1 : Layer1) : Finset ChannelAddress := layer1.addresses.toFinset

theorem mem_addresses : chan ∈ layer1.addresses ↔ layer1.isActive chan = true := by
  simp [addresses, isActive, get?]

theorem addresses_erase (layer1 : Layer1) (chan : ChannelAddress) :
    (layer1.erase chan).addresses = layer1.addresses.filter (· != chan) := by
  simp [addresses, erase, List.filter_map, Function.comp_def]

theorem channels_foldl_erase (chans : List ChannelAddress) (layer1 : Layer1) :
    (chans.foldl erase layer1).channels = layer1.channels.filter (·.chan ∉ chans) := by
  induction chans generalizing layer1 with
  | nil => simp
  | cons chan rest ih =>
    rw [List.foldl_cons, ih, erase, List.filter_filter]
    apply List.filter_congr
    intro lchan _
    by_cases same : lchan.chan = chan <;> simp [same]

theorem addresses_foldl_erase (chans : List ChannelAddress) (layer1 : Layer1) :
    (chans.foldl erase layer1).addresses = layer1.addresses.filter (· ∉ chans) := by
  rw [addresses, channels_foldl_erase, addresses, List.filter_map]
  rfl

theorem addresses_insert (layer1 : Layer1) (lchan : LogicalChannel) :
    (layer1.insert lchan).addresses = lchan.chan :: layer1.addresses.filter (· != lchan.chan) := by
  rw [← addresses_erase]
  rfl

theorem addresses_modify {f : LogicalChannel → LogicalChannel}
    (keeps : ∀ lchan, lchan.chan = chan → (f lchan).chan = chan) :
    (layer1.modify chan f).addresses = layer1.addresses := by
  simp only [addresses, modify, List.map_map]
  apply List.map_congr_left
  intro lchan _
  by_cases own : lchan.chan = chan <;> simp [own, keeps]

theorem countP_deactivate (time : FrameTime) (chans : List ChannelAddress) :
    (chans.map fun chan => Message.ofPrimitive time (.deactivate chan)).countP Message.deactivates =
      chans.length := by
  rw [List.countP_map]
  exact List.countP_eq_length.mpr fun _ _ => rfl

/-- Giving up channels that are active, each once, takes just these. -/
theorem card_erased (distinct : chans.Nodup) (were : ∀ chan ∈ chans, layer1.isActive chan = true) :
    (layer1.active \ (chans.foldl erase layer1).active).card = chans.length := by
  have gone : layer1.active \ (chans.foldl erase layer1).active = chans.toFinset := by
    ext chan
    rw [Finset.mem_sdiff, active, active, List.mem_toFinset, List.mem_toFinset, addresses_foldl_erase,
      List.mem_toFinset, List.mem_filter, mem_addresses]
    have was := were chan
    by_cases mem : chan ∈ chans <;> simp [mem, was]
  rw [gone, List.toFinset_card_of_nodup distinct]

theorem perm_onTimeslot (trx ts : Nat) (layer1 : Layer1) :
    (layer1.onTimeslot trx ts).Perm (layer1.addresses.filter fun chan => chan.trx == trx && chan.ts == ts) :=
  List.mergeSort_perm ..

/-- What a message makes of the channels: none comes or goes, one is put in place, or some are given up, of
which the PHY is told. -/
inductive Changes (layer1 : Layer1) (time : FrameTime) : Layer1 × List Message → Prop
  | keeps {after : Layer1} {sent : List Message} (same : after.addresses = layer1.addresses)
      (silent : sent.countP Message.deactivates = 0) : Changes layer1 time (after, sent)
  | puts (lchan : LogicalChannel) : Changes layer1 time (layer1.insert lchan, [])
  | gives (chans : List ChannelAddress) (were : ∀ chan ∈ chans, layer1.isActive chan = true)
      (distinct : layer1.addresses.Nodup → chans.Nodup) :
      Changes layer1 time
        (chans.foldl erase layer1, chans.map fun chan => .ofPrimitive time (.deactivate chan))

theorem sacchBlock_changes (layer1 : Layer1) (config : SiteConfig) (time : FrameTime) (chan : ChannelAddress)
    (block : Option (List UInt8)) : layer1.Changes time (layer1.sacchBlock config time chan block) := by
  cases found : layer1.get? chan with
  | none =>
    simp only [sacchBlock, found]
    exact .keeps rfl rfl
  | some lchan =>
    rw [sacchBlock_of_found found]
    have keeps : (lchan.handleSacch config block).2.2.chan = chan :=
      (lchan.handleSacch_chan config block).trans (chan_of_get? found)
    refine .keeps (addresses_modify fun _ _ => keeps) (List.countP_eq_zero.mpr fun message mem => ?_)
    rcases List.mem_cons.mp mem with rfl | mem
    · rintro ⟨⟩
    · obtain ⟨params, _, rfl⟩ := List.mem_map.mp mem
      rintro ⟨⟩

theorem receive_changes (layer1 : Layer1) (config : SiteConfig) (message : Message) :
    layer1.Changes message.created (layer1.receive config message) := by
  obtain ⟨sap, source, dest, created, primitive⟩ := message
  cases primitive with
  | measurement chan frame sample =>
    cases measured : layer1.measure chan frame sample with
    | error _ =>
      simp only [receive, measured]
      exact .keeps rfl rfl
    | ok result =>
      simp only [receive, measured]
      obtain ⟨lchan, found, same⟩ := measure_eq_ok measured
      obtain ⟨measurement, writes⟩ := lchan.process_writes sample frame
      have address : (lchan.process sample frame).2.chan = chan := by
        have own := chan_of_get? found
        rw [writes]
        exact own
      rw [same]
      exact .keeps (addresses_modify fun _ _ => address) rfl
  | sacchBlock chan frame block => exact layer1.sacchBlock_changes config created chan block
  | downlinkDtx chan => exact .keeps (addresses_modify fun _ own => own) rfl
  | activate activation => exact .puts (.ofActivation activation)
  | release chan =>
    simp only [receive, release]
    split
    · rename_i was
      exact .gives [chan] (List.forall_mem_singleton.mpr was) fun _ => List.nodup_singleton chan
    · exact .keeps rfl rfl
  | releaseTimeslot trx ts =>
    refine .gives (layer1.onTimeslot trx ts) (fun chan mem => (mem_onTimeslot.mp mem).1) fun distinct => ?_
    exact (perm_onTimeslot trx ts layer1).nodup_iff.mpr (distinct.filter _)
  | setParams _ _ | deactivate _ | measurementResult _ | report _ | request _ | link _ =>
    exact .keeps rfl rfl

variable {outcome : Layer1 × List Message}

theorem Changes.nodup (changes : layer1.Changes time outcome) (distinct : layer1.addresses.Nodup) :
    outcome.1.addresses.Nodup := by
  cases changes with
  | keeps same _ =>
    rw [same]
    exact distinct
  | puts lchan =>
    rw [addresses_insert]
    exact List.nodup_cons.mpr ⟨by simp, distinct.filter _⟩
  | gives chans _ _ =>
    rw [addresses_foldl_erase]
    exact distinct.filter _

theorem Changes.count (changes : layer1.Changes time outcome) (distinct : layer1.addresses.Nodup) :
    outcome.2.countP Message.deactivates = (layer1.active \ outcome.1.active).card := by
  cases changes with
  | keeps same silent =>
    rw [silent, active, active, same, Finset.sdiff_self]
    rfl
  | puts lchan =>
    have more : layer1.active ⊆ (layer1.insert lchan).active := by
      intro chan was
      rw [active, List.mem_toFinset] at was
      rw [active, List.mem_toFinset, addresses_insert]
      by_cases same : chan = lchan.chan <;> simp [same, was]
    rw [Finset.sdiff_eq_empty_iff_subset.mpr more]
    rfl
  | gives chans were unlike =>
    rw [countP_deactivate]
    exact (card_erased (unlike distinct) were).symm

theorem pairwise_onTimeslot (trx ts : Nat) (distinct : layer1.addresses.Nodup) :
    (layer1.onTimeslot trx ts).Pairwise fun a b => a.ss < b.ss := by
  have sorted : (layer1.onTimeslot trx ts).Pairwise fun a b => a.ss ≤ b.ss := by
    have rises : (layer1.onTimeslot trx ts).Pairwise fun a b => decide (a.ss ≤ b.ss) = true :=
      List.pairwise_mergeSort (by simp only [decide_eq_true_eq]; omega)
        (by simp only [Bool.or_eq_true, decide_eq_true_eq]; omega) _
    exact rises.imp of_decide_eq_true
  have apart : (layer1.onTimeslot trx ts).Nodup := (perm_onTimeslot trx ts layer1).nodup_iff.mpr (distinct.filter _)
  refine (sorted.and apart).imp_of_mem fun {a b} here there between => ?_
  obtain ⟨_, sameTrx, sameTs⟩ := mem_onTimeslot.mp here
  obtain ⟨_, sameTrx', sameTs'⟩ := mem_onTimeslot.mp there
  obtain ⟨le, ne⟩ := between
  refine Nat.lt_of_le_of_ne le fun same => ne ?_
  obtain ⟨_, _, _⟩ := a
  obtain ⟨_, _, _⟩ := b
  simp_all

/-- It does not matter in which order layer 1 comes upon its channels. -/
theorem onTimeslot_of_perm (trx ts : Nat) (distinct : layer1.addresses.Nodup)
    (perm : other.channels.Perm layer1.channels) : other.onTimeslot trx ts = layer1.onTimeslot trx ts := by
  have addresses : other.addresses.Perm layer1.addresses := perm.map _
  have same : (other.onTimeslot trx ts).Perm (layer1.onTimeslot trx ts) :=
    (perm_onTimeslot trx ts other).trans ((addresses.filter _).trans (perm_onTimeslot trx ts layer1).symm)
  refine same.eq_of_pairwise (fun a b _ _ below above => ?_)
    (pairwise_onTimeslot trx ts (addresses.nodup_iff.mpr distinct)) (pairwise_onTimeslot trx ts distinct)
  exact absurd (below.trans above) (Nat.lt_irrefl _)

structure FreesTimeslot (layer1 : Layer1) (time : FrameTime) (trx ts : Nat)
    (outcome : Layer1 × List Message) : Prop where
  freed : ∀ chan, outcome.1.get? chan = if chan.trx = trx ∧ chan.ts = ts then none else layer1.get? chan
  told : ∃ chans : List ChannelAddress,
    outcome.2 = chans.map (fun chan => .ofPrimitive time (.deactivate chan)) ∧
    (chans.Pairwise fun a b => a.ss < b.ss) ∧
    ∀ chan, chan ∈ chans ↔ layer1.isActive chan = true ∧ chan.trx = trx ∧ chan.ts = ts

theorem releaseTimeslot_frees (time : FrameTime) (trx ts : Nat) (distinct : layer1.addresses.Nodup) :
    layer1.FreesTimeslot time trx ts (layer1.releaseTimeslot time trx ts) := by
  refine ⟨fun chan => ?_, _, rfl, pairwise_onTimeslot trx ts distinct, fun chan => mem_onTimeslot⟩
  rw [releaseTimeslot, get?_foldl_erase]
  by_cases place : chan.trx = trx ∧ chan.ts = ts
  · rw [if_pos place, ite_eq_left_iff, mem_onTimeslot]
    intro idle
    have inactive : layer1.isActive chan ≠ true := fun was => idle ⟨was, place⟩
    simpa [isActive] using inactive
  · rw [if_neg place, if_neg fun mem => place (mem_onTimeslot.mp mem).2]

theorem releaseTimeslot_of_perm (time : FrameTime) (trx ts : Nat) (distinct : layer1.addresses.Nodup)
    (perm : other.channels.Perm layer1.channels) :
    (other.releaseTimeslot time trx ts).1.channels.Perm (layer1.releaseTimeslot time trx ts).1.channels ∧
      (other.releaseTimeslot time trx ts).2 = (layer1.releaseTimeslot time trx ts).2 := by
  simp only [releaseTimeslot, onTimeslot_of_perm trx ts distinct perm, channels_foldl_erase]
  exact ⟨perm.filter _, trivial⟩

end Layer1

end BaseStation
