import BaseStation.Proofs.Lchan.Averages

namespace BaseStation

theorem Radio.qualityClass_mono {rate rate' : Nat} (worse : rate ≤ rate') :
    qualityClass rate ≤ qualityClass rate' := by
  have step {limit low high high' : Nat} (rest : high ≤ high') (least : low ≤ high') :
      (if rate < limit then low else high) ≤ if rate' < limit then low else high' := by
    split <;> split <;> omega
  unfold qualityClass
  refine step (step (step (step (step (step (step (Nat.le_refl _) ?_) ?_) ?_) ?_) ?_) ?_) ?_
  all_goals repeat' split
  all_goals decide

namespace Lchan

variable {samples kept : List Sample}

theorem errors_lost (lost : kept.Sublist samples) (rates : ∀ sample ∈ samples, sample.errorRate ≤ 10000) :
    errors samples + 10000 * kept.length ≤ errors kept + 10000 * samples.length := by
  induction lost with
  | slnil => exact Nat.le_refl _
  | cons sample lost ih =>
    obtain ⟨rate, rates⟩ := List.forall_mem_cons.mp rates
    have before := ih rates
    have rate : sample.errorRate.toNat ≤ 10000 := rate
    simp only [errors, List.map_cons, List.sum_cons, List.length_cons] at before ⊢
    omega
  | cons_cons sample lost ih =>
    have before := ih (List.forall_mem_cons.mp rates).2
    simp only [errors, List.map_cons, List.sum_cons, List.length_cons] at before ⊢
    omega

theorem errors_le (rates : ∀ sample ∈ samples, sample.errorRate ≤ 10000) :
    errors samples ≤ 10000 * samples.length := by
  have all := errors_lost (List.nil_sublist samples) rates
  simpa [errors] using all

theorem length_subSet_lost (lost : kept.Sublist samples) :
    (subSet samples).length + kept.length ≤ (subSet kept).length + samples.length := by
  induction lost with
  | slnil => exact Nat.le_refl _
  | cons sample lost ih =>
    cases sub : sample.isSub <;> simp only [subSet, List.filter_cons, sub, List.length_cons] at ih ⊢ <;> grind
  | cons_cons sample lost ih =>
    cases sub : sample.isSub <;> simp only [subSet, List.filter_cons, sub, List.length_cons] at ih ⊢ <;> grind

theorem meanQuality_le {sum sum' blocks blocks' : Nat} (bounded : sum ≤ 10000 * blocks)
    (more : blocks ≤ blocks') (added : sum + 10000 * (blocks' - blocks) ≤ sum') :
    meanQuality sum blocks ≤ meanQuality sum' blocks' := by
  refine Radio.qualityClass_mono ?_
  by_cases zero' : blocks' = 0
  · have zero : blocks = 0 := by omega
    rw [if_pos zero, if_pos zero']
  · rw [if_neg zero', Nat.le_div_iff_mul_le (Nat.pos_of_ne_zero zero')]
    by_cases zero : blocks = 0
    · rw [if_pos zero]
      omega
    · rw [if_neg zero]
      -- no mean is above that of lost blocks, so that more of them do not lower it
      have mean : sum / blocks ≤ 10000 := Nat.div_le_of_le_mul (Nat.mul_comm .. ▸ bounded)
      calc sum / blocks * blocks'
          = sum / blocks * blocks + sum / blocks * (blocks' - blocks) := by
            rw [← Nat.mul_add, Nat.add_sub_cancel' more]
        _ ≤ sum + 10000 * (blocks' - blocks) :=
            Nat.add_le_add (Nat.div_mul_le_self ..) (Nat.mul_le_mul_right _ mean)
        _ ≤ sum' := added

end Lchan

namespace LogicalChannel

open Lchan

variable {lchan : LogicalChannel} {kept : List Sample} {frame : Nat}

theorem counted_of_room (room : lchan.measurement.samples.length ≤ lchan.expected) :
    lchan.counted = lchan.measurement.samples := by
  rw [counted, latest, Nat.sub_eq_zero_of_le room, List.drop_zero]

theorem counted_holding (fixed : (lchan.holding kept).expected = lchan.expected)
    (room : lchan.measurement.samples.length ≤ lchan.expected)
    (lost : kept.Sublist lchan.measurement.samples) : (lchan.holding kept).counted = kept :=
  counted_of_room (fixed ▸ Nat.le_trans lost.length_le room)

theorem tally_full_le (fixed : (lchan.holding kept).expected = lchan.expected)
    (room : lchan.measurement.samples.length ≤ lchan.expected)
    (rates : ∀ sample ∈ lchan.measurement.samples, sample.errorRate ≤ 10000)
    (lost : kept.Sublist lchan.measurement.samples) :
    meanQuality lchan.tally.errorFull lchan.expected ≤
      meanQuality (lchan.holding kept).tally.errorFull (lchan.holding kept).expected := by
  have fewer := lost.length_le
  have counted' := counted_holding fixed room lost
  have errors' := errors_lost lost rates
  have bounded := errors_le rates
  simp only [tally_eq, missing, counted_of_room room, counted', fixed]
  apply meanQuality_le <;> omega

theorem tally_sub_le (fixed : (lchan.holding kept).expected = lchan.expected)
    (room : lchan.measurement.samples.length ≤ lchan.expected)
    (rates : ∀ sample ∈ lchan.measurement.samples, sample.errorRate ≤ 10000)
    (lost : kept.Sublist lchan.measurement.samples) (plain : lchan.isAmr = false)
    (roomSub : (subSet lchan.measurement.samples).length ≤ lchan.expectedSub) :
    meanQuality lchan.tally.errorSub lchan.tally.sub ≤
      meanQuality (lchan.holding kept).tally.errorSub (lchan.holding kept).tally.sub := by
  have fewer := lost.length_le
  have counted' := counted_holding fixed room lost
  have plain' : (lchan.holding kept).isAmr = false := plain
  have wanted : (lchan.holding kept).expectedSub = lchan.expectedSub := rfl
  have lostSub : (subSet kept).Sublist (subSet lchan.measurement.samples) := lost.filter _
  have ratesSub : ∀ sample ∈ subSet lchan.measurement.samples, sample.errorRate ≤ 10000 :=
    fun sample mem => rates sample (List.mem_filter.mp mem).1
  have errors' := errors_lost lostSub ratesSub
  have bounded := errors_le ratesSub
  have fewerSub := lostSub.length_le
  have lostBlocks := length_subSet_lost lost
  simp only [tally_eq, promoted, missing, plain, plain', counted_of_room room, counted', fixed, wanted,
    Bool.false_eq_true, if_false]
  apply meanQuality_le <;> omega

theorem uplink_withStatistics (measurement : Measurement) (expected : Nat) :
    (withStatistics measurement expected).uplink = measurement.uplink := by
  unfold withStatistics
  split <;> rfl

/-- A period is compared with the same one of which only some samples were kept. The quality over all blocks is
no better with the others lost, and neither is that over the sub set, unless the channel is of AMR or more
samples are of the sub set than its blocks. -/
theorem compute_lost (lchan : LogicalChannel) (frame : Nat) (kept : List Sample)
    (ends : lchan.isPeriodEnd frame = true) (due : lchan.measurement.computedFrame ≠ some frame)
    (room : lchan.measurement.samples.length ≤ lchan.expected)
    (rates : ∀ sample ∈ lchan.measurement.samples, sample.errorRate ≤ 10000)
    (lost : kept.Sublist lchan.measurement.samples) :
    ∃ whole thinned, lchan.compute frame = (true, whole) ∧
      (lchan.holding kept).compute frame = (true, thinned) ∧
      whole.measurement.uplink.full.quality ≤ thinned.measurement.uplink.full.quality ∧
      (lchan.isAmr = false → (subSet lchan.measurement.samples).length ≤ lchan.expectedSub →
        whole.measurement.uplink.sub.quality ≤ thinned.measurement.uplink.sub.quality) := by
  obtain ⟨_, fixed⟩ := expected_of_ends ends
  have ends' : (lchan.holding kept).isPeriodEnd frame = true := ends
  refine ⟨_, _, compute_of_due ends due, compute_of_due ends' due, ?_, fun plain roomSub => ?_⟩
  · simp only [uplink_withStatistics]
    exact tally_full_le (fixed kept) room rates lost
  · simp only [uplink_withStatistics]
    exact tally_sub_le (fixed kept) room rates lost plain roomSub

theorem compute_lost_second :
    let lchan := (fresh ⟨0, 1, 0⟩ .sdcch8 .sdcch .signalling).holding [⟨300, 90, 7, -10, true⟩,
      ⟨0, 80, -20, 5, true⟩, ⟨0, 90, 0, 1, true⟩]
    ∃ whole thinned, lchan.compute 66 = (true, whole) ∧
      (lchan.holding (lchan.measurement.samples.eraseIdx 1)).compute 66 = (true, thinned) ∧
      whole.measurement.uplink.full.quality ≤ thinned.measurement.uplink.full.quality ∧
      whole.measurement.uplink.sub.quality ≤ thinned.measurement.uplink.sub.quality := by
  intro lchan
  obtain ⟨whole, thinned, computed, computed', full, sub⟩ := compute_lost lchan 66
    (lchan.measurement.samples.eraseIdx 1) (by decide) (by decide) (by decide) (by decide)
    (List.eraseIdx_sublist ..)
  exact ⟨whole, thinned, computed, computed', full, sub (by decide) (by decide)⟩

end LogicalChannel

end BaseStation
