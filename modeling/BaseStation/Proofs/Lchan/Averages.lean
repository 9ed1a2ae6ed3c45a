import BaseStation.Proofs.Lchan.Tally

namespace BaseStation.LogicalChannel

open Lchan

/-- The averages that are due at the end of the channel's period. -/
structure Averages (lchan : LogicalChannel) (after : Measurement) : Prop where
  fullQuality : after.uplink.full.quality =
    Radio.qualityClass ((errors lchan.counted + 10000 * lchan.missing) / lchan.expected)
  subQuality : after.uplink.sub.quality =
    let blocks := (subSet lchan.counted).length + lchan.promoted
    Radio.qualityClass (if blocks = 0 then 10000
      else (errors (subSet lchan.counted) + 10000 * lchan.promoted) / blocks)
  fullLevel : after.uplink.full.level = Radio.levelOfDbm (-(if lchan.counted = [] then 109
    else attenuations lchan.counted / lchan.counted.length : Nat))
  subLevel : after.uplink.sub.level = Radio.levelOfDbm (-(if subSet lchan.counted = [] then 109
    else attenuations (subSet lchan.counted) / (subSet lchan.counted).length : Nat))
  timingOffset : after.timingOffset = if lchan.counted = [] then lchan.measurement.timingOffset
    else (timingOffsets lchan.counted).tdiv lchan.counted.length
  interferenceFull : after.interferenceFull =
    if lchan.counted = [] then lchan.measurement.interferenceFull
    else (interferences lchan.counted).tdiv lchan.counted.length
  interferenceSub : after.interferenceSub =
    if subSet lchan.counted = [] then lchan.measurement.interferenceSub
    else (interferences (subSet lchan.counted)).tdiv (subSet lchan.counted).length

def holding (lchan : LogicalChannel) (samples : List Sample) : LogicalChannel :=
  { lchan with measurement := { lchan.measurement with samples := samples } }

variable {lchan : LogicalChannel} {frame : Nat}

/-- A channel that reports has a fixed number of blocks in a period. -/
theorem expected_of_ends (ends : lchan.isPeriodEnd frame = true) :
    0 < lchan.expected ∧ ∀ samples, (lchan.holding samples).expected = lchan.expected := by
  cases pchan : lchan.pchan with
  | none | ccch | pdch =>
    rw [isPeriodEnd, pchan] at ends
    cases ends
  | tchH =>
    simp only [expected, holding, pchan, implies_true, and_true]
    split <;> decide
  | tchF | sdcch8 | sdcch8Cbch | ccchSdcch4 | ccchSdcch4Cbch =>
    simp [expected, holding, pchan]

theorem latest_counted {older : List Sample}
    (full : older = [] ∨ lchan.counted.length = lchan.expected) :
    latest lchan.expected (older ++ lchan.counted) = lchan.counted := by
  have enough : older = [] ∨ lchan.expected ≤ lchan.counted.length :=
    full.imp_right fun full => Nat.le_of_eq full.symm
  exact (latest_append older enough).trans (latest_latest _ _)

theorem compute_of_due (ends : lchan.isPeriodEnd frame = true)
    (due : lchan.measurement.computedFrame ≠ some frame) :
    lchan.compute frame = (true, { lchan with measurement :=
      { withStatistics (averaged lchan.measurement lchan.expected lchan.tally) lchan.expected with
        samples := [], computedFrame := some frame } }) := by
  unfold compute
  rw [if_pos ⟨ends, due⟩]

theorem meanOr_length (before sum : Int) (samples : List Sample) :
    meanOr before sum samples.length = if samples = [] then before else sum.tdiv samples.length := by
  simp only [meanOr, List.length_eq_zero_iff]

theorem meanLevel_length (sum : Nat) (samples : List Sample) :
    meanLevel sum samples.length =
      Radio.levelOfDbm (-(if samples = [] then 109 else sum / samples.length : Nat)) := by
  simp only [meanLevel, noAttenuation, List.length_eq_zero_iff]

theorem averages_averaged (expects : 0 < lchan.expected) :
    Averages lchan (averaged lchan.measurement lchan.expected lchan.tally) where
  fullQuality := by
    rw [tally_eq]
    show meanQuality _ lchan.expected = _
    rw [meanQuality, if_neg (Nat.ne_of_gt expects)]
  subQuality := by
    rw [tally_eq]
    rfl
  fullLevel := by
    rw [tally_eq]
    exact meanLevel_length ..
  subLevel := by
    rw [tally_eq]
    exact meanLevel_length ..
  timingOffset := by
    rw [tally_eq]
    exact meanOr_length ..
  interferenceFull := by
    rw [tally_eq]
    exact meanOr_length ..
  interferenceSub := by
    rw [tally_eq]
    exact meanOr_length ..

theorem Averages.next {measurement : Measurement} (averages : Averages lchan measurement)
    (expected : Nat) (computed : Option Nat) :
    Averages lchan { withStatistics measurement expected with
      samples := [], computedFrame := computed } := by
  unfold withStatistics
  split
  · exact ⟨averages.1, averages.2, averages.3, averages.4, averages.5, averages.6, averages.7⟩
  · exact ⟨averages.1, averages.2, averages.3, averages.4, averages.5, averages.6, averages.7⟩

/-- What was stored before the samples that count makes no difference. -/
theorem compute_holding (ends : lchan.isPeriodEnd frame = true)
    (due : lchan.measurement.computedFrame ≠ some frame) {older : List Sample}
    (full : older = [] ∨ lchan.counted.length = lchan.expected) :
    (lchan.holding (older ++ lchan.counted)).compute frame = lchan.compute frame := by
  obtain ⟨expects, fixed⟩ := expected_of_ends ends
  have still : latest lchan.expected (older ++ lchan.counted) =
      latest lchan.expected lchan.measurement.samples := latest_counted full
  have counted : (lchan.holding (older ++ lchan.counted)).counted = lchan.counted := by
    rw [LogicalChannel.counted, fixed]
    exact still
  have nothing : older ++ lchan.counted = [] ↔ lchan.measurement.samples = [] := by
    rw [← latest_eq_nil expects, still, latest_eq_nil expects]
  have sums : (lchan.holding (older ++ lchan.counted)).tally = lchan.tally := by
    rw [tally_eq, tally_eq]
    simp only [missing, promoted, counted, fixed]
    rfl
  -- the statistics are of the samples that the sums are of
  have only : max lchan.expected 1 = lchan.expected := by omega
  have ends' : (lchan.holding (older ++ lchan.counted)).isPeriodEnd frame = true := ends
  rw [compute_of_due ends due, compute_of_due ends' due, sums, fixed]
  unfold withStatistics averaged holding
  simp only [nothing, only, still]
  split <;> rfl

/-- A period that ends and was not completed before comes to the averages of its latest samples, as many
as it has blocks. Those before have no influence, and none is left for the next period. -/
theorem compute_averages (lchan : LogicalChannel) (frame : Nat)
    (ends : lchan.isPeriodEnd frame = true) (due : lchan.measurement.computedFrame ≠ some frame) :
    lchan.counted <:+ lchan.measurement.samples ∧
    lchan.counted.length = min lchan.expected lchan.measurement.samples.length ∧
    0 < lchan.expected ∧
    (∃ after, lchan.compute frame = (true, { lchan with measurement := after }) ∧
      Averages lchan after ∧ after.resultValid = true ∧ after.samples = [] ∧
      after.computedFrame = some frame) ∧
    ∀ older, older = [] ∨ lchan.counted.length = lchan.expected →
      (lchan.holding (older ++ lchan.counted)).compute frame = lchan.compute frame := by
  obtain ⟨expects, _⟩ := expected_of_ends ends
  refine ⟨latest_suffix .., length_latest .., expects, ⟨_, compute_of_due ends due, ?_, ?_, rfl, rfl⟩, ?_⟩
  · exact (averages_averaged expects).next _ _
  · unfold withStatistics
    split <;> rfl
  · exact fun older => compute_holding ends due

theorem compute_averages_excess :
    let lchan := (fresh ⟨0, 1, 0⟩ .sdcch8 .sdcch .signalling).holding [.lost, ⟨0, 80, -20, 5, true⟩,
      ⟨30, 90, 7, -10, false⟩, ⟨0, 90, 0, 1, true⟩]
    lchan.isPeriodEnd 66 = true ∧ ∃ after, lchan.compute 66 = (true, { lchan with measurement := after }) ∧
      after.uplink.full = ⟨24, 0⟩ ∧ after.uplink.sub = ⟨25, 0⟩ ∧ after.timingOffset = -1 ∧
      after.samples = [] := by
  intro lchan
  have ends : lchan.isPeriodEnd 66 = true := by decide
  obtain ⟨_, _, _, ⟨after, computed, averages, _, empty, _⟩, _⟩ :=
    compute_averages lchan 66 ends (by decide)
  refine ⟨ends, after, computed, ?_, ?_, averages.timingOffset.trans (by decide), empty⟩
  · have level : after.uplink.full.level = 24 := averages.fullLevel.trans (by decide)
    have quality : after.uplink.full.quality = 0 := averages.fullQuality.trans (by decide)
    rw [← level, ← quality]
  · have level : after.uplink.sub.level = 25 := averages.subLevel.trans (by decide)
    have quality : after.uplink.sub.quality = 0 := averages.subQuality.trans (by decide)
    rw [← level, ← quality]

end BaseStation.LogicalChannel
