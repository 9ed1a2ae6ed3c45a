import Mathlib.Algebra.Order.BigOperators.Group.List
import Mathlib.Algebra.Order.Ring.Int
import Mathlib.Data.Nat.Sqrt
import Mathlib.Tactic.Ring
import BaseStation.Proofs.Lchan.CheckedPeriod
import BaseStation.Proofs.Lchan.PeriodEnds

namespace BaseStation

namespace Lchan

variable {offsets : List Int}

theorem min?_eq_foldl (nonempty : offsets ≠ []) {start : Int} (below : ∀ offset ∈ offsets, offset ≤ start) :
    offsets.min? = some (offsets.foldl min start) := by
  cases found : offsets.min? with
  | none => exact absurd (List.min?_eq_none_iff.mp found) nonempty
  | some least =>
    have inside : least ≤ start := below least (List.min?_mem found)
    rw [List.foldl_min, found, Option.getD_some, min_eq_right inside]

theorem max?_eq_foldl (nonempty : offsets ≠ []) {start : Int} (above : ∀ offset ∈ offsets, start ≤ offset) :
    offsets.max? = some (offsets.foldl max start) := by
  cases found : offsets.max? with
  | none => exact absurd (List.max?_eq_none_iff.mp found) nonempty
  | some greatest =>
    have inside : start ≤ greatest := above greatest (List.max?_mem found)
    rw [List.foldl_max, found, Option.getD_some, max_eq_right inside]

theorem mean_between (nonempty : offsets ≠ []) {low high : Int}
    (bounds : ∀ offset ∈ offsets, low ≤ offset ∧ offset ≤ high) :
    low ≤ offsets.sum.tdiv offsets.length ∧ offsets.sum.tdiv offsets.length ≤ high := by
  have least := List.card_nsmul_le_sum offsets low fun offset mem => (bounds offset mem).1
  have greatest := List.sum_le_card_nsmul offsets high fun offset mem => (bounds offset mem).2
  rw [nsmul_eq_mul, Int.mul_comm] at least greatest
  exact tdiv_between (Int.ofNat_lt.mpr (List.length_pos_iff.mpr nonempty)) least greatest

def squaredDeviations (mean : Int) (offsets : List Int) : Nat :=
  (offsets.map fun offset => (offset - mean).natAbs ^ 2).sum

theorem foldl_squares (mean : Int) (offsets : List Int) :
    offsets.foldl (fun sum offset => sum + (offset - mean).natAbs * (offset - mean).natAbs) 0 =
      squaredDeviations mean offsets := by
  unfold squaredDeviations
  rw [List.sum_eq_foldl, List.foldl_map]
  simp only [Nat.pow_two]

theorem squaredDeviations_le {mean : Int} {distance : Nat}
    (near : ∀ offset ∈ offsets, (offset - mean).natAbs ≤ distance) :
    squaredDeviations mean offsets ≤ offsets.length * distance ^ 2 := by
  have each := List.sum_le_card_nsmul (offsets.map fun offset => (offset - mean).natAbs ^ 2)
    (distance ^ 2) ?_
  · rwa [List.length_map, nsmul_eq_mul, Nat.cast_id] at each
  · intro square mem
    rcases List.mem_map.mp mem with ⟨offset, inside, rfl⟩
    exact Nat.pow_le_pow_left (near offset inside) 2

theorem rootWithin_eq_sqrt (fuel : Nat) {n : Nat} (small : n < 4 ^ fuel) :
    rootWithin fuel n = Nat.sqrt n := by
  induction fuel generalizing n with
  | zero =>
    have empty : n = 0 := by omega
    rw [empty]
    rfl
  | succ fuel ih =>
    rw [Nat.pow_succ] at small
    have half : rootWithin fuel (n / 4) = Nat.sqrt (n / 4) := ih (by omega)
    rcases Nat.eq_sqrt.mp half with ⟨below, above⟩
    have doubled : 2 * rootWithin fuel (n / 4) * (2 * rootWithin fuel (n / 4)) =
        4 * (rootWithin fuel (n / 4) * rootWithin fuel (n / 4)) := by ring
    have next : (2 * rootWithin fuel (n / 4) + 1 + 1) * (2 * rootWithin fuel (n / 4) + 1 + 1) =
        4 * ((rootWithin fuel (n / 4) + 1) * (rootWithin fuel (n / 4) + 1)) := by ring
    unfold rootWithin
    dsimp only
    apply Nat.eq_sqrt.mpr
    by_cases odd : (2 * rootWithin fuel (n / 4) + 1) * (2 * rootWithin fuel (n / 4) + 1) ≤ n
    · rw [if_pos odd]
      exact ⟨odd, by omega⟩
    · rw [if_neg odd]
      exact ⟨by omega, by omega⟩

/-- What the statistics over some offsets have to be. -/
structure OffsetStatistics.Describes (statistics : OffsetStatistics) (offsets : List Int) : Prop where
  min : offsets.min? = some statistics.min
  max : offsets.max? = some statistics.max
  mean : statistics.mean = offsets.sum.tdiv offsets.length
  deviation : statistics.deviation =
    Nat.sqrt (squaredDeviations statistics.mean offsets / offsets.length)
  min_le_mean : statistics.min ≤ statistics.mean
  mean_le_max : statistics.mean ≤ statistics.max
  deviation_le : statistics.deviation ≤ statistics.max - statistics.min

theorem variance_le {mean : Int} {distance : Nat}
    (near : ∀ offset ∈ offsets, (offset - mean).natAbs ≤ distance) :
    squaredDeviations mean offsets / offsets.length ≤ distance ^ 2 := by
  apply Nat.div_le_of_le_mul
  exact squaredDeviations_le near

theorem deviation_statisticsOf {mean : Int}
    (small : squaredDeviations mean offsets / offsets.length ≤ UInt32.size - 1) :
    (statisticsOf mean offsets).deviation =
      Nat.sqrt (squaredDeviations mean offsets / offsets.length) := by
  show squareRoot (min (offsets.foldl _ 0 / offsets.length) (UInt32.size - 1)) = _
  rw [foldl_squares, Nat.min_eq_left small]
  apply rootWithin_eq_sqrt
  simp only [UInt32.size] at small
  omega

theorem statisticsOf_describes (nonempty : offsets ≠ [])
    (narrow : ∀ offset ∈ offsets, Signed.i16.Fits offset) :
    let statistics := statisticsOf (offsets.sum.tdiv offsets.length) offsets
    statistics.Describes offsets ∧
      squaredDeviations statistics.mean offsets / offsets.length ≤ UInt32.size - 1 := by
  intro statistics
  have below : ∀ offset ∈ offsets, offset ≤ Int16.maxValue.toInt := fun offset mem => (narrow offset mem).2
  have above : ∀ offset ∈ offsets, Int16.minValue.toInt ≤ offset := fun offset mem => (narrow offset mem).1
  have least : offsets.min? = some statistics.min := min?_eq_foldl nonempty below
  have greatest : offsets.max? = some statistics.max := max?_eq_foldl nonempty above
  have bounds : ∀ offset ∈ offsets, statistics.min ≤ offset ∧ offset ≤ statistics.max := by
    intro offset mem
    exact ⟨(List.min?_eq_some_iff.mp least).2 offset mem, (List.max?_eq_some_iff.mp greatest).2 offset mem⟩
  have between : statistics.min ≤ statistics.mean ∧ statistics.mean ≤ statistics.max :=
    mean_between nonempty bounds
  -- no offset is further from the mean than the bounds are from each other
  have near : ∀ offset ∈ offsets,
      (offset - statistics.mean).natAbs ≤ (statistics.max - statistics.min).toNat := by
    intro offset mem
    have := bounds offset mem
    omega
  have spread : (statistics.max - statistics.min).toNat ≤ 65535 := by
    have low := narrow _ (List.min?_eq_some_iff.mp least).1
    have high := narrow _ (List.max?_eq_some_iff.mp greatest).1
    simp only [Signed.Fits, Signed.max] at low high
    omega
  have variance := variance_le near
  have small : squaredDeviations statistics.mean offsets / offsets.length ≤ UInt32.size - 1 :=
    variance.trans ((Nat.pow_le_pow_left spread 2).trans (by decide))
  have deviation : statistics.deviation =
      Nat.sqrt (squaredDeviations statistics.mean offsets / offsets.length) :=
    deviation_statisticsOf small
  have root : statistics.deviation ≤ (statistics.max - statistics.min).toNat := by
    rw [deviation, ← Nat.sqrt_eq' (statistics.max - statistics.min).toNat]
    exact Nat.sqrt_le_sqrt variance
  constructor
  · exact {
      min := least
      max := greatest
      mean := rfl
      deviation := deviation
      min_le_mean := between.1
      mean_le_max := between.2
      deviation_le := by omega }
  · exact small

end Lchan

namespace LogicalChannel

open Lchan

variable {lchan : LogicalChannel} {frame : Nat}

def countedOffsets (lchan : LogicalChannel) : List Int := lchan.counted.map (·.timingOffset.toInt)

theorem offsetStatistics_eq (lchan : LogicalChannel) :
    lchan.offsetStatistics =
      statisticsOf (lchan.countedOffsets.sum.tdiv lchan.countedOffsets.length) lchan.countedOffsets := by
  unfold offsetStatistics timingOffsets countedOffsets
  rw [List.length_map]

theorem countedOffsets_fit (lchan : LogicalChannel) :
    ∀ offset ∈ lchan.countedOffsets, Signed.i16.Fits offset := by
  intro offset mem
  rcases List.mem_map.mp mem with ⟨sample, -, rfl⟩
  exact ⟨sample.timingOffset.le_toInt, Int.le_of_lt_add_one sample.timingOffset.toInt_lt⟩

/-- A period completed with samples leaves their average and the statistics over them. -/
theorem compute_of_samples (completes : (lchan.compute frame).1 = true)
    (nonempty : lchan.measurement.samples ≠ []) :
    let after := (lchan.compute frame).2.measurement
    lchan.countedOffsets ≠ [] ∧ after.statisticsValid = true ∧
      after.statistics = lchan.offsetStatistics ∧ after.timingOffset = lchan.offsetStatistics.mean := by
  rw [compute_answers] at completes
  rcases expected_of_ends completes.1 with ⟨blocks, -⟩
  have counted : lchan.counted ≠ [] := by
    rw [LogicalChannel.counted, ne_eq, latest_eq_nil blocks]
    exact nonempty
  have average := (averages_averaged blocks).timingOffset
  rw [if_neg counted] at average
  rw [compute_of_due completes.1 completes.2, withStatistics_averaged blocks nonempty]
  refine ⟨?_, rfl, rfl, average⟩
  rw [countedOffsets, ne_eq, List.map_eq_nil_iff]
  exact counted

/-- Statistics over a period are of its latest samples, as many as it has blocks, which are those that were
averaged. Least and greatest offset, mean and deviation are exact: no square is too large for its word, no
variance is cut off, and no narrower word changes a value. -/
theorem compute_describes (completes : (lchan.compute frame).1 = true)
    (nonempty : lchan.measurement.samples ≠ []) :
    let after := (lchan.compute frame).2.measurement
    lchan.counted <:+ lchan.measurement.samples ∧
    lchan.counted.length = min lchan.expected lchan.measurement.samples.length ∧
    after.statisticsValid = true ∧
    after.statistics.Describes lchan.countedOffsets ∧
    after.statistics.mean = after.timingOffset ∧
    Signed.i16.cast (lchan.countedOffsets.sum.tdiv lchan.countedOffsets.length) = .ok after.timingOffset ∧
    squaredDeviations after.timingOffset lchan.countedOffsets / lchan.countedOffsets.length
      ≤ UInt32.size - 1 ∧
    checkedStatistics after.timingOffset lchan.countedOffsets = .ok after.statistics := by
  rcases compute_of_samples completes nonempty with ⟨nonempty', valid, statistics, average⟩
  rw [offsetStatistics_eq] at statistics average
  have fits : Signed.i16.Fits (lchan.countedOffsets.sum.tdiv lchan.countedOffsets.length) :=
    mean_between nonempty' lchan.countedOffsets_fit
  have few : lchan.countedOffsets.length ≤ 104 := by
    rw [compute_answers] at completes
    have blocks := expected_le completes.1
    rw [countedOffsets, List.length_map, counted, length_latest]
    omega
  rcases statisticsOf_describes nonempty' lchan.countedOffsets_fit with ⟨describes, small⟩
  intro after
  rw [show after.statistics = _ from statistics, show after.timingOffset = _ from average]
  exact ⟨latest_suffix .., length_latest .., valid, describes, rfl, Signed.cast_ok fits, small,
    checkedStatistics_ok nonempty' few fits lchan.countedOffsets_fit⟩

theorem compute_describes_extreme :
    let sample (offset : Int16) : Sample := ⟨0, 80, 0, offset, true⟩
    let lchan := (fresh ⟨0, 1, 0⟩ .sdcch8 .sdcch .signalling).holding
      [sample 5, sample 32767, sample (-32768), sample (-32768)]
    let after := (lchan.compute 66).2.measurement
    (lchan.compute 66).1 = true ∧ lchan.measurement.samples ≠ [] ∧
      after.statistics.Describes [32767, -32768, -32768] ∧
      after.statistics.mean = -10923 ∧ after.statistics.deviation ≤ 65535 := by
  intro sample lchan after
  have completes : (lchan.compute 66).1 = true := (lchan.compute_answers 66).mpr ⟨by decide, by decide⟩
  have nonempty : lchan.measurement.samples ≠ [] := by rintro ⟨⟩
  rcases compute_describes completes nonempty with ⟨-, -, -, describes, -, -, -, -⟩
  have describes : after.statistics.Describes [32767, -32768, -32768] := describes
  have mean : after.statistics.mean = -10923 := describes.mean.trans (by decide)
  have min := Option.some.inj (describes.min.symm.trans (show _ = some (-32768) by decide))
  have max := Option.some.inj (describes.max.symm.trans (show _ = some 32767 by decide))
  have deviation := describes.deviation_le
  exact ⟨completes, nonempty, describes, mean, by omega⟩

end LogicalChannel

end BaseStation
