import BaseStation.Proofs.Lchan.History
import BaseStation.Proofs.Lchan.Words

namespace BaseStation

open Unsigned (u8 u16 u32 u64 size)
open Signed (i16 i32)

namespace Radio

def checkedLevelOfDbm (dbm : Int) : Checked Nat := do
  let above ← i32.add dbm 110
  let step ← Checked.clamp 0 63 above
  u8.cast step

theorem checkedLevelOfDbm_ok {dbm : Int} (least : -255 ≤ dbm) (greatest : dbm ≤ 0) :
    checkedLevelOfDbm dbm = .ok (levelOfDbm dbm) := by
  unfold checkedLevelOfDbm
  rw [Signed.add_ok (by simp only [Signed.Fits, Signed.max]; omega), ok_bind,
    Checked.clamp_ok _ (by decide), ok_bind,
    Unsigned.cast_ok (by omega) (by simp only [Unsigned.max]; omega)]
  rfl

end Radio

namespace Lchan

namespace Tally

def natAddIf (word : Unsigned) (isSub : Bool) (sum amount : Nat) : Checked Nat :=
  if isSub then word.add sum amount else .ok sum

def intAddIf (word : Signed) (isSub : Bool) (sum amount : Int) : Checked Int :=
  if isSub then word.add sum amount else .ok sum

def checkedSample (tally : Tally) (sample : Sample) : Checked Tally := do
  let attenuationSub ← natAddIf u32 sample.isSub tally.attenuationSub sample.attenuation.toNat
  let interferenceSub ← intAddIf i32 sample.isSub tally.interferenceSub sample.interference.toInt
  let receivedSub ← natAddIf size sample.isSub tally.receivedSub 1
  let attenuationFull ← u32.add tally.attenuationFull sample.attenuation.toNat
  let timingOffset ← i32.add tally.timingOffset sample.timingOffset.toInt
  let interferenceFull ← i32.add tally.interferenceFull sample.interference.toInt
  let received ← size.add tally.received 1
  let errorFull ← u32.add tally.errorFull sample.errorRate.toNat
  let sub ← natAddIf size sample.isSub tally.sub 1
  let errorSub ← natAddIf u32 sample.isSub tally.errorSub sample.errorRate.toNat
  return ⟨errorFull, errorSub, attenuationFull, attenuationSub, interferenceFull, interferenceSub,
    timingOffset, received, receivedSub, sub⟩

def checkedLost (wanted : Nat) (tally : Tally) : Checked Tally := do
  let isSub : Bool := tally.sub < wanted
  let errorFull ← u32.add tally.errorFull Sample.lost.errorRate.toNat
  let sub ← natAddIf size isSub tally.sub 1
  let errorSub ← natAddIf u32 isSub tally.errorSub Sample.lost.errorRate.toNat
  return { tally with errorFull := errorFull, errorSub := errorSub, sub := sub }

structure Within (blocks : Nat) (tally : Tally) : Prop where
  received : tally.received ≤ blocks
  receivedSub : tally.receivedSub ≤ blocks
  sub : tally.sub ≤ blocks
  errorFull : tally.errorFull ≤ 65535 * blocks
  errorSub : tally.errorSub ≤ 65535 * tally.sub
  attenuationFull : tally.attenuationFull ≤ 255 * tally.received
  attenuationSub : tally.attenuationSub ≤ 255 * tally.receivedSub
  interferenceFull : -32768 * tally.received ≤ tally.interferenceFull
    ∧ tally.interferenceFull ≤ 32767 * tally.received
  interferenceSub : -32768 * tally.receivedSub ≤ tally.interferenceSub
    ∧ tally.interferenceSub ≤ 32767 * tally.receivedSub
  timingOffset : -32768 * tally.received ≤ tally.timingOffset
    ∧ tally.timingOffset ≤ 32767 * tally.received

variable {tally : Tally} {blocks : Nat}

theorem within_zero : Within 0 zero := by
  constructor <;> decide

theorem natAddIf_ok {word : Unsigned} {isSub : Bool} {sum amount : Nat}
    (fits : sum + amount ≤ word.max) :
    natAddIf word isSub sum amount = .ok (sum + ifSub isSub amount) := by
  cases isSub
  · rfl
  · exact Unsigned.add_ok fits

theorem intAddIf_ok {word : Signed} {isSub : Bool} {sum amount : Int}
    (fits : word.Fits (sum + amount)) :
    intAddIf word isSub sum amount = .ok (sum + ifSub isSub amount) := by
  cases isSub
  · exact congrArg Except.ok (Int.add_zero sum).symm
  · exact Signed.add_ok fits

theorem within_addSample (within : tally.Within blocks) (sample : Sample) :
    (tally.addSample sample).Within (blocks + 1) := by
  obtain ⟨received, receivedSub, sub, errorFull, errorSub, attenuationFull, attenuationSub,
    interferenceFull, interferenceSub, timingOffset⟩ := within
  have rate := sample.errorRate.toNat_lt
  have attenuation := sample.attenuation.toNat_lt
  have interference := sample.interference.toInt_lt
  have interference' := sample.interference.le_toInt
  have offset := sample.timingOffset.toInt_lt
  have offset' := sample.timingOffset.le_toInt
  cases isSub : sample.isSub <;> constructor <;>
    simp only [addSample, isSub, ifSub_true, ifSub_false] <;> omega

theorem checkedSample_ok (within : tally.Within blocks) (few : blocks < 104) (sample : Sample) :
    tally.checkedSample sample = .ok (tally.addSample sample) := by
  obtain ⟨received, receivedSub, sub, errorFull, errorSub, attenuationFull, attenuationSub,
    interferenceFull, interferenceSub, timingOffset⟩ := within
  have rate := sample.errorRate.toNat_lt
  have attenuation := sample.attenuation.toNat_lt
  have interference := sample.interference.toInt_lt
  have interference' := sample.interference.le_toInt
  have offset := sample.timingOffset.toInt_lt
  have offset' := sample.timingOffset.le_toInt
  unfold checkedSample
  simp (disch := first | omega | (simp only [Unsigned.max, Signed.Fits, Signed.max]; omega)) only
    [natAddIf_ok, intAddIf_ok, Unsigned.add_ok, Signed.add_ok, ok_bind]
  rfl

theorem within_addLost (within : tally.Within blocks) (wanted : Nat) :
    (tally.addLost wanted).Within (blocks + 1) := by
  obtain ⟨received, receivedSub, sub, errorFull, errorSub, attenuationFull, attenuationSub,
    interferenceFull, interferenceSub, timingOffset⟩ := within
  have rate : Sample.lost.errorRate.toNat = 10000 := rfl
  by_cases room : tally.sub < wanted <;> constructor <;>
    simp only [addLost, rate, room, decide_true, decide_false, ifSub_true, ifSub_false] <;> omega

theorem checkedLost_ok (within : tally.Within blocks) (few : blocks < 104) (wanted : Nat) :
    tally.checkedLost wanted = .ok (tally.addLost wanted) := by
  obtain ⟨-, -, sub, errorFull, errorSub, -, -, -, -, -⟩ := within
  have rate : Sample.lost.errorRate.toNat = 10000 := rfl
  unfold checkedLost
  simp (disch := (simp only [Unsigned.max]; omega)) only
    [rate, natAddIf_ok, Unsigned.add_ok, ok_bind]
  rfl

theorem foldlM_checkedSample {samples : List Sample} (few : samples.length ≤ 104) :
    samples.foldlM checkedSample zero = .ok (ofSamples samples)
      ∧ (ofSamples samples).Within samples.length := by
  have folded := Checked.foldlM_ok checkedSample addSample Within
    (fun _ _ few within sample _ =>
      ⟨checkedSample_ok within few sample, within_addSample within sample⟩)
    within_zero (show 0 + samples.length ≤ 104 by omega)
  rwa [Nat.zero_add] at folded

theorem foldlM_checkedLost (within : tally.Within blocks) {lost : Nat} (few : blocks + lost ≤ 104)
    (wanted : Nat) :
    (List.replicate lost ()).foldlM (fun tally _ => tally.checkedLost wanted) tally
        = .ok ((List.replicate lost ()).foldl (fun tally _ => tally.addLost wanted) tally)
      ∧ ((List.replicate lost ()).foldl (fun tally _ => tally.addLost wanted) tally).Within
        (blocks + lost) := by
  have length : (List.replicate lost ()).length = lost := List.length_replicate
  have folded := Checked.foldlM_ok (fun tally _ => tally.checkedLost wanted)
    (fun tally _ => tally.addLost wanted) Within
    (fun _ _ few within _ _ => ⟨checkedLost_ok within few wanted, within_addLost within wanted⟩)
    within (show blocks + (List.replicate lost ()).length ≤ 104 by omega)
  rwa [length] at folded

end Tally

def checkedMeanLevel (sum count : Nat) : Checked Nat := do
  let attenuation ← if count = 0 then .ok noAttenuation else do u32.div sum (← u32.cast count)
  let level ← i32.cast attenuation
  Radio.checkedLevelOfDbm (← i32.neg level)

def checkedMeanQuality (sum count : Nat) : Checked Nat := do
  let rate ← if count = 0 then .ok 10000 else do u32.div sum (← u32.cast count)
  return Radio.qualityClass rate

def checkedMeanOr (before sum : Int) (count : Nat) : Checked Int := do
  let mean ← if count = 0 then .ok before else do i32.div sum (← i32.cast count)
  i16.cast mean

theorem checkedMeanLevel_ok {sum count : Nat} (few : count ≤ 104) (small : sum ≤ 255 * count) :
    checkedMeanLevel sum count = .ok (meanLevel sum count) := by
  have signed {attenuation : Nat} (small : attenuation ≤ 255) :
      (do Radio.checkedLevelOfDbm (← i32.neg (← i32.cast attenuation)))
        = Except.ok (Radio.levelOfDbm (-(attenuation : Nat))) := by
    rw [Signed.cast_ok (by simp only [Signed.Fits, Signed.max]; omega), ok_bind,
      Signed.neg_ok (by simp only [Signed.Fits, Signed.max]; omega), ok_bind]
    exact Radio.checkedLevelOfDbm_ok (by omega) (by omega)
  unfold checkedMeanLevel meanLevel
  by_cases empty : count = 0
  · rw [if_pos empty, if_pos empty, ok_bind]
    exact signed (by decide)
  · have mean : sum / count ≤ 255 := Nat.div_le_of_le_mul (by rwa [Nat.mul_comm])
    rw [if_neg empty, if_neg empty,
      Unsigned.cast_ok (by omega) (by simp only [Unsigned.max]; omega), ok_bind,
      Int.toNat_natCast, Unsigned.div_ok (by omega) (by simp only [Unsigned.max]; omega),
      ok_bind]
    exact signed mean

theorem checkedMeanQuality_ok {sum count : Nat} (few : count ≤ 104) (small : sum ≤ 65535 * 104) :
    checkedMeanQuality sum count = .ok (meanQuality sum count) := by
  unfold checkedMeanQuality meanQuality
  by_cases empty : count = 0
  · rw [if_pos empty, if_pos empty]
    rfl
  · rw [if_neg empty, if_neg empty,
      Unsigned.cast_ok (by omega) (by simp only [Unsigned.max]; omega), ok_bind,
      Int.toNat_natCast, Unsigned.div_ok (by omega) (by simp only [Unsigned.max]; omega)]
    rfl

theorem meanOr_fits {before sum : Int} {count : Nat} (kept : i16.Fits before)
    (small : -32768 * count ≤ sum ∧ sum ≤ 32767 * count) : i16.Fits (meanOr before sum count) := by
  unfold meanOr
  by_cases empty : count = 0
  · rwa [if_pos empty]
  · rw [if_neg empty]
    exact tdiv_between (by omega) small.1 small.2

theorem checkedMeanOr_ok {before sum : Int} {count : Nat} (kept : i16.Fits before)
    (few : count ≤ 104) (small : -32768 * count ≤ sum ∧ sum ≤ 32767 * count) :
    checkedMeanOr before sum count = .ok (meanOr before sum count) := by
  have fits := meanOr_fits kept small
  unfold checkedMeanOr
  unfold meanOr at fits ⊢
  by_cases empty : count = 0
  · rw [if_pos empty] at fits ⊢
    rw [if_pos empty, ok_bind]
    exact Signed.cast_ok fits
  · rw [if_neg empty] at fits ⊢
    have wide : i32.Fits (sum.tdiv count) := by
      simp only [Signed.Fits, Signed.max] at fits ⊢
      omega
    rw [if_neg empty, Signed.cast_ok (by simp only [Signed.Fits, Signed.max]; omega),
      ok_bind, Signed.div_ok (by omega) wide, ok_bind]
    exact Signed.cast_ok fits

def checkedSquare (mean : Int) (sum : Nat) (offset : Int) : Checked Nat := do
  let difference ← i32.sub offset mean
  let distance ← u32.cast difference.natAbs
  let square ← u32.mul distance distance
  u64.add sum square

def checkedStatistics (mean : Int) (offsets : List Int) : Checked OffsetStatistics := do
  let squares ← offsets.foldlM (checkedSquare mean) 0
  let variance ← u64.div squares offsets.length
  let deviation ← u16.cast (squareRoot (min variance (UInt32.size - 1)))
  return {
    min := offsets.foldl min Int16.maxValue.toInt
    max := offsets.foldl max Int16.minValue.toInt
    mean := mean
    deviation := deviation }

theorem checkedSquare_ok {mean offset : Int} {sum count : Nat} (few : count < 104)
    (narrow : i16.Fits mean) (narrow' : i16.Fits offset) (small : sum ≤ 4294836225 * count) :
    checkedSquare mean sum offset
        = .ok (sum + (offset - mean).natAbs * (offset - mean).natAbs)
      ∧ sum + (offset - mean).natAbs * (offset - mean).natAbs ≤ 4294836225 * (count + 1) := by
  simp only [Signed.Fits, Signed.max] at narrow narrow'
  -- the square of the greatest distance is the greatest that still fits its word
  have distance : (offset - mean).natAbs ≤ 65535 := by omega
  have square : (offset - mean).natAbs * (offset - mean).natAbs ≤ 65535 * 65535 :=
    Nat.mul_le_mul distance distance
  refine ⟨?_, by omega⟩
  unfold checkedSquare
  rw [Signed.sub_ok (by simp only [Signed.Fits, Signed.max]; omega), ok_bind,
    Unsigned.cast_ok (by omega) (by simp only [Unsigned.max]; omega), ok_bind,
    Int.toNat_natCast, Unsigned.mul_ok (by simp only [Unsigned.max]; omega), ok_bind,
    Unsigned.add_ok (by simp only [Unsigned.max]; omega)]

theorem rootWithin_lt (fuel n : Nat) : rootWithin fuel n < 2 ^ fuel := by
  induction fuel generalizing n with
  | zero => exact Nat.one_pos
  | succ fuel ih =>
    have half := ih (n / 4)
    unfold rootWithin
    rw [Nat.pow_succ]
    dsimp only
    split <;> omega

theorem squareRoot_le (n : Nat) : squareRoot n ≤ 65535 :=
  Nat.le_of_lt_succ (rootWithin_lt 16 n)

theorem checkedStatistics_ok {mean : Int} {offsets : List Int} (nonempty : offsets ≠ [])
    (few : offsets.length ≤ 104) (narrow : i16.Fits mean)
    (narrow' : ∀ offset ∈ offsets, i16.Fits offset) :
    checkedStatistics mean offsets = .ok (statisticsOf mean offsets) := by
  have length := List.length_pos_iff.mpr nonempty
  obtain ⟨squares, bound⟩ := Checked.foldlM_ok (checkedSquare mean)
    (fun sum offset => sum + (offset - mean).natAbs * (offset - mean).natAbs)
    (fun count sum => sum ≤ 4294836225 * count)
    (fun _ _ few within offset mem => checkedSquare_ok few narrow (narrow' offset mem) within)
    (show 0 ≤ 4294836225 * 0 by omega) (show 0 + offsets.length ≤ 104 by omega)
  unfold checkedStatistics
  rw [squares, ok_bind, Unsigned.div_ok length (by simp only [Unsigned.max]; omega),
    ok_bind, Unsigned.cast_ok (by omega) (Int.ofNat_le.mpr (squareRoot_le _)),
    ok_bind, Int.toNat_natCast]
  rfl

theorem checkedSampleStatistics_ok {mean : Int} (narrow : i16.Fits mean) {samples : List Sample}
    (nonempty : samples ≠ []) (few : samples.length ≤ 104) :
    checkedStatistics mean (samples.map (·.timingOffset.toInt))
      = .ok (statisticsOf mean (samples.map (·.timingOffset.toInt))) := by
  have nonempty' : samples.map (·.timingOffset.toInt) ≠ [] := by
    rw [ne_eq, List.map_eq_nil_iff]
    exact nonempty
  refine checkedStatistics_ok nonempty' (by rwa [List.length_map]) narrow fun offset mem => ?_
  obtain ⟨sample, -, rfl⟩ := List.mem_map.mp mem
  exact ⟨sample.timingOffset.le_toInt, Int.le_of_lt_add_one sample.timingOffset.toInt_lt⟩

end Lchan

namespace LogicalChannel

open Lchan

def checkedTally (lchan : LogicalChannel) : Checked Tally := do
  let samples := lchan.measurement.samples
  let counted ← Checked.dropTo (samples.length - lchan.expected) samples
  let wanted := if lchan.isAmr then 0 else lchan.expectedSub
  let sums ← counted.foldlM Tally.checkedSample .zero
  (List.replicate (lchan.expected - counted.length) ()).foldlM
    (fun tally _ => tally.checkedLost wanted) sums

def checkedAverages (measurement : Measurement) (expected : Nat) (tally : Tally) :
    Checked Measurement := do
  let qualityFull ← checkedMeanQuality tally.errorFull expected
  let qualitySub ← checkedMeanQuality tally.errorSub tally.sub
  let levelFull ← checkedMeanLevel tally.attenuationFull tally.received
  let levelSub ← checkedMeanLevel tally.attenuationSub tally.receivedSub
  let timingOffset ← checkedMeanOr measurement.timingOffset tally.timingOffset tally.received
  let interferenceFull ←
    checkedMeanOr measurement.interferenceFull tally.interferenceFull tally.received
  let interferenceSub ←
    checkedMeanOr measurement.interferenceSub tally.interferenceSub tally.receivedSub
  return { measurement with
    uplink := ⟨⟨levelFull, qualityFull⟩, ⟨levelSub, qualitySub⟩⟩
    timingOffset := timingOffset
    interferenceFull := interferenceFull
    interferenceSub := interferenceSub
    resultValid := true }

def checkedWithStatistics (measurement : Measurement) (expected : Nat) : Checked Measurement := do
  let samples := measurement.samples
  if samples.length = 0 then
    return measurement
  let first ← size.sub samples.length (max (min samples.length expected) 1)
  let counted ← Checked.dropTo first samples
  let statistics ←
    checkedStatistics measurement.timingOffset (counted.map (·.timingOffset.toInt))
  return { measurement with statistics := statistics, statisticsValid := true }

def checkedCompute (lchan : LogicalChannel) (frame : Nat) : Checked (Bool × LogicalChannel) := do
  if lchan.isPeriodEnd frame ∧ lchan.measurement.computedFrame ≠ some frame then
    let averages ← checkedAverages lchan.measurement lchan.expected (← lchan.checkedTally)
    let measurement ← checkedWithStatistics averages lchan.expected
    return (true, { lchan with measurement := { measurement with
      samples := [], computedFrame := some frame } })
  return (false, lchan)

def checkedRecord (lchan : LogicalChannel) (sample : Sample) (frame : Nat) :
    Checked LogicalChannel := do
  let _ ← u32.rem frame lchan.period
  return lchan.recorded sample frame

def checkedProcess (lchan : LogicalChannel) (sample : Sample) (frame : Nat) :
    Checked (Bool × LogicalChannel) := do
  (← lchan.checkedRecord sample frame).checkedCompute frame

structure Narrow (measurement : Measurement) : Prop where
  samples : measurement.samples.length ≤ capacity
  timingOffset : i16.Fits measurement.timingOffset
  interferenceFull : i16.Fits measurement.interferenceFull
  interferenceSub : i16.Fits measurement.interferenceSub

variable {lchan : LogicalChannel} {frame : Nat}

theorem narrow_fresh : Narrow .fresh := by
  constructor <;> decide

theorem expected_le (ends : lchan.isPeriodEnd frame = true) : lchan.expected ≤ 104 := by
  unfold expected
  cases pchan : lchan.pchan with
  | none | ccch | pdch =>
    rw [isPeriodEnd, pchan] at ends
    cases ends
  | tchH =>
    dsimp only
    split <;> omega
  | tchF | sdcch8 | sdcch8Cbch | ccchSdcch4 | ccchSdcch4Cbch =>
    dsimp only
    omega

theorem checkedTally_ok (blocks : lchan.expected ≤ 104) :
    lchan.checkedTally = .ok lchan.tally ∧ lchan.tally.Within lchan.expected := by
  have length : lchan.counted.length ≤ lchan.expected := by
    rw [counted, length_latest]
    exact Nat.min_le_left ..
  have slice : Checked.dropTo (lchan.measurement.samples.length - lchan.expected)
      lchan.measurement.samples = .ok lchan.counted := Checked.dropTo_ok (Nat.sub_le ..)
  obtain ⟨summed, within⟩ := Tally.foldlM_checkedSample (Nat.le_trans length blocks)
  obtain ⟨filled, within⟩ := Tally.foldlM_checkedLost within
    (show lchan.counted.length + (lchan.expected - lchan.counted.length) ≤ 104 by omega)
    (if lchan.isAmr then 0 else lchan.expectedSub)
  rw [Nat.add_sub_cancel' length] at within
  refine ⟨?_, within⟩
  unfold checkedTally
  dsimp only
  rw [slice, ok_bind, summed, ok_bind, filled]
  rfl

theorem checkedAverages_ok {measurement : Measurement} (narrow : Narrow measurement) {blocks : Nat}
    (few : blocks ≤ 104) {tally : Tally} (within : tally.Within blocks) :
    checkedAverages measurement blocks tally = .ok (averaged measurement blocks tally)
      ∧ Narrow (averaged measurement blocks tally) := by
  obtain ⟨received, receivedSub, sub, errorFull, errorSub, attenuationFull, attenuationSub,
    interferenceFull, interferenceSub, timingOffset⟩ := within
  refine ⟨?_, narrow.samples, meanOr_fits narrow.timingOffset timingOffset,
    meanOr_fits narrow.interferenceFull interferenceFull,
    meanOr_fits narrow.interferenceSub interferenceSub⟩
  unfold checkedAverages
  rw [checkedMeanQuality_ok few (by omega), ok_bind,
    checkedMeanQuality_ok (by omega) (by omega), ok_bind,
    checkedMeanLevel_ok (by omega) attenuationFull, ok_bind,
    checkedMeanLevel_ok (by omega) attenuationSub, ok_bind,
    checkedMeanOr_ok narrow.timingOffset (by omega) timingOffset, ok_bind,
    checkedMeanOr_ok narrow.interferenceFull (by omega) interferenceFull, ok_bind,
    checkedMeanOr_ok narrow.interferenceSub (by omega) interferenceSub, ok_bind]
  rfl

theorem checkedWithStatistics_ok {measurement : Measurement} (narrow : Narrow measurement)
    (blocks : Nat) :
    checkedWithStatistics measurement blocks = .ok (withStatistics measurement blocks) := by
  have room : measurement.samples.length ≤ 104 := narrow.samples
  unfold checkedWithStatistics withStatistics
  dsimp only
  by_cases nothing : measurement.samples = []
  · rw [if_pos nothing, if_pos (List.length_eq_zero_iff.mpr nothing)]
    rfl
  · have length := List.length_pos_iff.mpr nothing
    have position : measurement.samples.length - max (min measurement.samples.length blocks) 1
        = measurement.samples.length - max blocks 1 := by omega
    have counted := length_latest (max blocks 1) measurement.samples
    have statistics := checkedSampleStatistics_ok narrow.timingOffset
      (show latest (max blocks 1) measurement.samples ≠ [] by
        rw [ne_eq, latest_eq_nil (by omega)]
        exact nothing) (by omega)
    rw [if_neg nothing, if_neg (by omega), Unsigned.sub_ok (by omega)
        (by simp only [Unsigned.max]; omega), position, ok_bind,
      Checked.dropTo_ok (Nat.sub_le ..), ok_bind]
    exact congrArg (· >>= _) statistics

theorem Narrow.next {measurement : Measurement} (narrow : Narrow measurement) (blocks : Nat)
    (computed : Option Nat) :
    Narrow { withStatistics measurement blocks with samples := [], computedFrame := computed } := by
  unfold withStatistics
  split
  · exact { narrow with samples := Nat.zero_le _ }
  · exact { narrow with samples := Nat.zero_le _ }

theorem checkedCompute_ok (narrow : Narrow lchan.measurement) (frame : Nat) :
    lchan.checkedCompute frame = .ok (lchan.compute frame)
      ∧ Narrow (lchan.compute frame).2.measurement := by
  unfold checkedCompute compute
  by_cases due : lchan.isPeriodEnd frame = true ∧ lchan.measurement.computedFrame ≠ some frame
  · have blocks := expected_le due.1
    obtain ⟨summed, within⟩ := checkedTally_ok blocks
    obtain ⟨averages, kept⟩ := checkedAverages_ok narrow blocks within
    rw [if_pos due, if_pos due, summed, ok_bind, averages, ok_bind,
      checkedWithStatistics_ok kept, ok_bind]
    exact ⟨rfl, kept.next ..⟩
  · rw [if_neg due, if_neg due]
    exact ⟨rfl, narrow⟩

theorem narrow_recorded (narrow : Narrow lchan.measurement) (sample : Sample) (frame : Nat) :
    Narrow (lchan.recorded sample frame).measurement := by
  unfold recorded record
  by_cases full : lchan.measurement.samples.length ≥ capacity
  · rw [if_pos full]
    exact narrow
  · rw [if_neg full]
    refine { narrow with samples := ?_ }
    rw [List.length_append]
    exact Nat.lt_of_not_le full

theorem checkedRecord_ok (lchan : LogicalChannel) (sample : Sample) (word : frame ≤ u32.max) :
    lchan.checkedRecord sample frame = .ok (lchan.recorded sample frame) := by
  have period : 0 < lchan.period := by
    unfold period
    cases lchan.pchan <;> decide
  unfold checkedRecord
  rw [Unsigned.rem_ok period word]
  rfl

theorem checkedProcess_ok (narrow : Narrow lchan.measurement) (sample : Sample)
    (word : frame ≤ u32.max) :
    lchan.checkedProcess sample frame = .ok (lchan.process sample frame)
      ∧ Narrow (lchan.process sample frame).2.measurement := by
  rw [process_eq, checkedProcess, checkedRecord_ok lchan sample word, ok_bind]
  exact checkedCompute_ok (narrow_recorded narrow sample frame) frame

end LogicalChannel

end BaseStation
