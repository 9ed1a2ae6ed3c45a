import BaseStation.Lchan.Averaging
import Mathlib.Algebra.Ring.Int.Defs
import Mathlib.Algebra.Ring.Nat

namespace BaseStation

namespace Lchan

def errors (samples : List Sample) : Nat := (samples.map (·.errorRate.toNat)).sum

def attenuations (samples : List Sample) : Nat := (samples.map (·.attenuation.toNat)).sum

def interferences (samples : List Sample) : Int := (samples.map (·.interference.toInt)).sum

def timingOffsets (samples : List Sample) : Int := (samples.map (·.timingOffset.toInt)).sum

def subSet (samples : List Sample) : List Sample := samples.filter (·.isSub)

theorem length_latest (count : Nat) (samples : List Sample) :
    (latest count samples).length = min count samples.length := by
  rw [latest, List.length_drop]
  omega

theorem latest_suffix (count : Nat) (samples : List Sample) : latest count samples <:+ samples :=
  List.drop_suffix _ samples

theorem latest_append {count : Nat} (older : List Sample) {recent : List Sample}
    (full : older = [] ∨ count ≤ recent.length) :
    latest count (older ++ recent) = latest count recent := by
  rcases full with rfl | full
  · rfl
  · have skip : (older ++ recent).length - count = older.length + (recent.length - count) := by
      rw [List.length_append]
      omega
    rw [latest, skip, List.drop_append, List.drop_eq_nil_of_le (by omega), List.nil_append,
      Nat.add_sub_cancel_left, latest]

theorem latest_latest (count : Nat) (samples : List Sample) :
    latest count (latest count samples) = latest count samples := by
  have whole : (latest count samples).length - count = 0 := by
    rw [length_latest]
    omega
  rw [latest, whole, List.drop_zero]

theorem latest_eq_nil {count : Nat} (counts : 0 < count) {samples : List Sample} :
    latest count samples = [] ↔ samples = [] := by
  rw [← List.length_eq_zero_iff, length_latest, ← List.length_eq_zero_iff]
  omega

namespace Tally

@[simp]
theorem ifSub_true {α : Type} [OfNat α 0] (amount : α) : ifSub true amount = amount := rfl

@[simp]
theorem ifSub_false {α : Type} [OfNat α 0] (amount : α) : ifSub false amount = 0 := rfl

theorem foldl_addSample (samples : List Sample) (tally : Tally) :
    samples.foldl addSample tally = {
      errorFull := tally.errorFull + errors samples
      errorSub := tally.errorSub + errors (subSet samples)
      attenuationFull := tally.attenuationFull + attenuations samples
      attenuationSub := tally.attenuationSub + attenuations (subSet samples)
      interferenceFull := tally.interferenceFull + interferences samples
      interferenceSub := tally.interferenceSub + interferences (subSet samples)
      timingOffset := tally.timingOffset + timingOffsets samples
      received := tally.received + samples.length
      receivedSub := tally.receivedSub + (subSet samples).length
      sub := tally.sub + (subSet samples).length } := by
  induction samples generalizing tally with
  | nil =>
    simp [errors, attenuations, interferences, timingOffsets, subSet]
  | cons sample samples ih =>
    rw [List.foldl_cons, ih]
    cases sub : sample.isSub <;>
      simp only [addSample, sub, ifSub_true, ifSub_false, errors, attenuations, interferences,
        timingOffsets, subSet, List.map_cons, List.sum_cons, List.length_cons, List.filter_cons,
        Bool.false_eq_true, if_true, if_false, mk.injEq] <;>
      omega

theorem foldl_addLost (wanted count : Nat) (tally : Tally) :
    (List.replicate count ()).foldl (fun tally _ => tally.addLost wanted) tally = { tally with
      errorFull := tally.errorFull + 10000 * count
      errorSub := tally.errorSub + 10000 * min count (wanted - tally.sub)
      sub := tally.sub + min count (wanted - tally.sub) } := by
  have rate : Sample.lost.errorRate.toNat = 10000 := rfl
  induction count generalizing tally with
  | zero => simp
  | succ count ih =>
    rw [List.replicate_succ, List.foldl_cons, ih]
    by_cases room : tally.sub < wanted
    · simp only [addLost, rate, room, decide_true, ifSub_true, mk.injEq, true_and]
      omega
    · simp only [addLost, rate, room, decide_false, ifSub_false, mk.injEq, true_and]
      omega

end Tally

end Lchan

namespace LogicalChannel

open Lchan

variable (lchan : LogicalChannel)

def counted : List Sample := latest lchan.expected lchan.measurement.samples

def missing : Nat := lchan.expected - lchan.counted.length

def promoted : Nat :=
  if lchan.isAmr then 0 else min lchan.missing (lchan.expectedSub - (subSet lchan.counted).length)

theorem tally_eq : lchan.tally = {
    errorFull := errors lchan.counted + 10000 * lchan.missing
    errorSub := errors (subSet lchan.counted) + 10000 * lchan.promoted
    attenuationFull := attenuations lchan.counted
    attenuationSub := attenuations (subSet lchan.counted)
    interferenceFull := interferences lchan.counted
    interferenceSub := interferences (subSet lchan.counted)
    timingOffset := timingOffsets lchan.counted
    received := lchan.counted.length
    receivedSub := (subSet lchan.counted).length
    sub := (subSet lchan.counted).length + lchan.promoted } := by
  have wanted : min lchan.missing ((if lchan.isAmr then 0 else lchan.expectedSub) -
      (subSet lchan.counted).length) = lchan.promoted := by
    unfold promoted
    split <;> simp
  unfold tally
  rw [Tally.foldl_addLost, Tally.ofSamples, Tally.foldl_addSample]
  simp only [Tally.zero, Nat.zero_add, Int.zero_add]
  rw [← wanted]
  rfl

end LogicalChannel

end BaseStation
