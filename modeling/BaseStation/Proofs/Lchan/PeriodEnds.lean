import BaseStation.Frame.Time
import BaseStation.Proofs.Lchan.History

namespace BaseStation

open Lchan

def FrameTime.later (time : FrameTime) : Nat → FrameTime
  | 0 => time
  | count + 1 => (time.later count).advance 1

theorem FrameTime.frame_later {time : FrameTime} (valid : time.IsValid) (count : Nat) :
    (time.later count).frame = (time.frame + count) % hyperframe := by
  induction count with
  | zero => exact (Nat.mod_eq_of_lt valid).symm
  | succ count ih =>
    have wraps : (time.later (count + 1)).frame = ((time.later count).frame + 1) % hyperframe := by
      simp only [later, advance, hyperframe]
      omega
    rw [wraps, ih, ← Nat.add_assoc, Nat.mod_add_mod]

namespace LogicalChannel

/-- The position within a period on which the period is reported. -/
def endPosition (lchan : LogicalChannel) : Nat :=
  match lchan.pchan with
  | .tchF => 12 + 13 * lchan.chan.ts
  | .tchH => 12 + 26 * (lchan.chan.ts / 2) + 13 * lchan.chan.ss
  | .sdcch8 | .sdcch8Cbch => sdcch8Ends[lchan.chan.ss]?.getD 0
  | .ccchSdcch4 | .ccchSdcch4Cbch => sdcch4Ends[lchan.chan.ss]?.getD 0
  | .none | .ccch | .pdch => 0

/-- The timeslot has reporting periods, and its address exists. -/
structure Measurable (lchan : LogicalChannel) : Prop where
  reports : lchan.pchan.period?.isSome
  ts : lchan.chan.ts < 8
  ss : lchan.chan.ss < lchan.pchan.subslots

theorem fullRate_end : ∀ ts < 8, ∀ position < 104,
    fullRateEnds[ts]? == some (reportedEnd position) ↔ position = 12 + 13 * ts := by
  decide

theorem halfRate_end : ∀ ts < 8, ∀ ss < 2, ∀ position < 104,
    (halfRateEnds ss)[ts]? == some (reportedEnd position)
      ↔ position = 12 + 26 * (ts / 2) + 13 * ss := by
  decide

theorem listed_end {ends : List Nat} {ss : Nat} (listed : ss < ends.length) (position : Nat) :
    ends[ss]? == some position ↔ position = ends[ss]?.getD 0 := by
  rw [List.getElem?_eq_getElem listed, beq_iff_eq, Option.some.injEq, Option.getD_some]
  exact eq_comm

variable {lchan : LogicalChannel}

theorem isPeriodEnd_iff (measurable : lchan.Measurable) (frame : Nat) :
    lchan.isPeriodEnd frame ↔ frame % lchan.period = lchan.endPosition := by
  obtain ⟨reports, ts, ss⟩ := measurable
  have small : frame % 104 < 104 := Nat.mod_lt _ (by decide)
  unfold isPeriodEnd period endPosition
  cases pchan : lchan.pchan <;> rw [pchan] at reports ss
  case tchF => exact fullRate_end _ ts _ small
  case tchH => exact halfRate_end _ ts _ ss _ small
  case sdcch8 | sdcch8Cbch => exact listed_end ss _
  case ccchSdcch4 | ccchSdcch4Cbch => exact listed_end ss _
  case none | ccch | pdch => cases reports

theorem endPosition_lt (measurable : lchan.Measurable) : lchan.endPosition < lchan.period := by
  obtain ⟨reports, ts, ss⟩ := measurable
  have sdcch8 : ∀ ss < 8, sdcch8Ends[ss]?.getD 0 < 102 := by decide
  have sdcch4 : ∀ ss < 4, sdcch4Ends[ss]?.getD 0 < 102 := by decide
  unfold endPosition period
  cases pchan : lchan.pchan <;> rw [pchan] at reports ss
  case tchF => show 12 + 13 * lchan.chan.ts < 104; omega
  case tchH =>
    have : lchan.chan.ss < 2 := ss
    show 12 + 26 * (lchan.chan.ts / 2) + 13 * lchan.chan.ss < 104
    omega
  case sdcch8 | sdcch8Cbch => exact sdcch8 _ ss
  case ccchSdcch4 | ccchSdcch4Cbch => exact sdcch4 _ ss
  case none | ccch | pdch => cases reports

theorem period_eq (measurable : lchan.Measurable) : lchan.period = 104 ∨ lchan.period = 102 := by
  have reports := measurable.reports
  unfold period
  cases pchan : lchan.pchan <;> rw [pchan] at reports
  case tchF | tchH => exact .inl rfl
  case sdcch8 | sdcch8Cbch | ccchSdcch4 | ccchSdcch4Cbch => exact .inr rfl
  case none | ccch | pdch => cases reports

theorem position_later (measurable : lchan.Measurable) {time : FrameTime} (valid : time.IsValid)
    (count : Nat) :
    (time.later count).frame % lchan.period = (time.frame + count) % lchan.period := by
  -- a hyperframe is a whole number of periods, so the position goes on past its end
  have whole : lchan.period ∣ hyperframe := by
    rcases period_eq measurable with period | period <;> rw [period] <;> decide
  rw [FrameTime.frame_later valid, Nat.mod_mod_of_dvd _ whole]

theorem ends_once (measurable : lchan.Measurable) {time : FrameTime} (valid : time.IsValid) :
    ∃ first < lchan.period, ∀ count < lchan.period,
      lchan.isPeriodEnd (time.later count).frame ↔ count = first := by
  have bound := endPosition_lt measurable
  refine ⟨(lchan.endPosition + lchan.period - time.frame % lchan.period) % lchan.period,
    Nat.mod_lt _ (by omega), fun count inPeriod => ?_⟩
  rw [isPeriodEnd_iff measurable, position_later measurable valid]
  rcases period_eq measurable with period | period <;> rw [period] at bound inPeriod ⊢ <;> omega

def fed (lchan : LogicalChannel) (samples : Nat → Sample) (start : FrameTime) :
    Nat → LogicalChannel
  | 0 => lchan
  | count + 1 =>
    ((lchan.fed samples start count).process (samples count) (start.later count).frame).2

/-- The sample so many frames from the start completes a period. -/
def completesAt (lchan : LogicalChannel) (samples : Nat → Sample) (start : FrameTime)
    (count : Nat) : Bool :=
  ((lchan.fed samples start count).process (samples count) (start.later count).frame).1

theorem compute_answers (lchan : LogicalChannel) (frame : Nat) :
    (lchan.compute frame).1 = true
      ↔ lchan.isPeriodEnd frame ∧ lchan.measurement.computedFrame ≠ some frame := by
  unfold compute
  split <;> simp_all

theorem recorded_keeps (lchan : LogicalChannel) (sample : Sample) (frame : Nat) :
    (lchan.recorded sample frame).chan = lchan.chan
      ∧ (lchan.recorded sample frame).pchan = lchan.pchan
      ∧ (lchan.recorded sample frame).measurement.computedFrame
        = lchan.measurement.computedFrame := by
  rcases lchan.record_cases sample frame with ⟨kept, -, recorded⟩ | ⟨-, recorded⟩ <;>
    rw [recorded] <;> exact ⟨rfl, rfl, rfl⟩

theorem isPeriodEnd_congr {other : LogicalChannel} (chan : other.chan = lchan.chan)
    (pchan : other.pchan = lchan.pchan) : other.isPeriodEnd = lchan.isPeriodEnd := by
  funext frame
  simp only [isPeriodEnd, chan, pchan]

theorem process_answers (lchan : LogicalChannel) (sample : Sample) (frame : Nat) :
    (lchan.process sample frame).1 = true
      ↔ lchan.isPeriodEnd frame ∧ lchan.measurement.computedFrame ≠ some frame := by
  obtain ⟨chan, pchan, computed⟩ := lchan.recorded_keeps sample frame
  rw [process_eq, compute_answers, isPeriodEnd_congr chan pchan, computed]

theorem process_keeps (lchan : LogicalChannel) (sample : Sample) (frame : Nat) :
    (lchan.process sample frame).2.chan = lchan.chan
      ∧ (lchan.process sample frame).2.pchan = lchan.pchan
      ∧ (lchan.process sample frame).2.measurement.computedFrame
        = if lchan.isPeriodEnd frame then some frame else lchan.measurement.computedFrame := by
  obtain ⟨chan, pchan, computed⟩ := lchan.recorded_keeps sample frame
  rw [process_eq, ← isPeriodEnd_congr chan pchan, ← chan, ← pchan, ← computed]
  unfold compute
  by_cases ends : (lchan.recorded sample frame).isPeriodEnd frame = true <;>
    by_cases again : (lchan.recorded sample frame).measurement.computedFrame = some frame <;>
    simp [ends, again]

variable {samples : Nat → Sample} {start : FrameTime}

theorem isPeriodEnd_fed (lchan : LogicalChannel) (samples : Nat → Sample) (start : FrameTime)
    (count : Nat) : (lchan.fed samples start count).isPeriodEnd = lchan.isPeriodEnd := by
  induction count with
  | zero => rfl
  | succ count ih =>
    obtain ⟨chan, pchan, -⟩ := (lchan.fed samples start count).process_keeps (samples count)
      (start.later count).frame
    rw [fed, isPeriodEnd_congr chan pchan, ih]

theorem computedFrame_fed (lchan : LogicalChannel) (samples : Nat → Sample) (start : FrameTime)
    (count : Nat) :
    (∃ last < count, lchan.isPeriodEnd (start.later last).frame
        ∧ (∀ between < count, last < between → ¬ lchan.isPeriodEnd (start.later between).frame)
        ∧ (lchan.fed samples start count).measurement.computedFrame
          = some (start.later last).frame) ∨
    (∀ earlier < count, ¬ lchan.isPeriodEnd (start.later earlier).frame)
      ∧ (lchan.fed samples start count).measurement.computedFrame
        = lchan.measurement.computedFrame := by
  induction count with
  | zero => exact .inr ⟨fun _ below => absurd below (Nat.not_lt_zero _), rfl⟩
  | succ count ih =>
    obtain ⟨-, -, computed⟩ := (lchan.fed samples start count).process_keeps (samples count)
      (start.later count).frame
    rw [isPeriodEnd_fed] at computed
    by_cases ends : lchan.isPeriodEnd (start.later count).frame
    · rw [if_pos ends] at computed
      exact .inl ⟨count, by omega, ends, fun between _ _ => by omega, computed⟩
    · rw [if_neg ends] at computed
      rcases ih with ⟨last, before, lastEnds, quiet, remembered⟩ | ⟨quiet, remembered⟩
      · refine .inl ⟨last, by omega, lastEnds, fun between inRun after => ?_, computed.trans remembered⟩
        rcases Nat.lt_succ_iff_lt_or_eq.mp inRun with inRun | rfl
        · exact quiet between inRun after
        · exact ends
      · exact .inr ⟨Nat.forall_lt_succ_right.mpr ⟨quiet, ends⟩, computed.trans remembered⟩

/-- Two ends with none between them are on different frames, as a hyperframe has many periods. -/
theorem next_end_ne (measurable : lchan.Measurable) (valid : start.IsValid) {last count : Nat}
    (after : last < count) (ends : lchan.isPeriodEnd (start.later last).frame)
    (quiet : ∀ between < count, last < between →
      ¬ lchan.isPeriodEnd (start.later between).frame) :
    (start.later last).frame ≠ (start.later count).frame := by
  intro same
  have next : lchan.isPeriodEnd (start.later (last + lchan.period)).frame := by
    rw [isPeriodEnd_iff measurable, position_later measurable valid] at ends ⊢
    rw [← Nat.add_assoc, Nat.add_mod_right, ends]
  have round : last + hyperframe ≤ count := by
    simp only [FrameTime.frame_later valid, hyperframe] at same ⊢
    omega
  have short : 0 < lchan.period ∧ lchan.period < hyperframe := by
    rcases period_eq measurable with period | period <;> rw [period] <;> decide
  exact quiet _ (by omega) (by omega) next

theorem completesAt_iff (measurable : lchan.Measurable) (valid : start.IsValid) (count : Nat) :
    lchan.completesAt samples start count
      ↔ lchan.isPeriodEnd (start.later count).frame
        ∧ ¬ (lchan.measurement.computedFrame = some (start.later count).frame
          ∧ ∀ earlier < count, ¬ lchan.isPeriodEnd (start.later earlier).frame) := by
  rw [completesAt, process_answers, isPeriodEnd_fed]
  refine and_congr_right fun ends => not_congr ?_
  rcases lchan.computedFrame_fed samples start count
    with ⟨last, before, lastEnds, quiet, remembered⟩ | ⟨quiet, remembered⟩
  · have other := next_end_ne measurable valid before lastEnds quiet
    rw [remembered, Option.some.injEq]
    exact ⟨fun same => absurd same other, fun all => absurd lastEnds (all.2 last before)⟩
  · rw [remembered]
    exact (and_iff_left quiet).symm

theorem compute_twice {frame : Nat} (completed : (lchan.compute frame).1 = true) :
    (lchan.compute frame).2.compute frame = (false, (lchan.compute frame).2) := by
  have remembered : (lchan.compute frame).2.measurement.computedFrame = some frame := by
    rw [compute_answers] at completed
    rw [compute_of_due completed.1 completed.2]
  exact if_neg fun due => due.2 remembered

/-- A measurable channel has one end in each period, wherever the period begins; fed on every frame it
completes a period on each end, unless it had completed one on the first of them before; and it does
not complete the same period twice. -/
theorem reports_once_per_period (measurable : lchan.Measurable) (valid : start.IsValid) :
    (∃ first < lchan.period, ∀ count < lchan.period,
      lchan.isPeriodEnd (start.later count).frame ↔ count = first)
      ∧ (∀ samples count, lchan.completesAt samples start count
        ↔ lchan.isPeriodEnd (start.later count).frame
          ∧ ¬ (lchan.measurement.computedFrame = some (start.later count).frame
            ∧ ∀ earlier < count, ¬ lchan.isPeriodEnd (start.later earlier).frame))
      ∧ ∀ frame, (lchan.compute frame).1 = true →
        (lchan.compute frame).2.compute frame = (false, (lchan.compute frame).2) :=
  ⟨ends_once measurable valid, fun _ => completesAt_iff measurable valid, fun _ => compute_twice⟩

theorem reports_once_per_period_wrapping :
    let lchan := LogicalChannel.fresh ⟨0, 2, 0⟩ .tchF .tchF .speechV1
    (∀ samples, lchan.completesAt samples ⟨2715640⟩ 46 = true)
      ∧ lchan.isPeriodEnd 38 ∧ (lchan.compute 38).2.compute 38 = (false, (lchan.compute 38).2) := by
  intro lchan
  have reports := reports_once_per_period (show lchan.Measurable from ⟨rfl, by decide, by decide⟩)
    (show (⟨2715640⟩ : FrameTime).IsValid by decide)
  have ends : lchan.isPeriodEnd ((⟨2715640⟩ : FrameTime).later 46).frame := by decide
  refine ⟨fun samples => (reports.2.1 samples 46).mpr ⟨ends, fun before => ?_⟩, by decide, ?_⟩
  · cases before.1
  · exact reports.2.2 38 ((lchan.compute_answers 38).mpr ⟨by decide, by decide⟩)

/-- A channel that completed its period on a frame is not given it again by a sample on that frame. -/
theorem completesAt_not_again :
    let lchan := ((LogicalChannel.fresh ⟨0, 2, 0⟩ .tchF .tchF .speechV1).compute 38).2
    lchan.Measurable ∧ FrameTime.IsValid ⟨38⟩
      ∧ lchan.isPeriodEnd (FrameTime.later ⟨38⟩ 0).frame
      ∧ lchan.completesAt (fun _ => .lost) ⟨38⟩ 0 = false := by
  refine ⟨⟨rfl, by decide, by decide⟩, by decide, by decide, ?_⟩
  decide

end LogicalChannel

end BaseStation
