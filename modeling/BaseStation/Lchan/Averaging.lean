import BaseStation.Lchan.Period
import BaseStation.Radio.Reception

namespace BaseStation

namespace Lchan

structure Tally where
  errorFull : Nat
  errorSub : Nat
  attenuationFull : Nat
  attenuationSub : Nat
  interferenceFull : Int
  interferenceSub : Int
  timingOffset : Int
  received : Nat
  receivedSub : Nat
  sub : Nat
  deriving DecidableEq, Repr

namespace Tally

def zero : Tally := ⟨0, 0, 0, 0, 0, 0, 0, 0, 0, 0⟩

def ifSub {α : Type} [OfNat α 0] (isSub : Bool) (amount : α) : α := if isSub then amount else 0

def addSample (tally : Tally) (sample : Sample) : Tally where
  errorFull := tally.errorFull + sample.errorRate.toNat
  errorSub := tally.errorSub + ifSub sample.isSub sample.errorRate.toNat
  attenuationFull := tally.attenuationFull + sample.attenuation.toNat
  attenuationSub := tally.attenuationSub + ifSub sample.isSub sample.attenuation.toNat
  interferenceFull := tally.interferenceFull + sample.interference.toInt
  interferenceSub := tally.interferenceSub + ifSub sample.isSub sample.interference.toInt
  timingOffset := tally.timingOffset + sample.timingOffset.toInt
  received := tally.received + 1
  receivedSub := tally.receivedSub + ifSub sample.isSub 1
  sub := tally.sub + ifSub sample.isSub 1

/-- A block without a sample counts as all wrong for the error rate and not at all for the other means.
Such blocks join the sub set while it is smaller than `wanted`. -/
def addLost (wanted : Nat) (tally : Tally) : Tally :=
  let isSub : Bool := tally.sub < wanted
  { tally with
    errorFull := tally.errorFull + Sample.lost.errorRate.toNat
    errorSub := tally.errorSub + ifSub isSub Sample.lost.errorRate.toNat
    sub := tally.sub + ifSub isSub 1 }

def ofSamples (samples : List Sample) : Tally := samples.foldl addSample zero

end Tally

def latest (count : Nat) (samples : List Sample) : List Sample :=
  samples.drop (samples.length - count)

def noAttenuation : Nat := 109

def meanLevel (sum count : Nat) : Nat :=
  Radio.levelOfDbm (-(if count = 0 then noAttenuation else sum / count : Nat))

/-- Mean error rate as a quality class; no blocks are as bad as lost ones. -/
def meanQuality (sum count : Nat) : Nat :=
  Radio.qualityClass (if count = 0 then 10000 else sum / count)

def meanOr (before sum : Int) (count : Nat) : Int :=
  if count = 0 then before else sum.tdiv count

/-- The largest number whose square is at most `n`, for an `n` of at most `2 * fuel` bits. -/
def rootWithin : Nat → Nat → Nat
  | 0, _ => 0
  | fuel + 1, n =>
    let half := 2 * rootWithin fuel (n / 4)
    if (half + 1) * (half + 1) ≤ n then half + 1 else half

def squareRoot (n : Nat) : Nat := rootWithin 16 n

/-- Least, greatest and mean timing offset, and how far the offsets deviate from the mean. -/
def statisticsOf (mean : Int) (offsets : List Int) : OffsetStatistics where
  min := offsets.foldl min Int16.maxValue.toInt
  max := offsets.foldl max Int16.minValue.toInt
  mean := mean
  deviation :=
    let square (offset : Int) : Nat := (offset - mean).natAbs * (offset - mean).natAbs
    let squares := offsets.foldl (fun sum offset => sum + square offset) 0
    squareRoot (min (squares / offsets.length) (UInt32.size - 1))

end Lchan

namespace LogicalChannel

open Lchan

def tally (lchan : LogicalChannel) : Tally :=
  let counted := latest lchan.expected lchan.measurement.samples
  let wanted := if lchan.isAmr then 0 else lchan.expectedSub
  (List.replicate (lchan.expected - counted.length) ()).foldl (fun tally _ => tally.addLost wanted)
    (.ofSamples counted)

def averaged (measurement : Measurement) (expected : Nat) (tally : Tally) : Measurement :=
  { measurement with
    uplink := {
      full := ⟨meanLevel tally.attenuationFull tally.received, meanQuality tally.errorFull expected⟩
      sub := ⟨meanLevel tally.attenuationSub tally.receivedSub, meanQuality tally.errorSub tally.sub⟩ }
    timingOffset := meanOr measurement.timingOffset tally.timingOffset tally.received
    interferenceFull := meanOr measurement.interferenceFull tally.interferenceFull tally.received
    interferenceSub := meanOr measurement.interferenceSub tally.interferenceSub tally.receivedSub
    resultValid := true }

def withStatistics (measurement : Measurement) (expected : Nat) : Measurement :=
  if measurement.samples = [] then measurement
  else
    let counted := latest (max expected 1) measurement.samples
    { measurement with
      statistics := statisticsOf measurement.timingOffset (counted.map (·.timingOffset.toInt))
      statisticsValid := true }

def capacity : Nat := 104

def record (lchan : LogicalChannel) (sample : Sample) (frame : Nat) :
    Except MeasurementError LogicalChannel :=
  if lchan.measurement.samples.length ≥ capacity then .error .bufferFull
  else
    let sample := { sample with isSub := sample.isSub || lchan.isSub frame }
    .ok { lchan with measurement := { lchan.measurement with
      samples := lchan.measurement.samples ++ [sample], lastFrame := some frame } }

def recordAll : List (Nat × Sample) → LogicalChannel → Nat × LogicalChannel
  | [], lchan => (0, lchan)
  | (frame, sample) :: rest, lchan =>
    match lchan.record sample frame with
    | .ok lchan =>
      let (count, lchan) := recordAll rest lchan
      (count + 1, lchan)
    | .error _ => recordAll rest lchan

/-- Completes the period if one ends on the frame and was not completed there before. -/
def compute (lchan : LogicalChannel) (frame : Nat) : Bool × LogicalChannel :=
  if lchan.isPeriodEnd frame ∧ lchan.measurement.computedFrame ≠ some frame then
    let averages := averaged lchan.measurement lchan.expected lchan.tally
    let measurement := withStatistics averages lchan.expected
    (true, { lchan with measurement := { measurement with
      samples := [], computedFrame := some frame } })
  else (false, lchan)

def process (lchan : LogicalChannel) (sample : Sample) (frame : Nat) : Bool × LogicalChannel :=
  match lchan.record sample frame with
  | .ok lchan => lchan.compute frame
  | .error _ => lchan.compute frame

end LogicalChannel

end BaseStation
