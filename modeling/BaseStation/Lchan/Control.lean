import BaseStation.Lchan.State
import BaseStation.Config.Basic
import BaseStation.Radio.Band
import BaseStation.Radio.Reception

namespace BaseStation

namespace Lchan

/-- The moving average after a new value, in 1/100; the first value starts it. -/
def nextAverage (weight : Nat) (average : Option Int) (value : Int) : Int :=
  match average with
  | none => value * 100
  | some average => weight * value + average - (weight * average).tdiv 100

/-- The step in dB that brings a level closer to the target: positive asks for more power. -/
def stepToward (params : PowerParams) (value : Int) : Int :=
  let distance := params.target.toInt - value
  if distance.natAbs ≤ params.hysteresis.toNat then 0
  else max (-params.lowerStep.toNat) (min distance params.raiseStep.toNat)

def PowerControl.delta (control : PowerControl) (params : PowerParams) (measured : Int) :
    Int × PowerControl :=
  match params.filter with
  | none => (stepToward params measured, control)
  | some weight =>
    let average := nextAverage weight.toNat control.average measured
    (stepToward params (average.tdiv 100), { control with average := some average })

def PowerControl.deltas (params : PowerParams) : List Int → PowerControl → List Int × PowerControl
  | [], control => ([], control)
  | measured :: rest, control =>
    let (delta, next) := control.delta params measured
    let (deltas, last) := deltas params rest next
    (delta :: deltas, last)

/-- 90% of a symbol, in 1/256 bit. -/
def advanceThreshold : Int := 230

/-- A decision by quality class: on from the threshold, off from two classes below it, and as before
in between. -/
def decide (before : Bool) (threshold quality : Nat) : Bool :=
  if quality ≥ threshold then true else if quality ≤ threshold - 2 then false else before

/-- The quality the mobile station saw, over the sub set if it used discontinuous transmission. -/
def reportedQuality (results : Sacch.Results) : Nat :=
  (if results.dtxUsed then results.qualitySub else results.qualityFull).toNat

end Lchan

namespace LogicalChannel

open Lchan

/-- Moves the timing advance by at most one step, unless a block is to be skipped. -/
def controlAdvance (lchan : LogicalChannel) (interval : Nat) (offset : Int) : Bool × LogicalChannel :=
  let control := lchan.advance
  if 0 < control.skip then
    (false, { lchan with advance := { control with skip := control.skip - 1 } })
  else
    let current :=
      if offset < -advanceThreshold ∧ 0 < control.current then control.current - 1
      else if advanceThreshold < offset ∧ control.current < maxAdvance then control.current + 1
      else control.current
    (current != control.current, { lchan with advance := ⟨current, interval⟩ })

/-- Sets the reduction of the base station by a valid report of the mobile station. With bit errors the
reduction is halved. -/
def controlBsPower (lchan : LogicalChannel) (params : PowerParams) (results : Option Sacch.Results) :
    Bool × LogicalChannel :=
  match lchan.bsPower.fixed, results.filter (·.valid) with
  | false, some results =>
    let (level, quality) :=
      if lchan.downlinkDtx then (results.levelSub, results.qualitySub)
      else (results.levelFull, results.qualityFull)
    let (reduction, control) :=
      if 0 < quality then (lchan.bsPower.current / 2, lchan.bsPower)
      else
        let (delta, control) := lchan.bsPower.delta params (Radio.dbmOfLevel level.toNat)
        ((max 0 (min (lchan.bsPower.current - delta) lchan.bsPower.max)).toNat, control)
    (reduction != lchan.bsPower.current, { lchan with bsPower := { control with current := reduction } })
  | _, _ => (false, lchan)

/-- Sets the level of the mobile station, which sent at `level` and was received at `received` dBm. A
lower level means more power, so the level stays at or above the maximum granted. -/
def controlMsPower (lchan : LogicalChannel) (params : PowerParams) (band : Band) (level : Nat)
    (received : Int) : Bool × LogicalChannel :=
  if lchan.msPower.fixed then (false, lchan)
  else
    let (delta, control) := lchan.msPower.delta params received
    let next := max (band.level (max (band.power level + delta) 0)) lchan.msPower.max
    (next != lchan.msPower.current, { lchan with msPower := { control with current := next } })

/-- Decides whether FACCH blocks are repeated. A mobile station that asks for a repeated SACCH gets a
repeated FACCH too. -/
def decideRepeat (lchan : LogicalChannel) (results : Option Sacch.Results) : LogicalChannel :=
  let granted := lchan.repeats
  let active :=
    if !granted.commands && !granted.allFrames then false
    else if granted.threshold = 0 then true
    else if lchan.measurement.header.repetition then true
    else match results.filter (·.valid) with
      | some results => decide lchan.repeatFacch granted.threshold.toNat (reportedQuality results)
      | none => lchan.repeatFacch
  { lchan with repeatFacch := active }

/-- Decides whether associated control blocks are sent with more power. Without a grant or a threshold
the decision stays. -/
def decideOverpower (lchan : LogicalChannel) (results : Sacch.Results) : LogicalChannel :=
  if lchan.overpower.decibel = 0 ∨ lchan.overpower.threshold = 0 then lchan
  else { lchan with
    overpowerActive :=
      decide lchan.overpowerActive lchan.overpower.threshold.toNat (reportedQuality results) }

end LogicalChannel

end BaseStation
