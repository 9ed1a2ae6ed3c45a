import BaseStation.Lchan.Control
import BaseStation.Proofs.Lchan.Settling
import BaseStation.Proofs.Radio.PowerLevels

namespace BaseStation

open Unsigned (u8)
open Signed (i16 i32)

namespace Radio

def checkedDbmOfLevel (level : Nat) : Checked Int := i32.sub (min level 63 : Nat) 110

theorem checkedDbmOfLevel_ok (level : Nat) :
    checkedDbmOfLevel level = .ok (dbmOfLevel level) := by
  unfold checkedDbmOfLevel
  rw [Signed.sub_ok (by simp only [Signed.Fits, Signed.max]; omega)]
  unfold dbmOfLevel
  congr 1

theorem dbmOfLevel_between (level : Nat) : -110 ≤ dbmOfLevel level ∧ dbmOfLevel level ≤ -47 := by
  unfold dbmOfLevel
  omega

end Radio

namespace Band

def checkedFalling (greatest : Int) (level : Nat) : Checked Int := do
  i32.sub greatest (← i32.mul 2 level)

def checkedPower (band : Band) (level : Nat) : Checked Int :=
  match band with
  | gsm850 | gsm900 =>
    if level ≤ 2 then .ok 39 else if level ≤ 19 then checkedFalling 43 level else .ok 5
  | dcs1800 | pcs1900 => if level ≤ 15 then checkedFalling 30 level else .ok (band.power level)

def checkedHalf (greatest dbm : Int) : Checked Int := do
  i32.div (← i32.add (← i32.sub greatest dbm) 1) 2

def checkedLevel (band : Band) (dbm : Int) : Checked Nat :=
  match band with
  | gsm850 | gsm900 =>
    if dbm ≥ 39 then .ok 2 else if dbm < 5 then .ok 19
    else do u8.cast (← i32.add 2 (← checkedHalf 39 dbm))
  | dcs1800 =>
    if dbm ≥ 36 then .ok 29
    else if dbm ≥ 34 then .ok 30
    else if dbm ≥ 32 then .ok 31
    else if dbm < 0 then .ok 15
    else do u8.cast (← checkedHalf 30 dbm)
  | pcs1900 =>
    if dbm ≥ 33 then .ok 30
    else if dbm ≥ 32 then .ok 31
    else if dbm < 0 then .ok 15
    else do u8.cast (← checkedHalf 30 dbm)

theorem checkedFalling_ok {greatest : Int} {level : Nat} (least : 0 ≤ greatest)
    (most : greatest ≤ 43) (few : level ≤ 19) :
    checkedFalling greatest level = .ok (greatest - 2 * level) := by
  unfold checkedFalling
  rw [Signed.mul_ok (by simp only [Signed.Fits, Signed.max]; omega), ok_bind,
    Signed.sub_ok (by simp only [Signed.Fits, Signed.max]; omega)]

theorem checkedPower_ok (band : Band) (level : Nat) :
    band.checkedPower level = .ok (band.power level) := by
  cases band with
  | gsm850 | gsm900 =>
    unfold checkedPower power
    dsimp only
    split
    · rfl
    · split
      · rename_i few
        exact checkedFalling_ok (by decide) (by decide) few
      · rfl
  | dcs1800 | pcs1900 =>
    unfold checkedPower power
    dsimp only
    split
    · rename_i few
      exact checkedFalling_ok (by decide) (by decide) (by omega)
    · rfl

theorem checkedHalf_ok {greatest dbm : Int} (least : 0 ≤ dbm) (below : dbm ≤ greatest + 1)
    (most : greatest ≤ 39) : checkedHalf greatest dbm = .ok ((greatest - dbm + 1) / 2) := by
  have half : (greatest - dbm + 1).tdiv 2 = (greatest - dbm + 1) / 2 :=
    Int.tdiv_eq_ediv_of_nonneg (by omega)
  unfold checkedHalf
  rw [Signed.sub_ok (by simp only [Signed.Fits, Signed.max]; omega), ok_bind,
    Signed.add_ok (by simp only [Signed.Fits, Signed.max]; omega), ok_bind,
    Signed.div_ok (by decide) (by rw [half]; simp only [Signed.Fits, Signed.max]; omega), half]

theorem checkedLevel_ok (band : Band) (dbm : Int) :
    band.checkedLevel dbm = .ok (band.level dbm) := by
  have upper {greatest : Int} (least : 0 ≤ dbm) (below : dbm ≤ greatest + 1)
      (most : greatest ≤ 39) :
      (do u8.cast (← checkedHalf greatest dbm))
        = Except.ok ((greatest - dbm + 1) / 2).toNat := by
    rw [checkedHalf_ok least below most, ok_bind]
    exact Unsigned.cast_ok (by omega) (by simp only [Unsigned.max]; omega)
  cases band with
  | gsm850 | gsm900 =>
    unfold checkedLevel level
    dsimp only
    split
    · rfl
    · split
      · rfl
      · rw [checkedHalf_ok (by omega) (by omega) (by decide), ok_bind,
          Signed.add_ok (by simp only [Signed.Fits, Signed.max]; omega), ok_bind]
        exact Unsigned.cast_ok (by omega) (by simp only [Unsigned.max]; omega)
  | dcs1800 =>
    unfold checkedLevel level
    dsimp only
    repeat' first | rfl | split
    exact upper (by omega) (by omega) (by decide)
  | pcs1900 =>
    unfold checkedLevel level
    dsimp only
    repeat' first | rfl | split
    exact upper (by omega) (by omega) (by decide)

end Band

namespace PowerParams

structure Accepted (params : PowerParams) : Prop where
  filter : ∀ weight, params.filter = some weight → 1 ≤ weight.toNat ∧ weight.toNat ≤ 99
  target : params.target.toInt ≤ -10

end PowerParams

theorem SiteConfig.accepted_of_validate {config : SiteConfig} (valid : config.validate = .ok ()) :
    config.downlink.Accepted ∧ config.uplink.Accepted := by
  have accepted {params : PowerParams} (filter : params.filterInRange = true)
      (target : params.targetInRange = true) : params.Accepted := by
    refine ⟨fun weight held => ?_, ?_⟩
    · rw [PowerParams.filterInRange, held] at filter
      simp only [Option.all_some, Bool.and_eq_true, decide_eq_true_eq] at filter
      exact ⟨UInt8.lt_iff_toNat_lt.mp filter.1, UInt8.le_iff_toNat_le.mp filter.2⟩
    · rw [PowerParams.targetInRange, decide_eq_true_eq] at target
      exact Int32.le_iff_toInt_le.mp target
  have checked : (config.downlink.filterInRange && config.uplink.filterInRange) = true
      ∧ (config.downlink.targetInRange && config.uplink.targetInRange) = true := by
    unfold validate at valid
    simp only [bind, Except.bind, pure, Except.pure, throw, throwThe, MonadExceptOf.throw] at valid
    -- of the six checks only the last two matter, but all of them passed
    repeat' split at valid
    any_goals contradiction
    rename_i filters targets
    exact ⟨by simpa using filters, by simpa using targets⟩
  obtain ⟨filters, targets⟩ := checked
  rw [Bool.and_eq_true] at filters targets
  exact ⟨accepted filters.1 targets.1, accepted filters.2 targets.2⟩

namespace Lchan

def Audible (level : Int) : Prop := -110 ≤ level ∧ level ≤ -47

/-- Control state of the width declared for it, with an average of audible levels. -/
structure PowerControl.Narrow (control : PowerControl) : Prop where
  current : control.current ≤ 255
  max : control.max ≤ 255
  average : ∀ average, control.average = some average → -11000 ≤ average ∧ average ≤ -4700

def checkedNextAverage (weight : Nat) (average : Option Int) (value : Int) : Checked Int :=
  match average with
  | none => i32.mul value 100
  | some average => do
    let sum ← i32.add (← i32.mul weight value) average
    let share ← i32.div (← i32.mul weight average) 100
    i32.sub sum share

def checkedStepToward (params : PowerParams) (value : Int) : Checked Int := do
  let distance ← i32.sub params.target.toInt value
  let size ← i32.abs distance
  if size ≤ params.hysteresis.toNat then
    return 0
  Checked.clamp (← i32.neg params.lowerStep.toNat) params.raiseStep.toNat distance

def PowerControl.checkedDelta (control : PowerControl) (params : PowerParams) (measured : Int) :
    Checked (Int × PowerControl) := do
  match params.filter with
  | none => return (← checkedStepToward params measured, control)
  | some weight =>
    let average ← checkedNextAverage weight.toNat control.average measured
    let value ← i32.div average 100
    return (← checkedStepToward params value, { control with average := some average })

variable {params : PowerParams} {value : Int}

theorem product_between {weight level most : Int} (least : 0 ≤ weight) (greatest : weight ≤ 99)
    (above : -most ≤ level) (negative : level ≤ 0) :
    -(99 * most) ≤ weight * level ∧ weight * level ≤ 0 := by
  have low : 0 ≤ weight * (level + most) := Int.mul_nonneg least (by omega)
  have most : 0 ≤ (99 - weight) * most := Int.mul_nonneg (by omega) (by omega)
  have high : 0 ≤ weight * -level := Int.mul_nonneg least (by omega)
  simp only [Int.mul_add, Int.sub_mul, Int.mul_neg] at low most high
  omega

theorem checkedNextAverage_ok {weight : Nat} (weighs : 1 ≤ weight ∧ weight ≤ 99)
    {average : Option Int}
    (range : ∀ before, average = some before → -11000 ≤ before ∧ before ≤ -4700)
    (audible : Audible value) :
    checkedNextAverage weight average value = .ok (nextAverage weight average value)
      ∧ -11000 ≤ nextAverage weight average value ∧ nextAverage weight average value ≤ -4700 := by
  have ⟨least, greatest⟩ := audible
  unfold checkedNextAverage nextAverage
  cases average with
  | none =>
    dsimp only
    exact ⟨Signed.mul_ok (by simp only [Signed.Fits, Signed.max]; omega), by omega, by omega⟩
  | some before =>
    obtain ⟨low, high⟩ := range before rfl
    have positive : (0 : Int) ≤ weight := Int.natCast_nonneg weight
    have less : (weight : Int) ≤ 99 := Int.ofNat_le.mpr weighs.2
    have fresh := product_between positive less least (by omega)
    have old := product_between positive less low (by omega)
    have share : -10890 ≤ ((weight : Int) * before).tdiv 100 ∧ ((weight : Int) * before).tdiv 100 ≤ 0 :=
      tdiv_between (by decide) (by omega) (by omega)
    have between : -11000 ≤ nextAverage weight (some before) value ∧
        nextAverage weight (some before) value ≤ -4700 := by
      have approaches := nextAverage_approaches (Nat.le_succ_of_le weighs.2) before value
      rcases Int.le_total before (100 * value) with below | above
      · have := approaches.rising below
        omega
      · have := approaches.falling above
        omega
    refine ⟨?_, between⟩
    dsimp only
    rw [Signed.mul_ok (by simp only [Signed.Fits, Signed.max]; omega), ok_bind,
      Signed.add_ok (by simp only [Signed.Fits, Signed.max]; omega), ok_bind,
      Signed.mul_ok (by simp only [Signed.Fits, Signed.max]; omega), ok_bind,
      Signed.div_ok (by decide) (by simp only [Signed.Fits, Signed.max]; omega), ok_bind,
      Signed.sub_ok (by simp only [Signed.Fits, Signed.max]; omega)]

theorem stepToward_within (params : PowerParams) (value : Int) :
    -params.lowerStep.toNat ≤ stepToward params value
      ∧ stepToward params value ≤ params.raiseStep.toNat := by
  unfold stepToward
  dsimp only
  split <;> omega

theorem checkedStepToward_ok (accepted : params.Accepted) (audible : Audible value) :
    checkedStepToward params value = .ok (stepToward params value) := by
  obtain ⟨least, greatest⟩ := audible
  have target := accepted.target
  have target' := params.target.le_toInt
  have lower := params.lowerStep.toNat_lt
  unfold checkedStepToward stepToward
  rw [Signed.sub_ok (by simp only [Signed.Fits, Signed.max]; omega), ok_bind,
    Signed.abs_ok (by simp only [Signed.Fits, Signed.max]; omega), ok_bind]
  dsimp only
  by_cases near : (params.target.toInt - value).natAbs ≤ params.hysteresis.toNat
  · rw [if_pos near, if_pos (Int.ofNat_le.mpr near)]
    rfl
  · rw [if_neg near, if_neg (fun less => near (Int.ofNat_le.mp less)),
      Signed.neg_ok (by simp only [Signed.Fits, Signed.max]; omega), ok_bind]
    exact Checked.clamp_ok _ (by omega)

example : checkedStepToward ⟨Int32.minValue, 3, 4, 8, none⟩ 0 = .error .overflow := rfl

namespace PowerControl

variable {control : PowerControl}

theorem Narrow.delta (narrow : control.Narrow) (accepted : params.Accepted)
    (audible : Audible value) :
    control.checkedDelta params value = .ok (control.delta params value)
      ∧ (control.delta params value).2.Narrow := by
  unfold checkedDelta PowerControl.delta
  cases filter : params.filter with
  | none =>
    dsimp only
    rw [checkedStepToward_ok accepted audible]
    exact ⟨rfl, narrow⟩
  | some weight =>
    obtain ⟨averaged, low, high⟩ := checkedNextAverage_ok (accepted.filter weight filter)
      narrow.average audible
    have mean : Audible ((nextAverage weight.toNat control.average value).tdiv 100) :=
      tdiv_between (by decide) (by omega) (by omega)
    have fits : i32.Fits ((nextAverage weight.toNat control.average value).tdiv 100) := by
      obtain ⟨least, greatest⟩ := mean
      simp only [Signed.Fits, Signed.max]
      omega
    dsimp only
    rw [averaged, ok_bind, Signed.div_ok (by decide) fits, ok_bind,
      checkedStepToward_ok accepted mean]
    refine ⟨rfl, narrow.current, narrow.max, fun average held => ?_⟩
    cases held
    exact ⟨low, high⟩

theorem delta_within (control : PowerControl) (params : PowerParams) (value : Int) :
    -params.lowerStep.toNat ≤ (control.delta params value).1
      ∧ (control.delta params value).1 ≤ params.raiseStep.toNat := by
  unfold delta
  split <;> exact stepToward_within ..

theorem delta_between (control : PowerControl) (params : PowerParams) (value : Int) :
    -255 ≤ (control.delta params value).1 ∧ (control.delta params value).1 ≤ 255 := by
  have within := control.delta_within params value
  have lower := params.lowerStep.toNat_lt
  have raise := params.raiseStep.toNat_lt
  omega

theorem narrow_ofGrant (current : UInt8) (max : Option UInt8) : (ofGrant current max).Narrow := by
  have small := current.toNat_lt
  cases max with
  | none => exact ⟨by show current.toNat ≤ 255; omega, by show current.toNat ≤ 255; omega, by rintro _ ⟨⟩⟩
  | some max =>
    have small' := max.toNat_lt
    exact ⟨by show current.toNat ≤ 255; omega, by show max.toNat ≤ 255; omega, by rintro _ ⟨⟩⟩

end PowerControl

end Lchan

namespace LogicalChannel

open Lchan

structure Controlled (lchan : LogicalChannel) : Prop where
  msPower : lchan.msPower.Narrow
  bsPower : lchan.bsPower.Narrow
  advance : lchan.advance.current ≤ maxAdvance
  skip : lchan.advance.skip ≤ 255

def checkedControlAdvance (lchan : LogicalChannel) (interval : Nat) (offset : Int) :
    Checked (Bool × LogicalChannel) := do
  let control := lchan.advance
  if 0 < control.skip then
    let skip ← u8.sub control.skip 1
    return (false, { lchan with advance := { control with skip := skip } })
  let below ← i16.neg advanceThreshold
  let current ←
    if offset < below ∧ 0 < control.current then u8.sub control.current 1
    else if advanceThreshold < offset ∧ control.current < maxAdvance then u8.add control.current 1
    else .ok control.current
  return (current != control.current, { lchan with advance := ⟨current, interval⟩ })

def checkedReduction (lchan : LogicalChannel) (params : PowerParams) (level quality : UInt8) :
    Checked (Nat × PowerControl) := do
  if 0 < quality then
    return (← u8.div lchan.bsPower.current 2, lchan.bsPower)
  let received ← Radio.checkedDbmOfLevel level.toNat
  let (delta, control) ← lchan.bsPower.checkedDelta params received
  let wanted ← i32.sub lchan.bsPower.current delta
  return (← u8.cast (← Checked.clamp 0 lchan.bsPower.max wanted), control)

def checkedControlBsPower (lchan : LogicalChannel) (params : PowerParams)
    (results : Option Sacch.Results) : Checked (Bool × LogicalChannel) := do
  match lchan.bsPower.fixed, results.filter (·.valid) with
  | false, some results =>
    let (level, quality) :=
      if lchan.downlinkDtx then (results.levelSub, results.qualitySub)
      else (results.levelFull, results.qualityFull)
    let (reduction, control) ← lchan.checkedReduction params level quality
    return (reduction != lchan.bsPower.current,
      { lchan with bsPower := { control with current := reduction } })
  | _, _ => return (false, lchan)

def checkedControlMsPower (lchan : LogicalChannel) (params : PowerParams) (band : Band)
    (level : Nat) (received : Int) : Checked (Bool × LogicalChannel) := do
  if lchan.msPower.fixed then
    return (false, lchan)
  let power ← band.checkedPower level
  let (delta, control) ← lchan.msPower.checkedDelta params received
  let wanted ← i32.add power delta
  let next := max (← band.checkedLevel (max wanted 0)) lchan.msPower.max
  let _ ← band.checkedPower next
  return (next != lchan.msPower.current, { lchan with msPower := { control with current := next } })

variable {lchan : LogicalChannel} {params : PowerParams}

theorem Controlled.advance_ok (controlled : lchan.Controlled) {interval : Nat}
    (word : interval ≤ 255) (offset : Int) :
    lchan.checkedControlAdvance interval offset = .ok (lchan.controlAdvance interval offset)
      ∧ (lchan.controlAdvance interval offset).2.Controlled := by
  have current : lchan.advance.current ≤ 63 := controlled.advance
  have skip := controlled.skip
  unfold checkedControlAdvance controlAdvance
  dsimp only
  by_cases skips : 0 < lchan.advance.skip
  · rw [if_pos skips, if_pos skips,
      Unsigned.sub_ok skips (by simp only [Unsigned.max]; omega)]
    exact ⟨rfl, { controlled with skip := by show lchan.advance.skip - 1 ≤ 255; omega }⟩
  · have moved {current : Nat} (most : current ≤ 63) :
        Controlled { lchan with advance := ⟨current, interval⟩ } :=
      { controlled with advance := most, skip := word }
    rw [if_neg skips, if_neg skips, Signed.neg_ok (by decide), ok_bind]
    by_cases early : offset < -advanceThreshold ∧ 0 < lchan.advance.current
    · rw [if_pos early, if_pos early,
        Unsigned.sub_ok early.2 (by simp only [Unsigned.max]; omega)]
      exact ⟨rfl, moved (by omega)⟩
    · rw [if_neg early, if_neg early]
      by_cases late : advanceThreshold < offset ∧ lchan.advance.current < maxAdvance
      · have room : lchan.advance.current < 63 := late.2
        rw [if_pos late, if_pos late, Unsigned.add_ok (by simp only [Unsigned.max]; omega)]
        exact ⟨rfl, moved (by omega)⟩
      · rw [if_neg late, if_neg late]
        exact ⟨rfl, moved current⟩

theorem Controlled.msPower_ok (controlled : lchan.Controlled) (accepted : params.Accepted)
    (band : Band) (level : Nat) {received : Int} (audible : Audible received) :
    lchan.checkedControlMsPower params band level received
        = .ok (lchan.controlMsPower params band level received)
      ∧ (lchan.controlMsPower params band level received).2.Controlled := by
  unfold checkedControlMsPower controlMsPower
  by_cases fixed : lchan.msPower.fixed = true
  · rw [if_pos fixed, if_pos fixed]
    exact ⟨rfl, controlled⟩
  · obtain ⟨filtered, kept⟩ := controlled.msPower.delta accepted audible
    have power := band.power_within level
    have least := band.lowest_nonneg
    have most := band.highest_le
    have delta := lchan.msPower.delta_between params received
    rw [if_neg fixed, if_neg fixed, band.checkedPower_ok, ok_bind, filtered, ok_bind]
    dsimp only
    rw [Signed.add_ok (by simp only [Signed.Fits, Signed.max]; omega), ok_bind,
      band.checkedLevel_ok, ok_bind, band.checkedPower_ok, ok_bind]
    refine ⟨rfl, { controlled with msPower := { kept with current := ?_ } }⟩
    exact Nat.max_le.mpr ⟨band.level_le _, controlled.msPower.max⟩

theorem Controlled.reduction_ok (controlled : lchan.Controlled) (accepted : params.Accepted)
    (level quality : UInt8) :
    ∃ reduction control, lchan.checkedReduction params level quality = .ok (reduction, control)
      ∧ (if 0 < quality then (lchan.bsPower.current / 2, lchan.bsPower)
        else
          let (delta, control) := lchan.bsPower.delta params (Radio.dbmOfLevel level.toNat)
          ((max 0 (min (lchan.bsPower.current - delta) lchan.bsPower.max)).toNat, control))
        = (reduction, control)
      ∧ PowerControl.Narrow { control with current := reduction } := by
  have current := controlled.bsPower.current
  unfold checkedReduction
  by_cases errors : 0 < quality
  · rw [if_pos errors, if_pos errors, Unsigned.div_ok (by decide) current]
    exact ⟨_, _, rfl, rfl, { controlled.bsPower with current := by show _ / 2 ≤ 255; omega }⟩
  · obtain ⟨filtered, kept⟩ :=
      controlled.bsPower.delta accepted (Radio.dbmOfLevel_between level.toNat)
    have delta := lchan.bsPower.delta_between params (Radio.dbmOfLevel level.toNat)
    have max := controlled.bsPower.max
    rw [if_neg errors, if_neg errors, Radio.checkedDbmOfLevel_ok, ok_bind, filtered,
      ok_bind]
    dsimp only
    rw [Signed.sub_ok (by simp only [Signed.Fits, Signed.max]; omega), ok_bind,
      Checked.clamp_ok _ (by omega), ok_bind,
      Unsigned.cast_ok (by omega) (by simp only [Unsigned.max]; omega)]
    refine ⟨_, _, rfl, rfl, { kept with current := ?_ }⟩
    dsimp only
    omega

theorem Controlled.bsPower_ok (controlled : lchan.Controlled) (accepted : params.Accepted)
    (results : Option Sacch.Results) :
    lchan.checkedControlBsPower params results = .ok (lchan.controlBsPower params results)
      ∧ (lchan.controlBsPower params results).2.Controlled := by
  unfold checkedControlBsPower controlBsPower
  cases lchan.bsPower.fixed with
  | true => exact ⟨rfl, controlled⟩
  | false =>
    cases results.filter (·.valid) with
    | none => exact ⟨rfl, controlled⟩
    | some results =>
      dsimp only
      generalize (if lchan.downlinkDtx = true then (results.levelSub, results.qualitySub)
        else (results.levelFull, results.qualityFull)) = heard
      obtain ⟨level, quality⟩ := heard
      obtain ⟨reduction, control, checked, plain, kept⟩ :=
        controlled.reduction_ok accepted level quality
      dsimp only at plain ⊢
      rw [checked, plain]
      exact ⟨rfl, { controlled with bsPower := kept }⟩

end LogicalChannel

end BaseStation
