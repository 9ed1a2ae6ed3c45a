import Mathlib.Tactic.ByContra
import Mathlib.Tactic.SplitIfs
import BaseStation.Lchan.Control

namespace BaseStation

namespace Band

/-- The first level above the regular range, where the power jumps up again. -/
def firstUpper? : Band → Option Nat
  | gsm850 | gsm900 => none
  | dcs1800 => some 29
  | pcs1900 => some 30

variable {band : Band} {first : Nat}

theorem power_antitone {low high : Nat} (le : low ≤ high)
    (same : ∀ first, band.firstUpper? = some first → high < first ∨ first ≤ low) :
    band.power high ≤ band.power low := by
  cases band with
  | gsm850 | gsm900 =>
    simp only [power]
    split_ifs <;> omega
  | dcs1800 =>
    have side : high < 29 ∨ 29 ≤ low := same 29 rfl
    simp only [power]
    split_ifs <;> omega
  | pcs1900 =>
    have side : high < 30 ∨ 30 ≤ low := same 30 rfl
    simp only [power]
    split_ifs <;> omega

/-- The regular levels of a band with levels above them end below the power of those. -/
theorem power_le_of_regular (upper : band.firstUpper? = some first) {level : Nat}
    (regular : level < first) : band.power level ≤ 30 := by
  cases band with
  | gsm850 | gsm900 => cases upper
  | dcs1800 | pcs1900 =>
    cases upper
    simp only [power]
    split_ifs <;> omega

theorem level_lt_of_lt (upper : band.firstUpper? = some first) {dbm : Int} (lt : dbm < 32) :
    band.level dbm < first := by
  cases band with
  | gsm850 | gsm900 => cases upper
  | dcs1800 | pcs1900 =>
    cases upper
    simp only [level]
    split_ifs <;> omega

theorem level_of_le (upper : band.firstUpper? = some first) {dbm : Int} (le : 32 ≤ dbm) :
    first ≤ band.level dbm ∧ 32 ≤ band.power (band.level dbm) := by
  cases band with
  | gsm850 | gsm900 => cases upper
  | dcs1800 | pcs1900 =>
    cases upper
    simp only [level]
    split_ifs <;> first | omega | exact ⟨by decide, by decide⟩

end Band

namespace LogicalChannel

open Lchan

variable {lchan : LogicalChannel} {params : PowerParams}

/-- The power in dBm the loop asks for, before the limit. -/
def askedPower (lchan : LogicalChannel) (params : PowerParams) (band : Band) (level : Nat)
    (received : Int) : Int :=
  max (band.power level + (lchan.msPower.delta params received).1) 0

theorem delta_grant (control : PowerControl) (measured : Int) :
    (control.delta params measured).2.max = control.max ∧
      (control.delta params measured).2.fixed = control.fixed := by
  unfold PowerControl.delta
  split
  · exact ⟨rfl, rfl⟩
  · exact ⟨rfl, rfl⟩

theorem controlMsPower_granted (params : PowerParams) (band : Band) (level : Nat) (received : Int)
    (controlled : lchan.msPower.fixed = false) :
    (lchan.controlMsPower params band level received).2.msPower.current =
        max (band.level (lchan.askedPower params band level received)) lchan.msPower.max ∧
      (lchan.controlMsPower params band level received).2.msPower.max = lchan.msPower.max := by
  unfold controlMsPower
  rw [if_neg (by rw [controlled]; decide)]
  exact ⟨rfl, (delta_grant lchan.msPower received).1⟩

/-- The mobile station stays within the power granted, whatever it sent at and was received at, unless
the grant is a regular level of a band with levels above and the loop asks for what only those give. -/
theorem controlMsPower_limited_iff (lchan : LogicalChannel) (params : PowerParams) (band : Band)
    (level : Nat) (received : Int) (controlled : lchan.msPower.fixed = false) :
    let after := (lchan.controlMsPower params band level received).2.msPower
    after.max = lchan.msPower.max ∧ lchan.msPower.max ≤ after.current ∧
      (band.power after.current ≤ band.power after.max ↔
        ∀ first, band.firstUpper? = some first → after.max < first →
          lchan.askedPower params band level received < 32) := by
  intro after
  obtain ⟨current, same⟩ :=
    controlMsPower_granted params band level received controlled
  have numbers : lchan.msPower.max ≤ after.current := by
    rw [show after.current = _ from current]
    exact Nat.le_max_right ..
  refine ⟨same, numbers, ?_⟩
  rw [show after.max = _ from same]
  constructor
  · intro limited first upper regular
    by_contra above
    have above : 32 ≤ lchan.askedPower params band level received := by omega
    obtain ⟨high, strong⟩ := Band.level_of_le upper above
    have chosen : after.current = band.level (lchan.askedPower params band level received) := by
      rw [show after.current = _ from current]
      exact Nat.max_eq_left (by omega)
    have weak : band.power lchan.msPower.max ≤ 30 := Band.power_le_of_regular upper regular
    rw [chosen] at limited
    omega
  · intro within
    refine Band.power_antitone numbers fun first upper => ?_
    rcases Nat.lt_or_ge lchan.msPower.max first with regular | upperGrant
    · left
      have asked : band.level (lchan.askedPower params band level received) < first :=
        Band.level_lt_of_lt upper (within first upper regular)
      rw [show after.current = _ from current]
      exact Nat.max_lt.mpr ⟨asked, regular⟩
    · exact .inr upperGrant

theorem controlMsPower_limited_regular :
    let lchan := { fresh ⟨0, 2, 0⟩ .tchF .tchF .speechV1 with msPower := .granted 5 5 }
    let after := (lchan.controlMsPower .default .dcs1800 5 (-110)).2.msPower
    lchan.msPower.fixed = false ∧ Band.power .dcs1800 after.current ≤ 20 := by
  intro lchan after
  obtain ⟨same, _, limited⟩ := controlMsPower_limited_iff lchan .default .dcs1800 5 (-110) rfl
  have grant : Band.power .dcs1800 after.max = 20 := by
    rw [show after.max = _ from same]
    decide
  rw [← grant]
  exact ⟨rfl, limited.mpr fun _ _ _ => by decide⟩

/-- One that was granted 30 dBm and sends at them, and is hardly heard, is told to send at 34 dBm: level
30 is numerically above level 0. -/
theorem controlMsPower_exceeds :
    ¬ ∀ (lchan : LogicalChannel) (params : PowerParams) (band : Band) (level : Nat) (received : Int),
      lchan.msPower.fixed = false →
        let after := (lchan.controlMsPower params band level received).2.msPower
        band.power after.current ≤ band.power after.max := by
  intro limited
  have within := limited
    { fresh ⟨0, 2, 0⟩ .tchF .tchF .speechV1 with msPower := .granted 0 0 } .default .dcs1800 0 (-110) rfl
  revert within
  decide

end LogicalChannel

end BaseStation
