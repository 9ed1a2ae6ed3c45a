import BaseStation.Proofs.Lchan.CheckedLoops
import BaseStation.Proofs.Lchan.PowerLimit

namespace BaseStation

namespace Lchan

/-- A power heeds the step that was decided: upward by the step at most, downward by 1 dB more at most. -/
structure Heeds (delta before after : Int) : Prop where
  still : delta = 0 → after = before
  rises : 0 < delta → before ≤ after ∧ after ≤ before + delta
  falls : delta < 0 → after ≤ before ∧ before ≤ after + delta.natAbs + 1

end Lchan

open Lchan

theorem Band.level_heeds (band : Band) (level : Nat) (delta : Int) :
    Heeds delta (band.power level) (band.power (band.level (max (band.power level + delta) 0))) := by
  have ⟨least, most⟩ := band.power_within level
  have positive := band.lowest_nonneg
  generalize asked : max (band.power level + delta) 0 = dbm
  have rises (up : 0 ≤ delta) : band.power level ≤ band.power (band.level dbm) ∧
      band.power (band.level dbm) ≤ band.power level + delta := by
    constructor
    · exact le_power_level (by omega)
    · have := @power_level_le band dbm (by omega)
      omega
  refine ⟨fun still => ?_, fun up => rises (by omega), fun down => ?_⟩
  · have := rises (by omega)
    omega
  · constructor
    · by_cases low : dbm < band.lowest
      · rw [power_level_of_lt low]
        exact least
      · have := @power_level_le band dbm (by omega)
        omega
    · have := @power_level_near band dbm (by omega)
      omega

namespace LogicalChannel

/-- The step that is decided is within the limits on steps. Unless the level comes out as the maximum
granted, the power heeds the step. -/
theorem controlMsPower_heeds (lchan : LogicalChannel) (params : PowerParams) (band : Band)
    (level : Nat) (received : Int) (controlled : lchan.msPower.fixed = false) :
    let delta := (lchan.msPower.delta params received).1
    let after := (lchan.controlMsPower params band level received).2.msPower
    delta ≤ params.raiseStep.toNat ∧ -params.lowerStep.toNat ≤ delta ∧
      (after.current ≠ lchan.msPower.max →
        Heeds delta (band.power level) (band.power after.current)) := by
  intro delta after
  obtain ⟨least, most⟩ := lchan.msPower.delta_within params received
  refine ⟨most, least, fun other => ?_⟩
  obtain ⟨current, -⟩ := controlMsPower_granted params band level received controlled
  have chosen : after.current = band.level (lchan.askedPower params band level received) := by
    have current : after.current = _ := current
    omega
  rw [chosen]
  exact band.level_heeds level delta

theorem controlMsPower_heeds_between :
    let lchan := { fresh ⟨0, 2, 0⟩ .tchF .tchF .speechV1 with msPower := .granted 5 2 }
    let params := { PowerParams.default with lowerStep := 3 }
    let after := (lchan.controlMsPower params .gsm900 5 (-40)).2.msPower
    lchan.msPower.fixed = false ∧ after.current ≠ 2 ∧ Heeds (-3) 33 (Band.power .gsm900 after.current) := by
  intro lchan params after
  have other : after.current ≠ 2 := by decide
  obtain ⟨-, -, heeds⟩ := controlMsPower_heeds lchan params .gsm900 5 (-40) rfl
  exact ⟨rfl, other, heeds other⟩

end LogicalChannel

end BaseStation
