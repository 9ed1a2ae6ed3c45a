import BaseStation.Proofs.Lchan.CheckedRuns
import BaseStation.Proofs.Lchan.PowerLimit

namespace BaseStation

namespace Lchan

inductive AdvanceControl.Step (interval : Nat) (before after : AdvanceControl) : Prop
  | skipped (left : 0 < before.skip) (rest : after = { before with skip := before.skip - 1 })
  | adjusted (due : before.skip = 0) (skip : after.skip = interval)
      (later : after.current ≤ before.current + 1) (earlier : before.current ≤ after.current + 1)
      (limited : before.current ≤ maxAdvance → after.current ≤ maxAdvance)

/-- What was granted still stands: the limit, and the value itself where no control was granted. -/
structure PowerControl.Keeps (granted control : PowerControl) : Prop where
  max : control.max = granted.max
  fixed : control.fixed = granted.fixed
  current : granted.fixed = true → control.current = granted.current

/-- What a valid report makes of a reduction under control. Of a period with discontinuous transmission
on the downlink the quality over the sub set counts. -/
def ReductionStep (params : PowerParams) (downlinkDtx : Bool) :
    Option Sacch.Results → Nat → Nat → Prop
  | none, before, after => after = before
  | some results, before, after =>
    if 0 < (if downlinkDtx then results.qualitySub else results.qualityFull) then
      after = before / 2
    else after ≤ before + params.lowerStep.toNat ∧ before ≤ after + params.raiseStep.toNat

structure PowerControl.Reduces (before : PowerControl) (params : PowerParams) (downlinkDtx : Bool)
    (valid : Option Sacch.Results) (after : PowerControl) : Prop where
  keeps : before.Keeps after
  le_max : before.current ≤ before.max → after.current ≤ before.max
  step : before.fixed = false → before.current ≤ before.max →
    ReductionStep params downlinkDtx valid before.current after.current

/-- Parameters within what an activation grants. Where it grants no maximum the value is its own. -/
structure Activation.Allows (activation : Activation) (params : TransmitParams) : Prop where
  timingAdvance : params.timingAdvance ≤ 63
  bsReduction : ∀ max, activation.bsMax = some max → params.bsReduction ≤ max.toNat
  constantReduction : activation.bsMax = none → params.bsReduction = activation.bsReduction.toNat
  constantLevel : activation.msMax = none → params.msLevel = activation.msLevel.toNat

namespace AdvanceControl.Step

variable {interval : Nat} {before after : AdvanceControl}

theorem near (step : Step interval before after) :
    after.current ≤ before.current + 1 ∧ before.current ≤ after.current + 1 := by
  cases step with
  | skipped left rest => rw [rest]; exact ⟨Nat.le_succ _, Nat.le_succ _⟩
  | adjusted due skip later earlier limited => exact ⟨later, earlier⟩

theorem le_max (step : Step interval before after) (within : before.current ≤ maxAdvance) :
    after.current ≤ maxAdvance := by
  cases step with
  | skipped left rest => rw [rest]; exact within
  | adjusted due skip later earlier limited => exact limited within

theorem skip_le (step : Step interval before after) : before.skip ≤ after.skip + 1 := by
  cases step with
  | skipped left rest => rw [rest]; dsimp only; omega
  | adjusted due skip later earlier limited => omega

theorem of_ne (step : Step interval before after) (changed : after.current ≠ before.current) :
    before.skip = 0 ∧ after.skip = interval := by
  cases step with
  | skipped left rest => rw [rest] at changed; exact absurd rfl changed
  | adjusted due skip later earlier limited => exact ⟨due, skip⟩

end AdvanceControl.Step

namespace PowerControl

variable {granted control after : PowerControl}

theorem Keeps.trans (first : granted.Keeps control) (second : control.Keeps after) :
    granted.Keeps after where
  max := second.max.trans first.max
  fixed := second.fixed.trans first.fixed
  current constant := (second.current (first.fixed.trans constant)).trans (first.current constant)

theorem Keeps.refl (granted : PowerControl) : granted.Keeps granted := ⟨rfl, rfl, fun _ => rfl⟩

theorem keeps_of_controlled (controlled : granted.fixed = false) (max : control.max = granted.max)
    (fixed : control.fixed = granted.fixed) : granted.Keeps control :=
  ⟨max, fixed, fun constant => absurd (controlled.symm.trans constant) (by decide)⟩

end PowerControl

end Lchan

namespace LogicalChannel

open Lchan

def MovesAdvance (lchan : LogicalChannel) (operation : Operation) : Prop :=
  (lchan.perform operation).advance.current ≠ lchan.advance.current

instance (lchan : LogicalChannel) (operation : Operation) : Decidable (lchan.MovesAdvance operation) :=
  inferInstanceAs (Decidable (_ ≠ _))

def validReport (data : Option (List UInt8)) : Option Sacch.Results :=
  ((received data).bind (·.results?)).filter (·.valid)

structure BlockStep (before : LogicalChannel) (config : SiteConfig) (valid : Option Sacch.Results)
    (after : LogicalChannel) : Prop where
  advance : before.advance.Step config.advanceInterval.toNat after.advance
  msPower : before.msPower.Keeps after.msPower
  bsPower : before.bsPower.Reduces config.downlink before.downlinkDtx valid after.bsPower

variable (lchan : LogicalChannel)

theorem controlAdvance_step (interval : Nat) (offset : Int) :
    lchan.advance.Step interval (lchan.controlAdvance interval offset).2.advance := by
  by_cases skips : 0 < lchan.advance.skip
  · rw [controlAdvance_skipping skips]
    exact .skipped skips rfl
  · rw [controlAdvance_evaluating skips]
    have moved := adjusted_cases lchan.advance.current offset
    refine .adjusted (Nat.eq_zero_of_not_pos skips) rfl ?_ ?_ ?_
    · show adjusted _ _ ≤ _
      omega
    · show _ ≤ adjusted _ _ + 1
      omega
    · intro within
      show adjusted _ _ ≤ _
      omega

theorem controlMsPower_keeps (params : PowerParams) (band : Band) (level : Nat) (received : Int) :
    lchan.msPower.Keeps (lchan.controlMsPower params band level received).2.msPower := by
  unfold controlMsPower
  by_cases fixed : lchan.msPower.fixed = true
  · rw [if_pos fixed]
    exact .refl _
  · have filtered := @delta_grant params lchan.msPower received
    rw [if_neg fixed]
    exact PowerControl.keeps_of_controlled (eq_false_of_ne_true fixed) filtered.1 filtered.2

theorem controlBsPower_reduces (params : PowerParams) (report : Option Sacch.Results) :
    lchan.bsPower.Reduces params lchan.downlinkDtx (report.filter (·.valid))
      (lchan.controlBsPower params report).2.bsPower := by
  unfold controlBsPower
  cases fixed : lchan.bsPower.fixed with
  | true => exact ⟨.refl _, id, fun controlled => absurd (fixed.symm.trans controlled) (by decide)⟩
  | false =>
    cases report.filter (·.valid) with
    | none => exact ⟨.refl _, id, fun _ _ => rfl⟩
    | some results =>
      dsimp only
      generalize heard : (if lchan.downlinkDtx = true then (results.levelSub, results.qualitySub)
        else (results.levelFull, results.qualityFull)) = levels
      obtain ⟨level, quality⟩ := levels
      have counts : (if lchan.downlinkDtx then results.qualitySub else results.qualityFull) = quality := by
        rw [show quality = (level, quality).2 from rfl, ← heard]
        split <;> rfl
      by_cases errors : 0 < quality
      · rw [if_pos errors]
        refine ⟨PowerControl.keeps_of_controlled fixed rfl rfl, fun within => ?_, fun _ _ => ?_⟩
        · dsimp only
          omega
        · rw [ReductionStep, counts, if_pos errors]
      · obtain ⟨max, same⟩ :=
          @delta_grant params lchan.bsPower (Radio.dbmOfLevel level.toNat)
        have delta := lchan.bsPower.delta_within params (Radio.dbmOfLevel level.toNat)
        rw [if_neg errors]
        refine ⟨PowerControl.keeps_of_controlled fixed max same, fun _ => ?_, fun _ within => ?_⟩
        · dsimp only
          omega
        · rw [ReductionStep, counts, if_neg errors]
          dsimp only
          omega

theorem runLoops_step (config : SiteConfig) (block : Option Sacch.Block) :
    lchan.BlockStep config ((block.bind (·.results?)).filter (·.valid))
      (lchan.runLoops config block) := by
  have reduces := lchan.controlBsPower_reduces config.downlink
    ((block.bind (·.results?)).filter (·.valid))
  -- the loop is given the valid report, and filters it once more
  simp only [Option.filter_filter, Bool.and_self] at reduces
  rw [runLoops_eq]
  exact ⟨lchan.controlAdvance_step .., lchan.controlMsPower_keeps .., reduces⟩

theorem handleSacch_step (config : SiteConfig) (data : Option (List UInt8)) :
    lchan.BlockStep config (validReport data) (lchan.handleSacch config data).2.2 := by
  unfold handleSacch validReport
  generalize received data = block
  have step := (lchan.withHeader block).countResult.runLoops_step config block
  -- keeping the header, counting the result and starting the next period leave the loops alone
  cases block with
  | none | some block => exact ⟨step.advance, step.msPower, step.bsPower⟩

variable {operation : Operation}

theorem perform_writes (other : operation.isSacch = false) :
    ∃ measurement downlinkDtx msOffset propagationOffset, lchan.perform operation = { lchan with
      measurement := measurement
      downlinkDtx := downlinkDtx
      msOffset := msOffset
      propagationOffset := propagationOffset } := by
  cases operation with
  | record sample frame =>
    obtain ⟨measurement, written⟩ := lchan.recorded_writes sample frame
    exact ⟨measurement, _, _, _, written⟩
  | compute frame =>
    obtain ⟨measurement, written⟩ := lchan.compute_writes frame
    exact ⟨measurement, _, _, _, written⟩
  | process sample frame =>
    obtain ⟨measurement, written⟩ := lchan.process_writes sample frame
    exact ⟨measurement, _, _, _, written⟩
  | downlinkDtx | setOffsets ms propagation => exact ⟨_, _, _, _, rfl⟩
  | sacch config data => cases other

variable {lchan}

theorem transmitParams_perform (other : operation.isSacch = false) :
    (lchan.perform operation).transmitParams = lchan.transmitParams := by
  obtain ⟨_, _, _, _, written⟩ := lchan.perform_writes other
  rw [written]
  rfl

theorem eq_sacch (block : operation.isSacch = true) : ∃ config data, operation = .sacch config data := by
  cases operation with
  | sacch config data => exact ⟨config, data, rfl⟩
  | record | compute | process | downlinkDtx | setOffsets => cases block

/-- The loops hold what was granted, within its bounds. -/
structure Regulated (activation : Activation) (lchan : LogicalChannel) : Prop where
  advance : lchan.advance.current ≤ maxAdvance
  msPower : (PowerControl.ofGrant activation.msLevel activation.msMax).Keeps lchan.msPower
  bsPower : (PowerControl.ofGrant activation.bsReduction activation.bsMax).Keeps lchan.bsPower
  reduction : lchan.bsPower.current ≤ lchan.bsPower.max

namespace Regulated

variable {activation : Activation}

theorem ofActivation
    (within : ∀ max, activation.bsMax = some max → activation.bsReduction ≤ max) :
    Regulated activation (.ofActivation activation) := by
  refine ⟨Nat.min_le_right .., .refl _, .refl _, ?_⟩
  unfold LogicalChannel.ofActivation PowerControl.ofGrant
  cases limit : activation.bsMax with
  | none => exact Nat.le_refl _
  | some max => exact within max limit

theorem perform (regulated : lchan.Regulated activation) (operation : Operation) :
    (lchan.perform operation).Regulated activation := by
  cases kind : operation.isSacch with
  | false =>
    obtain ⟨_, _, _, _, written⟩ := lchan.perform_writes kind
    rw [written]
    exact { regulated with }
  | true =>
    obtain ⟨config, data, rfl⟩ := eq_sacch kind
    have step := lchan.handleSacch_step config data
    exact {
      advance := step.advance.le_max regulated.advance
      msPower := regulated.msPower.trans step.msPower
      bsPower := regulated.bsPower.trans step.bsPower.keeps
      reduction := step.bsPower.keeps.max ▸ step.bsPower.le_max regulated.reduction }

theorem allows (regulated : lchan.Regulated activation) : activation.Allows lchan.transmitParams where
  timingAdvance := regulated.advance
  bsReduction max limit := by
    have within := regulated.reduction
    rw [regulated.bsPower.max, limit] at within
    exact within
  constantReduction unlimited := by
    have constant := regulated.bsPower.current
    rw [unlimited] at constant
    exact constant rfl
  constantLevel unlimited := by
    have constant := regulated.msPower.current
    rw [unlimited] at constant
    exact constant rfl

end Regulated

/-- Of the blocks to skip no operation takes off more than one, and only a block takes off that. -/
theorem skip_le_foldl (lchan : LogicalChannel) (operations : List Operation) :
    lchan.advance.skip ≤
      (operations.foldl perform lchan).advance.skip + operations.countP (·.isSacch) := by
  induction operations generalizing lchan with
  | nil => exact Nat.le_refl _
  | cons operation rest ih =>
    have later := ih (lchan.perform operation)
    rw [List.foldl_cons, List.countP_cons]
    cases kind : operation.isSacch with
    | false =>
      obtain ⟨_, _, _, _, written⟩ := lchan.perform_writes kind
      have same : (lchan.perform operation).advance = lchan.advance := by rw [written]
      rw [same] at later
      exact later
    | true =>
      obtain ⟨config, data, rfl⟩ := eq_sacch kind
      have step : lchan.advance.skip ≤ (lchan.perform (.sacch config data)).advance.skip + 1 :=
        (lchan.handleSacch_step config data).advance.skip_le
      rw [if_pos rfl]
      omega

theorem MovesAdvance.block (moves : lchan.MovesAdvance operation) :
    lchan.advance.skip = 0 ∧ ∃ config data, operation = .sacch config data ∧
      (lchan.perform operation).advance.skip = config.advanceInterval.toNat := by
  cases kind : operation.isSacch with
  | false =>
    obtain ⟨_, _, _, _, written⟩ := lchan.perform_writes kind
    exact absurd (by rw [written]) moves
  | true =>
    obtain ⟨config, data, rfl⟩ := eq_sacch kind
    obtain ⟨due, skip⟩ := (lchan.handleSacch_step config data).advance.of_ne moves
    exact ⟨due, config, data, rfl, skip⟩

theorem MovesAdvance.spaced {first second : Operation} {between : List Operation}
    (moves : lchan.MovesAdvance first)
    (again : ((first :: between).foldl LogicalChannel.perform lchan).MovesAdvance second) :
    ∃ config data, first = .sacch config data ∧
      config.advanceInterval.toNat + 1 ≤ (between ++ [second]).countP (·.isSacch) := by
  obtain ⟨-, config, data, block, skip⟩ := moves.block
  obtain ⟨due, _, _, last, -⟩ := again.block
  -- the first block left the interval to skip, and nothing of it is left before the second
  have left := skip_le_foldl (lchan.perform first) between
  have counts : [second].countP (·.isSacch) = 1 := by rw [last]; rfl
  rw [List.foldl_cons] at due
  refine ⟨config, data, block, ?_⟩
  rw [List.countP_append, counts]
  omega

end LogicalChannel

namespace Service

open Lchan LogicalChannel

/-- Whatever an activated channel is asked to do, its transmit parameters stay within what the
activation grants. Only blocks change them: the timing advance by at most one, and not again before
the interval has passed, and the reduction as the block's report says. -/
theorem transmits_in_range (activation : Activation)
    (within : ∀ max, activation.bsMax = some max → activation.bsReduction ≤ max)
    (operations : List Operation) :
    let lchan := (after activation operations).lchan
    activation.Allows lchan.transmitParams
      ∧ (∀ operation, operation.isSacch = false →
        (lchan.perform operation).transmitParams = lchan.transmitParams)
      ∧ (∀ config data,
        let params := lchan.transmitParams
        let changed := (lchan.handleSacch config data).2.2.transmitParams
        changed.timingAdvance ≤ params.timingAdvance + 1
          ∧ params.timingAdvance ≤ changed.timingAdvance + 1
          ∧ (activation.bsMax ≠ none → ReductionStep config.downlink lchan.downlinkDtx
            (validReport data) params.bsReduction changed.bsReduction))
      ∧ ∀ first between second, lchan.MovesAdvance first →
        (after activation (operations ++ first :: between)).lchan.MovesAdvance second →
        ∃ config data, first = .sacch config data ∧
          config.advanceInterval.toNat + 1 ≤ (between ++ [second]).countP (·.isSacch) := by
  intro lchan
  have regulated : lchan.Regulated activation := by
    rw [show lchan = _ from lchan_after activation operations]
    exact List.foldlRecOn operations perform (.ofActivation within)
      fun _ regulated operation _ => regulated.perform operation
  refine ⟨regulated.allows, fun _ other => transmitParams_perform other, fun config data => ?_,
    fun first between second moves again => ?_⟩
  · have step := lchan.handleSacch_step config data
    refine ⟨step.advance.near.1, step.advance.near.2, fun granted => ?_⟩
    refine step.bsPower.step ?_ regulated.reduction
    rw [regulated.bsPower.fixed]
    obtain ⟨max, limit⟩ := Option.ne_none_iff_exists'.mp granted
    rw [limit]
    rfl
  · rw [lchan_after, List.foldl_append, ← lchan_after] at again
    exact moves.spaced again

theorem transmits_in_range_spaced :
    let activation : Activation :=
      ⟨⟨0, 2, 0⟩, .tchF, .tchF, .speechV1, 5, none, 9, some 12, 200, .none, .none⟩
    let config : SiteConfig := { SiteConfig.ofHosts ["bsc"] with advanceInterval := 1 }
    let errors := Sacch.Block.encodeReport .zero ⟨false, false, 30, true, 30, 0, 3⟩
    let before : List Operation := [.process ⟨0, 80, 0, -300, false⟩ 38, .downlinkDtx]
    let lost : Operation := .sacch config none
    let lchan := (after activation before).lchan
    activation.Allows lchan.transmitParams
      ∧ lchan.transmitParams.timingAdvance = 63
      ∧ (lchan.handleSacch config (some errors)).2.2.transmitParams.bsReduction = 9 / 2
      ∧ lchan.MovesAdvance lost
      ∧ (after activation (before ++ [lost, lost])).lchan.MovesAdvance lost
      ∧ config.advanceInterval.toNat + 1 ≤ [lost, lost].countP (·.isSacch) := by
  intro activation config errors before lost lchan
  obtain ⟨allows, -, steps, spaced⟩ :=
    transmits_in_range activation (fun max limit => by cases limit; decide) before
  have halved := (steps config (some errors)).2.2 (by rintro ⟨⟩)
  have moves : lchan.MovesAdvance lost := by decide
  have again : (after activation (before ++ [lost, lost])).lchan.MovesAdvance lost := by decide
  obtain ⟨_, _, same, apart⟩ := spaced lost [lost] lost moves again
  have same : Operation.sacch config none = .sacch _ _ := same
  injection same with same
  rw [← same] at apart
  exact ⟨allows, by decide, halved, moves, again, apart⟩

end Service

end BaseStation
