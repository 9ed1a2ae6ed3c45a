import BaseStation.Proofs.Lchan.Settling
import BaseStation.Proofs.Lchan.TransmitRange

namespace BaseStation

namespace Lchan

def Operation.handled? : Operation → Option (SiteConfig × Option (List UInt8))
  | sacch config data => some (config, data)
  | record _ _ | compute _ | process _ _ | downlinkDtx | setOffsets _ _ => none

def unmeasuredLevel : Int := -110

/-- The power level after a block, if nothing was measured. The step is taken from the level that the block
says was used, or from the one in force if the block was lost. -/
def blindLevel (most current : Nat) (handled : SiteConfig × Option (List UInt8)) : Nat :=
  let (config, data) := handled
  let used := (LogicalChannel.received data).elim current (·.header.msPower.toNat)
  let asked := config.bts.band.power used + stepToward config.uplink unmeasuredLevel
  max (config.bts.band.level (max asked 0)) most

def blindLevels (most start : Nat) (blocks : List (SiteConfig × Option (List UInt8))) : Nat :=
  blocks.foldl (blindLevel most) start

theorem blindLevels_concat (most start : Nat) (blocks : List (SiteConfig × Option (List UInt8)))
    (last : SiteConfig × Option (List UInt8)) :
    blindLevels most start (blocks ++ [last]) = blindLevel most (blindLevels most start blocks) last := by
  rw [blindLevels, List.foldl_append]
  rfl

theorem blindLevels_fixed {most start : Nat} {blocks : List (SiteConfig × Option (List UInt8))}
    (still : ∀ handled ∈ blocks, blindLevel most start handled = start) :
    blindLevels most start blocks = start := by
  unfold blindLevels
  induction blocks with
  | nil => rfl
  | cons handled rest ih =>
    obtain ⟨first, later⟩ := List.forall_mem_cons.mp still
    rw [List.foldl_cons, first]
    exact ih later

def PowerControl.Blind (control : PowerControl) : Prop :=
  ∀ average, control.average = some average → average = unmeasuredLevel * 100

theorem nextAverage_blind {control : PowerControl} (blind : control.Blind) (weight : Nat) :
    nextAverage weight control.average unmeasuredLevel = unmeasuredLevel * 100 := by
  unfold nextAverage
  cases seeded : control.average with
  | none => rfl
  | some average =>
    obtain rfl := blind average seeded
    have weighted : (weight * (unmeasuredLevel * 100) : Int).tdiv 100 = weight * unmeasuredLevel := by
      rw [← Int.mul_assoc]
      exact Int.mul_tdiv_cancel _ (by decide)
    dsimp only
    rw [weighted]
    omega

theorem PowerControl.Blind.delta {control : PowerControl} (blind : control.Blind) (params : PowerParams) :
    (control.delta params unmeasuredLevel).1 = stepToward params unmeasuredLevel ∧
      (control.delta params unmeasuredLevel).2.Blind := by
  cases filter : params.filter with
  | none =>
    rw [delta_of_no_filter filter]
    exact ⟨rfl, blind⟩
  | some weight =>
    rw [delta_of_filter filter, nextAverage_blind blind]
    refine ⟨rfl, ?_⟩
    rintro average ⟨⟩
    rfl

end Lchan

namespace LogicalChannel

open Lchan

variable {lchan : LogicalChannel} {operation : Operation} {most level : Nat}

structure Unmeasured (most level : Nat) (lchan : LogicalChannel) : Prop where
  uplink : lchan.measurement.uplink = .zero
  controlled : lchan.msPower.fixed = false
  max : lchan.msPower.max = most
  current : lchan.msPower.current = level
  blind : lchan.msPower.Blind

theorem handleSacch_msPower (uplink : lchan.measurement.uplink = .zero) (config : SiteConfig)
    (data : Option (List UInt8)) :
    (lchan.handleSacch config data).2.2.msPower =
      (lchan.controlMsPower config.uplink config.bts.band (lchan.inUse (received data)).1
        unmeasuredLevel).2.msPower := by
  let seen := (lchan.withHeader (received data)).countResult
  have sameUplink : seen.measurement.uplink = .zero := by
    rw [← uplink]
    simp only [seen, withHeader]
    split <;> rfl
  have samePower : seen.msPower = lchan.msPower := by
    simp only [seen, withHeader]
    split <;> rfl
  have sameUse : seen.inUse (received data) = lchan.inUse (received data) := by
    simp only [seen, withHeader]
    cases received data <;> rfl
  have after : (lchan.handleSacch config data).2.2 = (seen.runLoops config (received data)).startPeriod := rfl
  have nothing : UplinkResult.zero.sub = UplinkResult.zero.full := rfl
  rw [after, runLoops_eq, sameUplink, sameUse, nothing, ite_self]
  exact controlMsPower_congr samePower

theorem Unmeasured.handleSacch (unmeasured : lchan.Unmeasured most level) (config : SiteConfig)
    (data : Option (List UInt8)) :
    (lchan.handleSacch config data).2.2.Unmeasured most (blindLevel most level (config, data)) := by
  obtain ⟨uplink, controlled, max, current, blind⟩ := unmeasured
  have driven := handleSacch_msPower uplink config data
  have used : (lchan.inUse (received data)).1 = (received data).elim level (·.header.msPower.toNat) := by
    rw [← current]
    cases received data <;> rfl
  obtain ⟨step, still⟩ := blind.delta config.uplink
  obtain ⟨granted, fixed⟩ := @delta_grant config.uplink lchan.msPower unmeasuredLevel
  rw [controlMsPower, if_neg (by rw [controlled]; decide)] at driven
  refine ⟨?_, ?_, ?_, ?_, ?_⟩
  · obtain ⟨_, _, _, _, _, _, _, written⟩ := lchan.handleSacch_writes config data
    rw [written]
    exact uplink
  all_goals rw [driven]
  · exact fixed.trans controlled
  · exact granted.trans max
  · simp only [blindLevel, step, used, max]
  · exact still

theorem compute_unmeasured {frame : Nat} (early : (lchan.compute frame).2.measurement.resultValid = false) :
    (lchan.compute frame).2 = lchan := by
  by_cases due : lchan.isPeriodEnd frame = true ∧ lchan.measurement.computedFrame ≠ some frame
  · rw [compute_of_due due.1 due.2] at early
    have valid : (withStatistics (averaged lchan.measurement lchan.expected lchan.tally)
        lchan.expected).resultValid = true := by
      unfold withStatistics
      split <;> rfl
    cases valid.symm.trans early
  · rw [compute, if_neg due]

theorem recorded_measurement (lchan : LogicalChannel) (sample : Sample) (frame : Nat) :
    (lchan.recorded sample frame).measurement.resultValid = lchan.measurement.resultValid ∧
      (lchan.recorded sample frame).measurement.uplink = lchan.measurement.uplink := by
  rcases lchan.record_cases sample frame with ⟨_, _, recorded⟩ | ⟨_, recorded⟩ <;>
    rw [recorded] <;> exact ⟨rfl, rfl⟩

/-- As long as no period is complete, nothing but a block touches what the loop works on. -/
theorem perform_unmeasured (other : operation.isSacch = false)
    (early : (lchan.perform operation).measurement.resultValid = false) :
    lchan.measurement.resultValid = false ∧
      (lchan.perform operation).measurement.uplink = lchan.measurement.uplink := by
  cases operation with
  | record sample frame =>
    obtain ⟨valid, uplink⟩ := lchan.recorded_measurement sample frame
    exact ⟨valid ▸ early, uplink⟩
  | compute frame =>
    have same : lchan.perform (.compute frame) = lchan := compute_unmeasured early
    rw [same] at early ⊢
    exact ⟨early, rfl⟩
  | process sample frame =>
    obtain ⟨valid, uplink⟩ := lchan.recorded_measurement sample frame
    rw [perform, process_eq] at early ⊢
    have same := compute_unmeasured early
    rw [same] at early ⊢
    exact ⟨valid ▸ early, uplink⟩
  | downlinkDtx | setOffsets ms propagation => exact ⟨early, rfl⟩
  | sacch config data => cases other

theorem resultValid_perform (early : (lchan.perform operation).measurement.resultValid = false) :
    lchan.measurement.resultValid = false := by
  cases kind : operation.isSacch with
  | false => exact (perform_unmeasured kind early).1
  | true =>
    obtain ⟨config, data, rfl⟩ := eq_sacch kind
    obtain ⟨_, _, _, _, _, _, _, written⟩ := lchan.handleSacch_writes config data
    rw [perform, written] at early
    exact early

theorem resultValid_foldl (operations : List Operation)
    (early : (operations.foldl perform lchan).measurement.resultValid = false) :
    lchan.measurement.resultValid = false := by
  induction operations generalizing lchan with
  | nil => exact early
  | cons operation rest ih => exact resultValid_perform (ih early)

theorem Unmeasured.perform (unmeasured : lchan.Unmeasured most level)
    (early : (lchan.perform operation).measurement.resultValid = false) :
    (lchan.perform operation).Unmeasured most (blindLevels most level operation.handled?.toList) := by
  cases kind : operation.isSacch with
  | true =>
    obtain ⟨config, data, rfl⟩ := eq_sacch kind
    exact unmeasured.handleSacch config data
  | false =>
    have silent : operation.handled? = none := by
      cases operation with
      | sacch config data => cases kind
      | record | compute | process | downlinkDtx | setOffsets => rfl
    have uplink := (perform_unmeasured kind early).2
    obtain ⟨_, _, _, _, written⟩ := lchan.perform_writes kind
    rw [written] at uplink ⊢
    rw [silent]
    exact { unmeasured with uplink := uplink.trans unmeasured.uplink }

theorem Unmeasured.run (unmeasured : lchan.Unmeasured most level) (operations : List Operation)
    (early : (operations.foldl LogicalChannel.perform lchan).measurement.resultValid = false) :
    (operations.foldl LogicalChannel.perform lchan).Unmeasured most
      (blindLevels most level (operations.filterMap (·.handled?))) := by
  induction operations generalizing lchan level with
  | nil => exact unmeasured
  | cons operation rest ih =>
    have later := ih (unmeasured.perform (resultValid_foldl rest early)) early
    rw [filterMap_cons_toList, blindLevels, List.foldl_append]
    exact later

theorem unmeasured_ofActivation {activation : Activation} {most : UInt8}
    (granted : activation.msMax = some most) :
    (ofActivation activation).Unmeasured most.toNat activation.msLevel.toNat := by
  have control : (ofActivation activation).msPower = .granted activation.msLevel.toNat most.toNat := by
    rw [ofActivation, granted]
    rfl
  refine ⟨rfl, ?_, ?_, ?_, ?_⟩
  all_goals rw [control]
  · rfl
  · rfl
  · rfl
  · rintro average ⟨⟩

end LogicalChannel

namespace Service

open Lchan LogicalChannel

def msLevel (activation : Activation) (operations : List Operation) : Nat :=
  (after activation operations).lchan.msPower.current

variable {activation : Activation} {most : UInt8} {operations : List Operation}

theorem msLevel_unmeasured (granted : activation.msMax = some most)
    (early : (after activation operations).lchan.measurement.resultValid = false) :
    msLevel activation operations =
      blindLevels most.toNat activation.msLevel.toNat (operations.filterMap (·.handled?)) := by
  rw [lchan_after] at early
  rw [msLevel, lchan_after]
  exact ((unmeasured_ofActivation granted).run operations early).current

theorem resultValid_before {earlier : List Operation} (initial : earlier <+: operations)
    (early : (after activation operations).lchan.measurement.resultValid = false) :
    (after activation earlier).lchan.measurement.resultValid = false := by
  obtain ⟨later, rfl⟩ := initial
  rw [lchan_after, List.foldl_append] at early
  rw [lchan_after]
  exact resultValid_foldl later early

/-- Before the first period is complete, every block moves the power as if it had been received at -110 dBm.
The mobile station stays at the level of the activation just if none of the blocks asks for another. -/
theorem blind_before_first_period (activation : Activation) (most : UInt8) (operations : List Operation)
    (granted : activation.msMax = some most)
    (early : (after activation operations).lchan.measurement.resultValid = false) :
    msLevel activation operations =
        blindLevels most.toNat activation.msLevel.toNat (operations.filterMap (·.handled?)) ∧
      ((∀ earlier, earlier <+: operations → msLevel activation earlier = activation.msLevel.toNat) ↔
        ∀ handled ∈ operations.filterMap (·.handled?),
          blindLevel most.toNat activation.msLevel.toNat handled = activation.msLevel.toNat) := by
  refine ⟨msLevel_unmeasured granted early, fun stays handled mem => ?_, fun still earlier initial => ?_⟩
  -- the level is the same right before a block and right after it, so that the block asks for no other
  · obtain ⟨operation, mem, block⟩ := List.mem_filterMap.mp mem
    obtain ⟨before, behind, rfl⟩ := List.append_of_mem mem
    have first : before <+: before ++ operation :: behind := List.prefix_append ..
    have next : before ++ [operation] <+: before ++ operation :: behind := ⟨behind, by simp⟩
    have level := msLevel_unmeasured granted (resultValid_before first early)
    have level' := msLevel_unmeasured granted (resultValid_before next early)
    rw [List.filterMap_append, List.filterMap_cons_some block, List.filterMap_nil, blindLevels_concat, ← level,
      stays _ first, stays _ next] at level'
    exact level'.symm
  · rw [msLevel_unmeasured granted (resultValid_before initial early)]
    obtain ⟨later, rfl⟩ := initial
    refine blindLevels_fixed fun handled mem => still handled ?_
    rw [List.filterMap_append]
    exact List.mem_append_left _ mem

def grantedChannel : Activation :=
  ⟨⟨0, 2, 0⟩, .tchF, .tchF, .speechV1, 5, some 2, 0, none, 0, .none, .none⟩

theorem blind_before_first_period_lost :
    let operations : List Operation :=
      [.record ⟨0, 60, 200, 0, true⟩ 0, .sacch (.ofHosts []) none, .sacch (.ofHosts []) none]
    grantedChannel.msMax = some 2 ∧
      (after grantedChannel operations).lchan.measurement.resultValid = false ∧
      msLevel grantedChannel operations = 2 := by
  intro operations
  have early : (after grantedChannel operations).lchan.measurement.resultValid = false := rfl
  refine ⟨rfl, early, ?_⟩
  rw [(blind_before_first_period grantedChannel 2 operations rfl early).1]
  decide

/-- The level of the activation is not kept until the first period is complete: one lost block changes it. -/
theorem moves_before_first_period :
    ¬ ∀ (activation : Activation) (most : UInt8) (operations : List Operation),
      activation.msMax = some most →
        (after activation operations).lchan.measurement.resultValid = false →
          msLevel activation operations = activation.msLevel.toNat := by
  intro kept
  have stays := kept grantedChannel 2 [.sacch (.ofHosts []) none] rfl rfl
  revert stays
  decide

end Service

end BaseStation
