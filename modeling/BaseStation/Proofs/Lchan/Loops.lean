import BaseStation.Lchan.Averaging
import BaseStation.Lchan.SacchPeriod

namespace BaseStation

namespace Lchan

def adjusted (current : Nat) (offset : Int) : Nat :=
  if offset < -advanceThreshold ∧ 0 < current then current - 1
  else if advanceThreshold < offset ∧ current < maxAdvance then current + 1
  else current

theorem adjusted_cases (current : Nat) (offset : Int) :
    (0 < current ∧ adjusted current offset = current - 1) ∨
      (current < maxAdvance ∧ adjusted current offset = current + 1) ∨
      adjusted current offset = current := by
  unfold adjusted
  by_cases early : offset < -advanceThreshold ∧ 0 < current
  · rw [if_pos early]
    exact .inl ⟨early.2, rfl⟩
  · rw [if_neg early]
    by_cases late : advanceThreshold < offset ∧ current < maxAdvance
    · rw [if_pos late]
      exact .inr (.inl ⟨late.2, rfl⟩)
    · rw [if_neg late]
      exact .inr (.inr rfl)

end Lchan

namespace LogicalChannel

open Lchan

variable {lchan : LogicalChannel}

theorem controlAdvance_skipping (left : 0 < lchan.advance.skip) (interval : Nat) (offset : Int) :
    (lchan.controlAdvance interval offset).2 =
      { lchan with advance := { lchan.advance with skip := lchan.advance.skip - 1 } } := by
  unfold controlAdvance
  dsimp only
  rw [if_pos left]

theorem controlAdvance_evaluating (due : ¬ 0 < lchan.advance.skip) (interval : Nat) (offset : Int) :
    (lchan.controlAdvance interval offset).2 =
      { lchan with advance := ⟨adjusted lchan.advance.current offset, interval⟩ } := by
  unfold controlAdvance
  dsimp only
  rw [if_neg due]
  rfl

variable (lchan)

theorem controlAdvance_writes (interval : Nat) (offset : Int) :
    ∃ advance, (lchan.controlAdvance interval offset).2 = { lchan with advance := advance } := by
  by_cases left : 0 < lchan.advance.skip
  · exact ⟨_, controlAdvance_skipping left interval offset⟩
  · exact ⟨_, controlAdvance_evaluating left interval offset⟩

theorem controlMsPower_writes (params : PowerParams) (band : Band) (level : Nat) (received : Int) :
    ∃ msPower, (lchan.controlMsPower params band level received).2 =
      { lchan with msPower := msPower } := by
  unfold controlMsPower
  split
  · exact ⟨_, rfl⟩
  · exact ⟨_, rfl⟩

theorem controlBsPower_writes (params : PowerParams) (results : Option Sacch.Results) :
    ∃ bsPower, (lchan.controlBsPower params results).2 = { lchan with bsPower := bsPower } := by
  unfold controlBsPower
  split
  · exact ⟨_, rfl⟩
  · exact ⟨_, rfl⟩

theorem decideOverpower_writes (results : Sacch.Results) :
    ∃ active, lchan.decideOverpower results = { lchan with overpowerActive := active } := by
  unfold decideOverpower
  split
  · exact ⟨_, rfl⟩
  · exact ⟨_, rfl⟩

section

variable {lchan} {other : LogicalChannel} {params : PowerParams}

theorem controlMsPower_congr {band : Band} {level : Nat} {received : Int}
    (same : lchan.msPower = other.msPower) :
    (lchan.controlMsPower params band level received).2.msPower =
      (other.controlMsPower params band level received).2.msPower := by
  unfold controlMsPower
  rw [same]
  split
  · exact same
  · rfl

theorem controlBsPower_congr {results : Option Sacch.Results} (same : lchan.bsPower = other.bsPower)
    (dtx : lchan.downlinkDtx = other.downlinkDtx) :
    (lchan.controlBsPower params results).2.bsPower = (other.controlBsPower params results).2.bsPower := by
  unfold controlBsPower
  rw [same, dtx]
  cases other.bsPower.fixed with
  | true => exact same
  | false =>
    cases results.filter (·.valid) with
    | none => exact same
    | some results => rfl

theorem controlBsPower_none : (lchan.controlBsPower params none).2 = lchan := by
  unfold controlBsPower
  cases lchan.bsPower.fixed <;> rfl

theorem decideOverpower_congr {results : Sacch.Results} (granted : lchan.overpower = other.overpower)
    (same : lchan.overpowerActive = other.overpowerActive) :
    (lchan.decideOverpower results).overpowerActive = (other.decideOverpower results).overpowerActive := by
  unfold decideOverpower
  rw [granted, same]
  split
  · exact same
  · rfl

end

/-- The loops do not heed one another: each works on the channel as it was before them all. -/
theorem runLoops_eq (config : SiteConfig) (block : Option Sacch.Block) :
    let results := block.bind (·.results?)
    let valid := results.filter (·.valid)
    let uplink := lchan.measurement.uplink
    let reception := if (valid.map (·.dtxUsed)).getD true then uplink.sub else uplink.full
    lchan.runLoops config block = { lchan with
      advance := (lchan.controlAdvance config.advanceInterval.toNat
        lchan.measurement.timingOffset).2.advance
      msPower := (lchan.controlMsPower config.uplink config.bts.band (lchan.inUse block).1
        (Radio.dbmOfLevel reception.level)).2.msPower
      bsPower := (lchan.controlBsPower config.downlink valid).2.bsPower
      overpowerActive := (valid.elim lchan lchan.decideOverpower).overpowerActive
      repeatFacch := (lchan.decideRepeat results).repeatFacch } := by
  dsimp only
  unfold runLoops
  dsimp only
  obtain ⟨advance, advanced⟩ :=
    lchan.controlAdvance_writes config.advanceInterval.toNat lchan.measurement.timingOffset
  simp only [advanced]
  generalize Radio.dbmOfLevel _ = level
  obtain ⟨msPower, driven⟩ := controlMsPower_writes { lchan with advance := advance } config.uplink
    config.bts.band (lchan.inUse block).1 level
  have own : (lchan.controlMsPower config.uplink config.bts.band (lchan.inUse block).1 level).2.msPower =
      msPower := (controlMsPower_congr (by rfl)).trans (congrArg (·.msPower) driven)
  simp only [driven, own]
  cases (block.bind (·.results?)).filter (·.valid) with
  | none =>
    rw [controlBsPower_none]
    rfl
  | some results =>
    obtain ⟨bsPower, reduced⟩ := controlBsPower_writes
      { lchan with advance := advance, msPower := msPower } config.downlink (some results)
    have own : (lchan.controlBsPower config.downlink (some results)).2.bsPower = bsPower :=
      (controlBsPower_congr (by rfl) (by rfl)).trans (congrArg (·.bsPower) reduced)
    simp only [reduced, own]
    obtain ⟨active, decided⟩ := decideOverpower_writes
      { lchan with advance := advance, msPower := msPower, bsPower := bsPower } results
    have own : (lchan.decideOverpower results).overpowerActive = active :=
      (decideOverpower_congr (by rfl) (by rfl)).trans (congrArg (·.overpowerActive) decided)
    simp only [decided, Option.elim_some, own]
    rfl

theorem runLoops_writes (config : SiteConfig) (block : Option Sacch.Block) :
    ∃ advance msPower bsPower overpowerActive repeatFacch, lchan.runLoops config block =
      { lchan with
        advance := advance
        msPower := msPower
        bsPower := bsPower
        overpowerActive := overpowerActive
        repeatFacch := repeatFacch } :=
  ⟨_, _, _, _, _, lchan.runLoops_eq config block⟩

theorem handleSacch_writes (config : SiteConfig) (data : Option (List UInt8)) :
    ∃ advance msPower bsPower overpowerActive repeatFacch header headerValid,
      (lchan.handleSacch config data).2.2 = { lchan with
        advance := advance
        msPower := msPower
        bsPower := bsPower
        overpowerActive := overpowerActive
        repeatFacch := repeatFacch
        downlinkDtx := false
        msOffset := none
        propagationOffset := none
        measurement := { lchan.measurement with
          header := header
          headerValid := headerValid
          number := (lchan.measurement.number + 1) % 256
          statisticsValid := false } } := by
  let seen := (lchan.withHeader (received data)).countResult
  obtain ⟨_, _, _, _, _, run⟩ := seen.runLoops_writes config (received data)
  have kept : ∃ header headerValid, lchan.withHeader (received data) = { lchan with
      measurement := { lchan.measurement with header := header, headerValid := headerValid } } := by
    unfold withHeader
    split
    · exact ⟨_, _, rfl⟩
    · exact ⟨lchan.measurement.header, _, rfl⟩
  obtain ⟨header, headerValid, kept⟩ := kept
  have after : (lchan.handleSacch config data).2.2 =
      (seen.runLoops config (received data)).startPeriod := rfl
  rw [after, run]
  simp only [seen, kept]
  exact ⟨_, _, _, _, _, _, _, rfl⟩

theorem handleSacch_chan (config : SiteConfig) (data : Option (List UInt8)) :
    (lchan.handleSacch config data).2.2.chan = lchan.chan := by
  obtain ⟨_, _, _, _, _, _, _, written⟩ := lchan.handleSacch_writes config data
  rw [written]

theorem handleSacch_change (config : SiteConfig) (data : Option (List UInt8)) :
    (lchan.handleSacch config data).2.1 =
      if (lchan.handleSacch config data).2.2.transmitParams = lchan.transmitParams then none
      else some (lchan.handleSacch config data).2.2.transmitParams := rfl

theorem compute_writes (frame : Nat) :
    ∃ measurement, (lchan.compute frame).2 = { lchan with measurement := measurement } := by
  unfold compute
  split
  · exact ⟨_, rfl⟩
  · exact ⟨_, rfl⟩

theorem process_writes (sample : Sample) (frame : Nat) :
    ∃ measurement, (lchan.process sample frame).2 = { lchan with measurement := measurement } := by
  unfold process
  split
  · rename_i recorded record
    unfold LogicalChannel.record at record
    split at record
    · cases record
    · cases record
      obtain ⟨measurement, computed⟩ := compute_writes _ frame
      exact ⟨measurement, computed⟩
  · exact lchan.compute_writes frame

end LogicalChannel

end BaseStation
