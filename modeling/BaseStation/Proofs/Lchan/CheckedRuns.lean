import BaseStation.Proofs.Lchan.CheckedLoops
import BaseStation.Proofs.Lchan.CheckedPeriod
import BaseStation.Proofs.Sacch.RoundTrip

namespace BaseStation

open Unsigned (u32)
open Signed (i32)

namespace Sacch.Block

def checkedReportType (octets : List UInt8) : Checked (Option ReportType) := do
  let framing ← Checked.dropTo 2 octets
  if (← Checked.item framing 0) ≠ lapdmAddress then
    return none
  if (← Checked.item framing 1) ≠ lapdmControl then
    return none
  if (← Checked.item octets layer3Offset).toNat % 16 ≠ radioResource then
    return none
  return ReportType.ofCode? (← Checked.item octets (layer3Offset + 1))

def checkedReport (octets : List UInt8) : Checked (Except DecodeError (Option Report)) := do
  match ← checkedReportType octets with
  | some .measurement =>
    let results := Results.decode (← Checked.dropTo (layer3Offset + 2) octets)
    return results.map fun results => some ⟨.measurement, some results⟩
  | some .extended => return .ok (some ⟨.extended, none⟩)
  | none =>
    let _ ← Checked.slice 2 (layer3Offset + 2) octets
    return .ok none

def checkedDecode (octets : List UInt8) : Checked (Option Block) := do
  if octets.length ≠ length then
    return none
  match Header.decode octets, ← checkedReport octets with
  | .ok header, .ok report => return some ⟨header, report, octets⟩
  | _, _ => return none

def checkedLayer3 (block : Block) : Checked (Option (List UInt8)) := do
  match block.report with
  | some _ => return some (← Checked.dropTo layer3Offset block.octets)
  | none => return none

theorem ten_octets {octets : List UInt8} (sized : octets.length = length) :
    ∃ first advance address control extent discriminator code level quality last rest,
      octets = first :: advance :: address :: control :: extent :: discriminator :: code :: level
        :: quality :: last :: rest := by
  rcases octets with _ | ⟨first, _ | ⟨advance, _ | ⟨address, _ | ⟨control, _ | ⟨extent,
    _ | ⟨discriminator, _ | ⟨code, _ | ⟨level, _ | ⟨quality, _ | ⟨last, rest⟩⟩⟩⟩⟩⟩⟩⟩⟩⟩
  case cons.cons.cons.cons.cons.cons.cons.cons.cons.cons =>
    exact ⟨_, _, _, _, _, _, _, _, _, _, _, rfl⟩
  all_goals simp [length] at sized

theorem checkedReportType_ok {first advance address control extent discriminator code : UInt8}
    {rest : List UInt8} :
    checkedReportType
        (first :: advance :: address :: control :: extent :: discriminator :: code :: rest)
      = .ok (if address = lapdmAddress ∧ control = lapdmControl
          ∧ discriminator.toNat % 16 = radioResource then ReportType.ofCode? code else none) := by
  unfold checkedReportType
  by_cases addressed : address = lapdmAddress
  · by_cases unnumbered : control = lapdmControl
    · by_cases radio : discriminator.toNat % 16 = radioResource
      · simp [Checked.dropTo, Checked.item, layer3Offset, addressed, unnumbered, radio]
      · simp [Checked.dropTo, Checked.item, layer3Offset, addressed, unnumbered, radio]
    · simp [Checked.dropTo, Checked.item, addressed, unnumbered]
  · simp [Checked.dropTo, Checked.item, addressed]
    rfl

theorem checkedReport_ok {octets : List UInt8} (sized : octets.length = length) :
    checkedReport octets = .ok (.ok (reportOf (octets.drop 2))) := by
  obtain ⟨first, advance, address, control, extent, discriminator, code, level, quality, last, rest,
    rfl⟩ := ten_octets sized
  have past : layer3Offset + 2 ≤ length := by decide
  have sliced : Checked.slice 2 (layer3Offset + 2) (first :: advance :: address :: control :: extent
      :: discriminator :: code :: level :: quality :: last :: rest)
      = .ok [address, control, extent, discriminator, code] := if_pos ⟨by decide, sized ▸ past⟩
  unfold checkedReport
  rw [checkedReportType_ok, ok_bind]
  simp only [List.drop_succ_cons, List.drop_zero, reportOf]
  by_cases carries : address = lapdmAddress ∧ control = lapdmControl
      ∧ discriminator.toNat % 16 = radioResource
  · rw [if_pos carries, if_pos carries]
    cases ReportType.ofCode? code with
    | none =>
      dsimp only
      rw [sliced]
      rfl
    | some type =>
      cases type with
      | measurement =>
        dsimp only
        rw [Checked.dropTo_ok (sized ▸ past)]
        rfl
      | extended => rfl
  · rw [if_neg carries, if_neg carries]
    dsimp only
    rw [sliced]
    rfl

theorem checkedDecode_ok (octets : List UInt8) :
    checkedDecode octets = .ok (decode octets).toOption := by
  unfold checkedDecode decode
  by_cases sized : octets.length = length
  · rw [if_neg (not_not_intro sized), if_neg (not_not_intro sized), checkedReport_ok sized]
    cases Header.decode octets <;> rfl
  · rw [if_pos sized, if_pos sized]
    rfl

theorem checkedLayer3_ok {octets : List UInt8} {block : Block}
    (decoded : decode octets = .ok block) : block.checkedLayer3 = .ok block.layer3? := by
  obtain ⟨sized, -, -, same⟩ := decode_eq_ok decoded
  unfold checkedLayer3 layer3?
  cases block.report with
  | none => rfl
  | some report =>
    dsimp only
    rw [Checked.dropTo_ok (by rw [same, sized]; decide)]
    rfl

end Sacch.Block

namespace LogicalChannel

open Lchan

def checkedReceived (data : Option (List UInt8)) : Checked (Option Sacch.Block) :=
  match data with
  | some octets => Sacch.Block.checkedDecode octets
  | none => .ok none

def checkedTimingOffset (lchan : LogicalChannel) (advance : Nat) : Checked (Option Int) := do
  match lchan.msOffset.filter (0 ≤ ·), lchan.propagationOffset.filter (0 ≤ ·) with
  | some offset, _ => return some offset
  | none, some offset => return some (← i32.sub offset advance)
  | none, none => return none

def checkedResult (lchan : LogicalChannel) (block : Option Sacch.Block) :
    Checked MeasurementResult := do
  let layer3 ← match block with
    | some block => block.checkedLayer3
    | none => .ok none
  let timingOffset ← lchan.checkedTimingOffset (lchan.inUse block).2
  return { lchan.result block with layer3 := layer3, timingOffset := timingOffset }

def checkedLoops (lchan : LogicalChannel) (config : SiteConfig) (block : Option Sacch.Block) :
    Checked LogicalChannel := do
  let level := (lchan.inUse block).1
  let results := block.bind (·.results?)
  let valid := results.filter (·.valid)
  let uplink := lchan.measurement.uplink
  let reception :=
    if (valid.map (·.dtxUsed)).getD true then uplink.sub else uplink.full
  let received ← Radio.checkedDbmOfLevel reception.level
  let advanced ← lchan.checkedControlAdvance config.advanceInterval.toNat
    lchan.measurement.timingOffset
  let driven ← advanced.2.checkedControlMsPower config.uplink config.bts.band level received
  match valid with
  | some results' =>
    let reduced ← driven.2.checkedControlBsPower config.downlink (some results')
    return (reduced.2.decideOverpower results').decideRepeat results
  | none => return driven.2.decideRepeat results

def checkedSacch (lchan : LogicalChannel) (config : SiteConfig) (data : Option (List UInt8)) :
    Checked (MeasurementResult × Option TransmitParams × LogicalChannel) := do
  let block ← checkedReceived data
  let before := lchan.transmitParams
  let seen := lchan.withHeader block
  let result ← seen.checkedResult block
  let after := (← seen.countResult.checkedLoops config block).startPeriod
  return (result,
    if after.transmitParams = before then none else some after.transmitParams, after)

/-- What the channel holds has the widths declared for it. -/
structure InRange (lchan : LogicalChannel) : Prop where
  measurement : Narrow lchan.measurement
  controlled : lchan.Controlled
  propagationOffset : ∀ offset, lchan.propagationOffset = some offset → i32.Fits offset

variable {lchan : LogicalChannel} {config : SiteConfig}

theorem checkedReceived_ok (data : Option (List UInt8)) :
    checkedReceived data = .ok (received data) := by
  cases data with
  | none => rfl
  | some octets => exact Sacch.Block.checkedDecode_ok octets

theorem checkedTimingOffset_ok
    (fits : ∀ offset, lchan.propagationOffset = some offset → i32.Fits offset) {advance : Nat}
    (small : advance ≤ 255) :
    lchan.checkedTimingOffset advance = .ok (lchan.timingOffset? advance) := by
  unfold checkedTimingOffset timingOffset?
  cases lchan.msOffset.filter (0 ≤ ·) with
  | some offset => rfl
  | none =>
    cases told : lchan.propagationOffset.filter (0 ≤ ·) with
    | none => rfl
    | some offset =>
      obtain ⟨held, positive⟩ := Option.filter_eq_some_iff.mp told
      rw [decide_eq_true_eq] at positive
      have most := (fits offset held).2
      dsimp only
      simp only [Signed.max] at most
      rw [Signed.sub_ok (by simp only [Signed.Fits, Signed.max]; omega)]
      rfl

theorem Controlled.decide (controlled : lchan.Controlled) (results : Option Sacch.Results) :
    (lchan.decideRepeat results).Controlled := { controlled with }

theorem Controlled.overpower (controlled : lchan.Controlled) (results : Sacch.Results) :
    (lchan.decideOverpower results).Controlled := by
  obtain ⟨active, decided⟩ := lchan.decideOverpower_writes results
  rw [decided]
  exact { controlled with }

theorem Controlled.loops_ok (controlled : lchan.Controlled) (valid : config.validate = .ok ())
    (block : Option Sacch.Block) :
    lchan.checkedLoops config block = .ok (lchan.runLoops config block)
      ∧ (lchan.runLoops config block).Controlled := by
  obtain ⟨downlink, uplink⟩ := SiteConfig.accepted_of_validate valid
  have interval : config.advanceInterval.toNat ≤ 255 :=
    Nat.le_of_lt_succ config.advanceInterval.toNat_lt
  obtain ⟨advanced, controlled⟩ := controlled.advance_ok interval lchan.measurement.timingOffset
  unfold checkedLoops runLoops
  dsimp only
  rw [Radio.checkedDbmOfLevel_ok, ok_bind, advanced, ok_bind]
  generalize (if (Option.map _ _).getD true = true then _ else _ : Reception).level = heard
  obtain ⟨driven, controlled⟩ := controlled.msPower_ok uplink config.bts.band
    (lchan.inUse block).1 (Radio.dbmOfLevel_between heard)
  rw [driven, ok_bind]
  cases (block.bind (·.results?)).filter (·.valid) with
  | none => exact ⟨rfl, controlled.decide _⟩
  | some results =>
    obtain ⟨reduced, controlled⟩ := controlled.bsPower_ok downlink (some results)
    dsimp only
    rw [reduced]
    exact ⟨rfl, (controlled.overpower results).decide _⟩

theorem Controlled.withHeader (controlled : lchan.Controlled) (block : Option Sacch.Block) :
    (lchan.withHeader block).Controlled := by
  cases block with
  | none => exact { controlled with }
  | some block => exact { controlled with }

theorem Controlled.inUse_advance (controlled : lchan.Controlled) (block : Option Sacch.Block) :
    (lchan.inUse block).2 ≤ 255 := by
  cases block with
  | none => exact Nat.le_trans controlled.advance (by decide)
  | some block => exact Nat.le_of_lt_succ block.header.timingAdvance.toNat_lt

theorem received_eq_some {data : Option (List UInt8)} {block : Sacch.Block}
    (heard : received data = some block) :
    ∃ octets, Sacch.Block.decode octets = .ok block := by
  obtain ⟨octets, -, decoded⟩ := Option.bind_eq_some_iff.mp heard
  refine ⟨octets, ?_⟩
  cases found : Sacch.Block.decode octets with
  | error fault =>
    rw [found] at decoded
    cases decoded
  | ok other =>
    rw [found] at decoded
    cases decoded
    rfl

theorem InRange.result_ok (inRange : lchan.InRange) (data : Option (List UInt8)) :
    (lchan.withHeader (received data)).checkedResult (received data)
      = .ok ((lchan.withHeader (received data)).result (received data)) := by
  have controlled := inRange.controlled.withHeader (received data)
  have fits : ∀ offset, (lchan.withHeader (received data)).propagationOffset = some offset →
      i32.Fits offset := by
    cases received data with
    | none => exact inRange.propagationOffset
    | some block => exact inRange.propagationOffset
  have offset := checkedTimingOffset_ok fits (controlled.inUse_advance (received data))
  unfold checkedResult
  cases heard : received data with
  | none =>
    rw [heard] at offset
    dsimp only
    rw [ok_bind, offset]
    rfl
  | some block =>
    obtain ⟨octets, decoded⟩ := received_eq_some heard
    rw [heard] at offset
    dsimp only
    rw [Sacch.Block.checkedLayer3_ok decoded, ok_bind, offset]
    rfl

/-- A block of any octets, or none, under a valid configuration. -/
theorem InRange.sacch_ok (inRange : lchan.InRange) (valid : config.validate = .ok ())
    (data : Option (List UInt8)) :
    lchan.checkedSacch config data = .ok (lchan.handleSacch config data)
      ∧ (lchan.handleSacch config data).2.2.InRange := by
  have seen := inRange.controlled.withHeader (received data)
  have counted : (lchan.withHeader (received data)).countResult.Controlled := { seen with }
  obtain ⟨run, controlled⟩ := counted.loops_ok valid (received data)
  constructor
  · unfold checkedSacch
    rw [checkedReceived_ok, ok_bind]
    dsimp only
    rw [inRange.result_ok, ok_bind, run]
    rfl
  · obtain ⟨_, _, _, _, _, _, _, written⟩ := lchan.handleSacch_writes config data
    have after : (lchan.handleSacch config data).2.2.Controlled := { controlled with }
    refine ⟨?_, after, ?_⟩
    · rw [written]
      exact { inRange.measurement with }
    · rw [written]
      rintro _ ⟨⟩

/-- What a channel may be asked to do: frames and offsets are words, configurations are valid. -/
def Accepts : Operation → Prop
  | .record _ frame | .compute frame | .process _ frame => frame ≤ u32.max
  | .downlinkDtx => True
  | .setOffsets ms propagation =>
    (∀ offset, ms = some offset → i32.Fits offset)
      ∧ ∀ offset, propagation = some offset → i32.Fits offset
  | .sacch config _ => config.validate = .ok ()

def checkedPerform (lchan : LogicalChannel) : Operation → Checked LogicalChannel
  | .record sample frame => lchan.checkedRecord sample frame
  | .compute frame => do return (← lchan.checkedCompute frame).2
  | .process sample frame => do return (← lchan.checkedProcess sample frame).2
  | .downlinkDtx => .ok { lchan with downlinkDtx := true }
  | .setOffsets ms propagation => .ok (lchan.setOffsets ms propagation)
  | .sacch config data => do return (← lchan.checkedSacch config data).2.2

theorem InRange.of_writes (inRange : lchan.InRange) {after : LogicalChannel}
    (writes : ∃ measurement, after = { lchan with measurement := measurement })
    (narrow : Narrow after.measurement) : after.InRange := by
  obtain ⟨measurement, rfl⟩ := writes
  exact ⟨narrow, { inRange.controlled with }, inRange.propagationOffset⟩

theorem recorded_writes (lchan : LogicalChannel) (sample : Sample) (frame : Nat) :
    ∃ measurement, lchan.recorded sample frame = { lchan with measurement := measurement } := by
  rcases lchan.record_cases sample frame with ⟨kept, -, recorded⟩ | ⟨-, recorded⟩
  · exact ⟨_, recorded⟩
  · exact ⟨_, recorded⟩

theorem InRange.perform_ok (inRange : lchan.InRange) {operation : Operation}
    (accepts : Accepts operation) :
    lchan.checkedPerform operation = .ok (lchan.perform operation)
      ∧ (lchan.perform operation).InRange := by
  cases operation with
  | record sample frame =>
    exact ⟨checkedRecord_ok lchan sample accepts, inRange.of_writes
      (lchan.recorded_writes sample frame) (narrow_recorded inRange.measurement sample frame)⟩
  | compute frame =>
    obtain ⟨computed, narrow⟩ := checkedCompute_ok inRange.measurement frame
    refine ⟨?_, inRange.of_writes (lchan.compute_writes frame) narrow⟩
    rw [checkedPerform, computed]
    rfl
  | process sample frame =>
    obtain ⟨processed, narrow⟩ := checkedProcess_ok inRange.measurement sample accepts
    refine ⟨?_, inRange.of_writes (lchan.process_writes sample frame) narrow⟩
    rw [checkedPerform, processed]
    rfl
  | downlinkDtx => exact ⟨rfl, inRange.measurement, { inRange.controlled with }, inRange.propagationOffset⟩
  | setOffsets ms propagation =>
    exact ⟨rfl, inRange.measurement, { inRange.controlled with }, accepts.2⟩
  | sacch config data =>
    obtain ⟨handled, kept⟩ := inRange.sacch_ok accepts data
    refine ⟨?_, kept⟩
    rw [checkedPerform, handled]
    rfl

theorem inRange_ofActivation (activation : Activation) : (ofActivation activation).InRange where
  measurement := narrow_fresh
  controlled := {
    msPower := PowerControl.narrow_ofGrant ..
    bsPower := PowerControl.narrow_ofGrant ..
    advance := Nat.min_le_right ..
    skip := Nat.zero_le _ }
  propagationOffset := by rintro _ ⟨⟩

end LogicalChannel

namespace Service

open Lchan LogicalChannel

theorem lchan_after (activation : Activation) (operations : List Operation) :
    (after activation operations).lchan = operations.foldl perform (.ofActivation activation) := by
  have run (service : Service) : (operations.foldl step service).lchan
      = operations.foldl perform service.lchan := by
    induction operations generalizing service with
    | nil => rfl
    | cons operation rest ih => exact ih _
  exact run _

/-- Whatever an activated channel is asked to do, it does on words of the machine what it does on
numbers, and so does the next sample and the next block: nothing overflows, no divisor is zero, no
slice is out of bounds and no cast changes a value. -/
theorem computes_within_words (activation : Activation) (operations : List Operation)
    (accepts : ∀ operation ∈ operations, Accepts operation) :
    operations.foldlM checkedPerform (.ofActivation activation)
        = .ok (after activation operations).lchan
      ∧ (∀ sample frame, frame ≤ u32.max →
        (after activation operations).lchan.checkedProcess sample frame
          = .ok ((after activation operations).lchan.process sample frame))
      ∧ ∀ config data, SiteConfig.validate config = .ok () →
        (after activation operations).lchan.checkedSacch config data
          = .ok ((after activation operations).lchan.handleSacch config data) := by
  obtain ⟨run, inRange⟩ := Checked.foldlM_ok checkedPerform perform (fun _ => InRange)
    (fun _ _ _ inRange operation mem => inRange.perform_ok (accepts operation mem))
    (inRange_ofActivation activation) (Nat.le_refl (0 + operations.length))
  rw [← lchan_after] at run inRange
  exact ⟨run, fun sample _ word => (checkedProcess_ok inRange.measurement sample word).1,
    fun _ data valid => (inRange.sacch_ok valid data).1⟩

theorem computes_within_words_extreme :
    let params : PowerParams := ⟨Int32.minValue, 3, 255, 255, some 99⟩
    let config : SiteConfig :=
      { SiteConfig.ofHosts ["bsc"] with backend := .none, uplink := params, downlink := params }
    let activation : Activation :=
      ⟨⟨0, 2, 0⟩, .tchF, .tchF, .speechV1, 5, some 0, 255, some 255, 63, .none, .none⟩
    let operations : List Operation :=
      [.process ⟨65535, 255, -32768, 32767, true⟩ 38, .sacch config none,
        .setOffsets none (some 2147483647)]
    config.validate = .ok () ∧
      (after activation operations).lchan.checkedSacch config none
        = .ok ((after activation operations).lchan.handleSacch config none) := by
  intro params config activation operations
  have valid : config.validate = .ok () := by decide
  refine ⟨valid, (computes_within_words activation operations ?_).2.2 config none valid⟩
  intro operation mem
  simp only [operations, List.mem_cons, List.not_mem_nil, or_false] at mem
  rcases mem with rfl | rfl | rfl
  · show (38 : Nat) ≤ u32.max
    decide
  · exact valid
  · refine ⟨by rintro _ ⟨⟩, ?_⟩
    rintro _ ⟨⟩
    decide

end Service

end BaseStation
