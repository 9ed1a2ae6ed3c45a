import BaseStation.Proofs.Lchan.History

namespace BaseStation

open Lchan

namespace LogicalChannel

/-- A block of the right length has a header, and is handled with it. -/
theorem received_cases (data : Option (List UInt8)) :
    (∃ first advance rest, data = some (first :: advance :: rest) ∧ rest.length = 21 ∧
      received data = some ⟨.ofFirst first advance, Sacch.Block.reportOf rest,
        first :: advance :: rest⟩) ∨
    (∀ octets, data = some octets → octets.length ≠ 23) ∧ received data = none := by
  cases data with
  | none => exact .inr ⟨by simp, rfl⟩
  | some octets =>
    by_cases length : octets.length = 23
    · left
      obtain ⟨first, octets, rfl⟩ := List.exists_cons_of_length_eq_add_one length
      obtain ⟨advance, rest, rfl⟩ := List.exists_cons_of_length_eq_add_one (Nat.succ.inj length)
      have length : rest.length = 21 := Nat.succ.inj (Nat.succ.inj length)
      refine ⟨first, advance, rest, rfl, length, ?_⟩
      simp [received, Sacch.Block.decode, Sacch.Block.length, Sacch.Header.decode, length,
        Except.toOption, Bind.bind, Except.bind, Pure.pure, Except.pure]
    · right
      refine ⟨by simpa using length, ?_⟩
      simp [received, Sacch.Block.decode, Sacch.Block.length, length, Except.toOption, Bind.bind,
        Except.bind, throw, throwThe, MonadExceptOf.throw]

def CarriesReport (octets : List UInt8) : Prop :=
  octets[2]? = some 0x01 ∧ octets[3]? = some 0x03 ∧
    (∃ discriminator, octets[5]? = some discriminator ∧ discriminator.toNat % 16 = 6) ∧
    (octets[6]? = some 0x15 ∨ octets[6]? = some 0x36)

theorem reportOf_isSome (first advance : UInt8) {rest : List UInt8} (length : rest.length = 21) :
    (Sacch.Block.reportOf rest).isSome = true ↔ CarriesReport (first :: advance :: rest) := by
  obtain ⟨address, rest, rfl⟩ := List.exists_cons_of_length_eq_add_one length
  obtain ⟨control, rest, rfl⟩ := List.exists_cons_of_length_eq_add_one (Nat.succ.inj length)
  rcases rest with _ | ⟨size, _ | ⟨discriminator, _ | ⟨code, _ | ⟨one, _ | ⟨two, _ | ⟨three, rest⟩⟩⟩⟩⟩⟩
  case cons.cons.cons.cons.cons.cons =>
    simp only [CarriesReport, Sacch.Block.reportOf, Sacch.ReportType.ofCode?]
    simp [Sacch.Block.lapdmAddress, Sacch.Block.lapdmControl, Sacch.Block.radioResource]
    grind
  all_goals cases length

/-- The offset that comes of that of the mobile station, or else of that of propagation. -/
def OffsetOf (ms propagation : Option Int) (advance : Nat) (offset : Int) : Prop :=
  ms = some offset ∧ 0 ≤ offset ∨
    (∀ other, ms = some other → other < 0) ∧
      ∃ distance, propagation = some distance ∧ 0 ≤ distance ∧ offset = distance - advance

theorem timingOffset?_eq_some (lchan : LogicalChannel) (advance : Nat) (offset : Int) :
    lchan.timingOffset? advance = some offset ↔
      OffsetOf lchan.msOffset lchan.propagationOffset advance offset := by
  unfold timingOffset? OffsetOf
  cases lchan.msOffset with
  | none => cases lchan.propagationOffset <;> grind
  | some ms => cases lchan.propagationOffset <;> grind

theorem handleSacch_report (lchan : LogicalChannel) (config : SiteConfig)
    (data : Option (List UInt8)) :
    (lchan.handleSacch config data).1 = {
      chan := lchan.chan
      number := lchan.measurement.number
      uplink := lchan.measurement.uplink
      bsReduction := lchan.bsPower.current
      header := (received data).map (·.header)
      layer3 := (received data).bind (·.layer3?)
      timingOffset := lchan.timingOffset?
        ((((received data).map (·.header)).map (·.timingAdvance.toNat)).getD lchan.advance.current)
      statistics := lchan.statistics? } := by
  unfold handleSacch
  cases received data <;> rfl

theorem header_eq_some (data : Option (List UInt8)) (header : Sacch.Header) :
    (received data).map (·.header) = some header ↔ ∃ first advance rest,
      data = some (first :: advance :: rest) ∧ rest.length = 21 ∧
        header = .ofFirst first advance := by
  rcases received_cases data with ⟨first, advance, rest, rfl, length, block⟩ | ⟨other, lost⟩
  · rw [block]
    constructor
    · intro header
      exact ⟨first, advance, rest, rfl, length, (Option.some.inj header).symm⟩
    · intro found
      rcases found with ⟨_, _, _, same, _, rfl⟩
      cases same
      rfl
  · rw [lost]
    constructor
    · intro header
      cases header
    · intro found
      rcases found with ⟨first, advance, rest, rfl, length, _⟩
      exact absurd (congrArg (· + 2) length) (other _ rfl)

theorem layer3_eq_some (data : Option (List UInt8)) (layer3 : List UInt8) :
    (received data).bind (·.layer3?) = some layer3 ↔ ∃ octets,
      data = some octets ∧ octets.length = 23 ∧ CarriesReport octets ∧ layer3 = octets.drop 5 := by
  rcases received_cases data with ⟨first, advance, rest, rfl, length, block⟩ | ⟨other, lost⟩
  · rw [block]
    have carries := reportOf_isSome first advance length
    have forwarded : Sacch.Block.layer3? ⟨.ofFirst first advance, Sacch.Block.reportOf rest,
        first :: advance :: rest⟩ = some layer3 ↔
        (Sacch.Block.reportOf rest).isSome = true ∧ layer3 = (first :: advance :: rest).drop 5 := by
      unfold Sacch.Block.layer3?
      cases Sacch.Block.reportOf rest <;> simp [Sacch.Block.layer3Offset, eq_comm]
    refine forwarded.trans ?_
    rw [carries]
    constructor
    · intro found
      rcases found with ⟨report, same⟩
      exact ⟨_, rfl, congrArg (· + 2) length, report, same⟩
    · intro found
      rcases found with ⟨octets, same, _, report, rfl⟩
      cases same
      exact ⟨report, rfl⟩
  · rw [lost]
    constructor
    · intro layer3
      cases layer3
    · intro found
      rcases found with ⟨octets, same, length, _⟩
      exact absurd length (other octets same)

end LogicalChannel

/-- The report to block number `k`, counted from 0, is about this block and about what came up for it. -/
structure Service.Reports (activation : Activation) (k : Nat) (service : Service)
    (data : Option (List UInt8)) (report : MeasurementResult) : Prop where
  chan : report.chan = activation.chan
  number : report.number = k % 256
  uplink : activation.Uplink (periods service.history) report.uplink
  bsReduction : report.bsReduction = service.lchan.bsPower.current
  header : ∀ header, report.header = some header ↔ ∃ first advance rest,
    data = some (first :: advance :: rest) ∧ rest.length = 21 ∧ header = .ofFirst first advance
  layer3 : ∀ layer3, report.layer3 = some layer3 ↔ ∃ octets,
    data = some octets ∧ octets.length = 23 ∧ LogicalChannel.CarriesReport octets ∧
      layer3 = octets.drop 5
  statistics : report.statistics = activation.statistics? (recentPeriods service.history)
  timingOffset : ∀ offset, report.timingOffset = some offset ↔
    ∃ ms propagation, recentOffsets? service.history = some (ms, propagation) ∧
      LogicalChannel.OffsetOf ms propagation
        ((report.header.map (·.timingAdvance.toNat)).getD service.lchan.advance.current) offset

theorem Service.Tracked.offsetOf {activation : Activation} {service : Service}
    (tracked : Tracked activation service) (advance : Nat) (offset : Int) :
    LogicalChannel.OffsetOf service.lchan.msOffset service.lchan.propagationOffset advance offset ↔
      ∃ ms propagation, recentOffsets? service.history = some (ms, propagation) ∧
        LogicalChannel.OffsetOf ms propagation advance offset := by
  have stored := tracked.offsets
  cases told : recentOffsets? service.history with
  | none =>
    rw [told] at stored
    obtain ⟨ms, propagation⟩ := Prod.mk.inj stored
    rw [ms, propagation]
    constructor
    · intro made
      rcases made with ⟨impossible, _⟩ | ⟨_, _, impossible, _⟩
      · cases impossible
      · cases impossible
    · intro found
      rcases found with ⟨_, _, impossible, _⟩
      cases impossible
  | some offsets =>
    rw [told] at stored
    have stored : (service.lchan.msOffset, service.lchan.propagationOffset) = offsets := stored
    subst stored
    constructor
    · intro made
      exact ⟨_, _, rfl, made⟩
    · intro found
      rcases found with ⟨_, _, same, made⟩
      cases same
      exact made

/-- Whatever an activated channel was asked to do, the report to its next block is the block's own. -/
theorem Service.reports_own_period (activation : Activation) (operations : List Operation)
    (config : SiteConfig) (data : Option (List UInt8)) :
    Reports activation (operations.countP (·.isSacch)) (after activation operations) data
      ((after activation operations).lchan.handleSacch config data).1 := by
  have tracked := Tracked.after activation operations
  rw [LogicalChannel.handleSacch_report]
  exact {
    chan := tracked.chan
    number := tracked.number.trans (congrArg (· % 256) (countP_after activation operations))
    uplink := tracked.uplink
    bsReduction := rfl
    header := LogicalChannel.header_eq_some data
    layer3 := LogicalChannel.layer3_eq_some data
    statistics := tracked.statistics
    timingOffset := fun offset =>
      (LogicalChannel.timingOffset?_eq_some _ _ offset).trans (tracked.offsetOf _ offset) }

example : ((Service.after ⟨⟨0, 1, 0⟩, .sdcch8, .sdcch, .signalling, 5, none, 0, none, 7, .none, .none⟩
      [.process ⟨0, 80, 0, 5, false⟩ 66, .setOffsets none (some 10), .sacch (.ofHosts []) none]).lchan
        |>.handleSacch (.ofHosts []) none).1 =
    ⟨⟨0, 1, 0⟩, 1, ⟨⟨30, 7⟩, ⟨30, 7⟩⟩, 0, none, none, none, none⟩ := by
  decide

end BaseStation
