import BaseStation.Proofs.Lchan.Reporting
import BaseStation.Proofs.Lchan.TransmitRange

namespace BaseStation

namespace Lchan

def Operation.block? : Operation → Option (Option (List UInt8))
  | sacch _ data => some data
  | record _ _ | compute _ | process _ _ | downlinkDtx | setOffsets _ _ => none

/-- What a block with a valid report of the quality has to say: on from the threshold, off from two
classes below it. The quality over the sub set counts exactly if the mobile station used discontinuous
transmission. -/
def qualityVerdict? (threshold : Nat) (data : Option (List UInt8)) : Option Bool :=
  (LogicalChannel.validReport data).bind fun results =>
    let quality := if results.dtxUsed then results.qualitySub.toNat else results.qualityFull.toNat
    if threshold ≤ quality then some true
    else if quality ≤ threshold - 2 then some false
    else none

/-- What a block has to say on repetition: a request for it counts more than any quality. -/
def repeatVerdict? (threshold : Nat) (data : Option (List UInt8)) : Option Bool :=
  if (LogicalChannel.received data).any (·.header.repetition) then some true
  else qualityVerdict? threshold data

/-- The verdict of the last block that has one; off before there is any. -/
def lastVerdict (verdict? : Option (List UInt8) → Option Bool) (blocks : List (Option (List UInt8))) :
    Bool :=
  (blocks.filterMap verdict?).getLast?.getD false

def RepeatGrant.Grants (grant : RepeatGrant) : Prop :=
  grant.commands = true ∨ grant.allFrames = true

def OverpowerGrant.Grants (grant : OverpowerGrant) : Prop :=
  grant.decibel ≠ 0 ∧ grant.threshold ≠ 0

/-- The decisions on an activated channel after some blocks. -/
structure Activation.Decides (activation : Activation) (blocks : List (Option (List UInt8)))
    (lchan : LogicalChannel) : Prop where
  ungranted : ¬ activation.repeats.Grants → lchan.repeatFacch = false
  always : activation.repeats.Grants → activation.repeats.threshold = 0 → blocks ≠ [] →
    lchan.repeatFacch = true
  byVerdict : activation.repeats.Grants → activation.repeats.threshold ≠ 0 →
    lchan.repeatFacch = lastVerdict (repeatVerdict? activation.repeats.threshold.toNat) blocks
  overpower : activation.overpower.Grants →
    lchan.overpowerActive =
      lastVerdict (qualityVerdict? activation.overpower.threshold.toNat) blocks
  constantOverpower : ¬ activation.overpower.Grants →
    lchan.overpowerActive = (LogicalChannel.ofActivation activation).overpowerActive

variable {threshold : Nat} {data : Option (List UInt8)}

theorem lastVerdict_concat (verdict? : Option (List UInt8) → Option Bool)
    (blocks : List (Option (List UInt8))) (data : Option (List UInt8)) :
    lastVerdict verdict? (blocks ++ [data]) = (verdict? data).getD (lastVerdict verdict? blocks) := by
  unfold lastVerdict
  rw [List.filterMap_append]
  cases verdict : verdict? data with
  | none => rw [List.filterMap_cons_none verdict, List.filterMap_nil, List.append_nil, Option.getD_none]
  | some on => rw [List.filterMap_cons_some verdict, List.filterMap_nil, List.getLast?_concat, Option.getD_some,
      Option.getD_some]

theorem elim_decide (before : Bool) (threshold : Nat) (data : Option (List UInt8)) :
    (LogicalChannel.validReport data).elim before
        (fun results => decide before threshold (reportedQuality results)) =
      (qualityVerdict? threshold data).getD before := by
  unfold qualityVerdict?
  cases LogicalChannel.validReport data with
  | none => rfl
  | some results =>
    rw [Option.elim_some, Option.bind_some, decide, reportedQuality, apply_ite UInt8.toNat]
    dsimp only
    generalize (if results.dtxUsed = true then results.qualitySub.toNat else results.qualityFull.toNat) =
      quality
    by_cases bad : threshold ≤ quality
    · rw [if_pos bad, if_pos bad, Option.getD_some]
    · rw [if_neg bad, if_neg bad]
      by_cases good : quality ≤ threshold - 2
      · rw [if_pos good, if_pos good, Option.getD_some]
      · rw [if_neg good, if_neg good, Option.getD_none]

end Lchan

namespace LogicalChannel

open Lchan

variable {lchan : LogicalChannel} {results : Option Sacch.Results}

theorem decideRepeat_ungranted (ungranted : ¬ lchan.repeats.Grants) :
    (lchan.decideRepeat results).repeatFacch = false := by
  have neither : (!lchan.repeats.commands && !lchan.repeats.allFrames) = true := by
    simpa [RepeatGrant.Grants] using ungranted
  unfold decideRepeat
  exact if_pos neither

theorem decideRepeat_granted (granted : lchan.repeats.Grants) :
    (lchan.decideRepeat results).repeatFacch =
      if lchan.repeats.threshold = 0 then true
      else if lchan.measurement.header.repetition then true
      else (results.filter (·.valid)).elim lchan.repeatFacch fun results =>
        decide lchan.repeatFacch lchan.repeats.threshold.toNat (reportedQuality results) := by
  have either : ¬ (!lchan.repeats.commands && !lchan.repeats.allFrames) = true := by
    simpa [RepeatGrant.Grants, Classical.or_iff_not_imp_left] using granted
  unfold decideRepeat
  dsimp only
  rw [if_neg either]
  cases results.filter (·.valid) <;> rfl

theorem decideOverpower_granted (granted : lchan.overpower.Grants) (results : Sacch.Results) :
    (lchan.decideOverpower results).overpowerActive =
      decide lchan.overpowerActive lchan.overpower.threshold.toNat (reportedQuality results) := by
  unfold decideOverpower
  rw [if_neg (not_or.mpr granted)]

theorem decideOverpower_ungranted (ungranted : ¬ lchan.overpower.Grants) (results : Sacch.Results) :
    lchan.decideOverpower results = lchan := by
  unfold decideOverpower
  rw [if_pos (by simpa [OverpowerGrant.Grants, Classical.or_iff_not_imp_left] using ungranted)]

section

variable (lchan) (config : SiteConfig) (data : Option (List UInt8))

theorem withHeader_header (block : Option Sacch.Block) :
    (lchan.withHeader block).measurement.header =
      (block.map (·.header)).getD lchan.measurement.header := by
  cases block <;> rfl

theorem withHeader_repeats (block : Option Sacch.Block) :
    (lchan.withHeader block).repeats = lchan.repeats := by
  cases block <;> rfl

theorem withHeader_repeatFacch (block : Option Sacch.Block) :
    (lchan.withHeader block).repeatFacch = lchan.repeatFacch := by
  cases block <;> rfl

theorem handleSacch_header :
    (lchan.handleSacch config data).2.2.measurement.header =
      ((received data).map (·.header)).getD lchan.measurement.header := by
  unfold handleSacch startPeriod
  dsimp only
  rw [runLoops_eq, ← withHeader_header]
  rfl

theorem handleSacch_repeatFacch :
    (lchan.handleSacch config data).2.2.repeatFacch =
      ((lchan.withHeader (received data)).decideRepeat
        ((received data).bind (·.results?))).repeatFacch := by
  unfold handleSacch startPeriod
  dsimp only
  rw [runLoops_eq]
  rfl

theorem handleSacch_overpowerActive :
    (lchan.handleSacch config data).2.2.overpowerActive =
      ((validReport data).elim lchan lchan.decideOverpower).overpowerActive := by
  unfold handleSacch startPeriod validReport
  dsimp only
  rw [runLoops_eq]
  cases received data with
  | none => rfl
  | some block =>
    dsimp only
    cases ((some block).bind (·.results?)).filter (·.valid) with
    | none => rfl
    | some results => exact decideOverpower_congr rfl rfl

end

def Served (lchan : LogicalChannel) : Prop :=
  lchan.measurement.header.repetition = true → lchan.repeatFacch = true

variable {config : SiteConfig} {data : Option (List UInt8)}

theorem repeatFacch_granted (granted : lchan.repeats.Grants) :
    (lchan.handleSacch config data).2.2.repeatFacch =
      if lchan.repeats.threshold = 0 then true
      else if (lchan.handleSacch config data).2.2.measurement.header.repetition then true
      else (qualityVerdict? lchan.repeats.threshold.toNat data).getD lchan.repeatFacch := by
  have seen : (lchan.withHeader (received data)).repeats.Grants := by
    rw [withHeader_repeats]
    exact granted
  rw [handleSacch_repeatFacch, decideRepeat_granted seen, withHeader_repeats, withHeader_repeatFacch,
    withHeader_header, handleSacch_header, ← elim_decide, validReport]

theorem served_handleSacch (granted : lchan.repeats.Grants) :
    (lchan.handleSacch config data).2.2.Served := by
  intro asked
  rw [repeatFacch_granted granted, if_pos asked, ite_self]

theorem repeatFacch_of_threshold (granted : lchan.repeats.Grants)
    (threshold : lchan.repeats.threshold ≠ 0) (served : lchan.Served) :
    (lchan.handleSacch config data).2.2.repeatFacch =
      (repeatVerdict? lchan.repeats.threshold.toNat data).getD lchan.repeatFacch := by
  rw [repeatFacch_granted granted, if_neg threshold, handleSacch_header, repeatVerdict?]
  cases came : received data with
  | none =>
    have silent : qualityVerdict? lchan.repeats.threshold.toNat data = none := by
      rw [qualityVerdict?, validReport, came]
      rfl
    rw [silent]
    by_cases asked : lchan.measurement.header.repetition = true
    · exact (if_pos asked).trans (served asked).symm
    · exact if_neg asked
  | some block =>
    by_cases asks : block.header.repetition = true
    · exact (if_pos asks).trans (by rw [Option.any_some, if_pos asks, Option.getD_some])
    · exact (if_neg asks).trans (by rw [Option.any_some, if_neg asks])

theorem repeatFacch_ungranted (ungranted : ¬ lchan.repeats.Grants) :
    (lchan.handleSacch config data).2.2.repeatFacch = false := by
  rw [handleSacch_repeatFacch]
  apply decideRepeat_ungranted
  rw [withHeader_repeats]
  exact ungranted

theorem overpowerActive_granted (granted : lchan.overpower.Grants) :
    (lchan.handleSacch config data).2.2.overpowerActive =
      (qualityVerdict? lchan.overpower.threshold.toNat data).getD lchan.overpowerActive := by
  rw [handleSacch_overpowerActive, ← elim_decide]
  cases validReport data with
  | none => rfl
  | some results => exact decideOverpower_granted granted results

theorem overpowerActive_ungranted (ungranted : ¬ lchan.overpower.Grants) :
    (lchan.handleSacch config data).2.2.overpowerActive = lchan.overpowerActive := by
  rw [handleSacch_overpowerActive]
  cases validReport data with
  | none => rfl
  | some results => rw [Option.elim_some, decideOverpower_ungranted ungranted]

theorem compute_header (lchan : LogicalChannel) (frame : Nat) :
    (lchan.compute frame).2.measurement.header = lchan.measurement.header := by
  unfold compute
  dsimp only
  split
  · unfold withStatistics
    split <;> rfl
  · rfl

theorem recorded_header (lchan : LogicalChannel) (sample : Sample) (frame : Nat) :
    (lchan.recorded sample frame).measurement.header = lchan.measurement.header := by
  rcases lchan.record_cases sample frame with ⟨_, _, recorded⟩ | ⟨_, recorded⟩ <;> rw [recorded]

/-- Only a block brings a header. -/
theorem perform_header {operation : Operation} (other : operation.isSacch = false) :
    (lchan.perform operation).measurement.header = lchan.measurement.header := by
  cases operation with
  | record sample frame => exact lchan.recorded_header sample frame
  | compute frame => exact lchan.compute_header frame
  | process sample frame =>
    rw [perform, process_eq, compute_header, recorded_header]
  | downlinkDtx | setOffsets ms propagation => rfl
  | sacch config data => cases other

structure Decided (activation : Activation) (blocks : List (Option (List UInt8)))
    (lchan : LogicalChannel) : Prop where
  repeats : lchan.repeats = activation.repeats
  overpower : lchan.overpower = activation.overpower
  served : activation.repeats.Grants → lchan.Served
  decides : activation.Decides blocks lchan

namespace Decided

variable {activation : Activation} {blocks : List (Option (List UInt8))}

theorem ofActivation (activation : Activation) :
    Decided activation [] (.ofActivation activation) where
  repeats := rfl
  overpower := rfl
  served := fun _ asked => absurd (asked : false = true) Bool.false_ne_true
  decides := {
    ungranted := fun _ => rfl
    always := fun _ _ nonempty => absurd rfl nonempty
    byVerdict := fun _ _ => rfl
    overpower := fun granted => by
      rw [LogicalChannel.ofActivation, decide_eq_false granted.2, Bool.and_false]
      rfl
    constantOverpower := fun _ => rfl }

theorem handleSacch (decided : lchan.Decided activation blocks) (config : SiteConfig)
    (data : Option (List UInt8)) :
    (lchan.handleSacch config data).2.2.Decided activation (blocks ++ [data]) := by
  obtain ⟨repeats, overpower, served, before⟩ := decided
  obtain ⟨_, _, _, _, _, _, _, written⟩ := lchan.handleSacch_writes config data
  rw [← repeats] at served
  refine ⟨?_, ?_, fun granted => ?_, ?_⟩
  · rw [written]
    exact repeats
  · rw [written]
    exact overpower
  · exact served_handleSacch (repeats ▸ granted)
  · refine ⟨fun ungranted => ?_, fun granted threshold _ => ?_, fun granted threshold => ?_,
      fun granted => ?_, fun ungranted => ?_⟩
    · exact repeatFacch_ungranted (repeats ▸ ungranted)
    · rw [repeatFacch_granted (repeats ▸ granted), repeats, if_pos threshold]
    · rw [lastVerdict_concat, ← before.byVerdict granted threshold]
      rw [← repeats] at granted threshold ⊢
      exact repeatFacch_of_threshold granted threshold (served granted)
    · rw [lastVerdict_concat, ← before.overpower granted]
      rw [← overpower] at granted ⊢
      exact overpowerActive_granted granted
    · rw [← before.constantOverpower ungranted]
      exact overpowerActive_ungranted (overpower ▸ ungranted)

theorem perform (decided : lchan.Decided activation blocks) (operation : Operation) :
    (lchan.perform operation).Decided activation (blocks ++ operation.block?.toList) := by
  cases kind : operation.isSacch with
  | true =>
    obtain ⟨config, data, rfl⟩ := eq_sacch kind
    exact decided.handleSacch config data
  | false =>
    have silent : operation.block? = none := by
      cases operation with
      | sacch config data => cases kind
      | record | compute | process | downlinkDtx | setOffsets => rfl
    have header := lchan.perform_header kind
    obtain ⟨_, _, _, _, written⟩ := lchan.perform_writes kind
    rw [written] at header ⊢
    rw [silent, Option.toList_none, List.append_nil]
    refine ⟨decided.repeats, decided.overpower, fun granted => ?_, { decided.decides with }⟩
    intro asked
    exact decided.served granted (header ▸ asked)

theorem run (decided : lchan.Decided activation blocks) (operations : List Operation) :
    (operations.foldl LogicalChannel.perform lchan).Decided activation
      (blocks ++ operations.filterMap (·.block?)) := by
  induction operations generalizing blocks lchan with
  | nil => simpa using decided
  | cons operation rest ih =>
    have later := ih (decided.perform operation)
    rw [filterMap_cons_toList, ← List.append_assoc]
    exact later

end Decided

theorem verdicts_lost (lost : ∀ octets, data = some octets → octets.length ≠ 23) (threshold : Nat) :
    repeatVerdict? threshold data = none ∧ qualityVerdict? threshold data = none := by
  rcases received_cases data with ⟨first, advance, rest, came, length, _⟩ | ⟨_, absent⟩
  · exact absurd (congrArg (· + 2) length) (lost _ came)
  · rw [repeatVerdict?, qualityVerdict?, validReport, absent]
    exact ⟨rfl, rfl⟩

end LogicalChannel

namespace Service

open Lchan LogicalChannel

/-- Whatever an activated channel is asked to do, its decisions are the verdicts of the last blocks that had
one, and a lost block or one of the wrong length has none. -/
theorem decisions_by_last_verdict (activation : Activation) (operations : List Operation) :
    activation.Decides (operations.filterMap (·.block?)) (after activation operations).lchan ∧
      ∀ data, (∀ octets, data = some octets → octets.length ≠ 23) → ∀ threshold,
        repeatVerdict? threshold data = none ∧ qualityVerdict? threshold data = none := by
  rw [lchan_after]
  exact ⟨((Decided.ofActivation activation).run operations).decides, fun data lost => verdicts_lost lost⟩

theorem decisions_by_last_verdict_lost :
    let activation : Activation :=
      ⟨⟨0, 1, 0⟩, .tchF, .tchF, .speechV1, 5, none, 0, none, 7, ⟨true, false, 4⟩, .none⟩
    let operations : List Operation :=
      [.sacch (.ofHosts []) (some (64 :: List.replicate 22 0)), .sacch (.ofHosts []) none]
    activation.repeats.Grants ∧ activation.repeats.threshold ≠ 0 ∧
      (after activation operations).lchan.repeatFacch = true := by
  intro activation operations
  have granted : activation.repeats.Grants := .inl rfl
  have threshold : activation.repeats.threshold ≠ 0 := by decide
  refine ⟨granted, threshold, ?_⟩
  rw [(decisions_by_last_verdict activation operations).1.byVerdict granted threshold]
  decide

end Service

end BaseStation
