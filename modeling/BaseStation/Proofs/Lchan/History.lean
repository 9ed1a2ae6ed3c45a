import BaseStation.Proofs.Lchan.Averages
import BaseStation.Proofs.Lchan.Loops

namespace BaseStation

namespace Lchan

inductive Operation
  | record (sample : Sample) (frame : Nat)
  | compute (frame : Nat)
  | process (sample : Sample) (frame : Nat)
  | downlinkDtx
  | setOffsets (ms propagation : Option Int)
  | sacch (config : SiteConfig) (data : Option (List UInt8))

def Operation.isSacch : Operation → Bool
  | sacch _ _ => true
  | record _ _ | compute _ | process _ _ | downlinkDtx | setOffsets _ _ => false

theorem filterMap_cons_toList {α β : Type} (pick : α → Option β) (first : α) (rest : List α) :
    (first :: rest).filterMap pick = (pick first).toList ++ rest.filterMap pick := by
  cases picked : pick first with
  | none => rw [List.filterMap_cons_none picked, Option.toList_none, List.nil_append]
  | some value => rw [List.filterMap_cons_some picked, Option.toList_some, List.singleton_append]

/-- What a report may have to tell of. Histories of it begin with what came last. -/
inductive Occurrence
  | sample (stored : Sample)
  | period
  | offsets (ms propagation : Option Int)
  | block

def Occurrence.isBlock : Occurrence → Bool
  | block => true
  | sample _ | period | offsets _ _ => false

def running : List Occurrence → List Sample
  | [] | .period :: _ => []
  | .sample stored :: earlier => running earlier ++ [stored]
  | .offsets _ _ :: earlier | .block :: earlier => running earlier

def periods : List Occurrence → List (List Sample)
  | [] => []
  | .period :: earlier => running earlier :: periods earlier
  | .sample _ :: earlier | .offsets _ _ :: earlier | .block :: earlier => periods earlier

/-- The samples of each period completed since the last block. -/
def recentPeriods : List Occurrence → List (List Sample)
  | [] | .block :: _ => []
  | .period :: earlier => running earlier :: recentPeriods earlier
  | .sample _ :: earlier | .offsets _ _ :: earlier => recentPeriods earlier

def recentOffsets? : List Occurrence → Option (Option Int × Option Int)
  | [] | .block :: _ => none
  | .offsets ms propagation :: _ => some (ms, propagation)
  | .sample _ :: earlier | .period :: earlier => recentOffsets? earlier

end Lchan

open Lchan

namespace LogicalChannel

def recorded (lchan : LogicalChannel) (sample : Sample) (frame : Nat) : LogicalChannel :=
  match lchan.record sample frame with
  | .ok after => after
  | .error _ => lchan

def perform (lchan : LogicalChannel) : Operation → LogicalChannel
  | .record sample frame => lchan.recorded sample frame
  | .compute frame => (lchan.compute frame).2
  | .process sample frame => (lchan.process sample frame).2
  | .downlinkDtx => { lchan with downlinkDtx := true }
  | .setOffsets ms propagation => lchan.setOffsets ms propagation
  | .sacch config data => (lchan.handleSacch config data).2.2

def stored (lchan : LogicalChannel) (sample : Sample) (frame : Nat) : List Occurrence :=
  match lchan.record sample frame with
  | .ok _ => [.sample { sample with isSub := sample.isSub || lchan.isSub frame }]
  | .error _ => []

def completed (answer : Bool) : List Occurrence := if answer then [.period] else []

def occurrences (lchan : LogicalChannel) : Operation → List Occurrence
  | .record sample frame => lchan.stored sample frame
  | .compute frame => completed (lchan.compute frame).1
  | .process sample frame => completed (lchan.process sample frame).1 ++ lchan.stored sample frame
  | .downlinkDtx => []
  | .setOffsets ms propagation => [.offsets ms propagation]
  | .sacch _ _ => [.block]

def statistics? (lchan : LogicalChannel) : Option OffsetStatistics :=
  if lchan.measurement.statisticsValid then some lchan.measurement.statistics else none

def offsetStatistics (lchan : LogicalChannel) : OffsetStatistics :=
  statisticsOf ((timingOffsets lchan.counted).tdiv lchan.counted.length)
    (lchan.counted.map (·.timingOffset.toInt))

end LogicalChannel

structure Service where
  lchan : LogicalChannel
  history : List Occurrence

def Service.step (service : Service) (operation : Operation) : Service :=
  ⟨service.lchan.perform operation, service.lchan.occurrences operation ++ service.history⟩

def Service.after (activation : Activation) (operations : List Operation) : Service :=
  operations.foldl step ⟨.ofActivation activation, []⟩

def Lchan.Activation.holding (activation : Activation) (samples : List Sample) : LogicalChannel :=
  (LogicalChannel.ofActivation activation).holding samples

def Lchan.Activation.Uplink (activation : Activation) : List (List Sample) → UplinkResult → Prop
  | [], uplink => uplink = .zero
  | samples :: _, uplink =>
    ∃ averages, (activation.holding samples).Averages averages ∧ averages.uplink = uplink

def Lchan.Activation.statistics? (activation : Activation) (periods : List (List Sample)) :
    Option OffsetStatistics :=
  (periods.find? (· ≠ [])).map fun samples => (activation.holding samples).offsetStatistics

structure Service.Tracked (activation : Activation) (service : Service) : Prop where
  chan : service.lchan.chan = activation.chan
  pchan : service.lchan.pchan = activation.pchan
  mode : service.lchan.mode = activation.mode
  samples : service.lchan.measurement.samples = running service.history
  number : service.lchan.measurement.number = service.history.countP (·.isBlock) % 256
  uplink : activation.Uplink (periods service.history) service.lchan.measurement.uplink
  statistics : service.lchan.statistics? =
    activation.statistics? (recentPeriods service.history)
  offsets : (service.lchan.msOffset, service.lchan.propagationOffset) =
    (recentOffsets? service.history).getD (none, none)

namespace LogicalChannel

theorem record_cases (lchan : LogicalChannel) (sample : Sample) (frame : Nat) :
    (∃ kept, lchan.stored sample frame = [.sample kept] ∧
      lchan.recorded sample frame = { lchan with measurement := { lchan.measurement with
        samples := lchan.measurement.samples ++ [kept], lastFrame := some frame } }) ∨
    lchan.stored sample frame = [] ∧ lchan.recorded sample frame = lchan := by
  unfold stored recorded
  by_cases full : lchan.measurement.samples.length ≥ capacity
  · have refused : lchan.record sample frame = .error .bufferFull := if_pos full
    rw [refused]
    exact .inr ⟨rfl, rfl⟩
  · rw [LogicalChannel.record, if_neg full]
    exact .inl ⟨_, rfl, rfl⟩

theorem process_eq (lchan : LogicalChannel) (sample : Sample) (frame : Nat) :
    lchan.process sample frame = (lchan.recorded sample frame).compute frame := by
  unfold process recorded
  cases lchan.record sample frame <;> rfl

/-- What a completed period leaves in store. -/
structure Completed (lchan : LogicalChannel) (after : Measurement) : Prop where
  blocks : 0 < lchan.expected
  samples : after.samples = []
  number : after.number = lchan.measurement.number
  uplink : after.uplink = (averaged lchan.measurement lchan.expected lchan.tally).uplink
  statistics : statistics? { lchan with measurement := after } =
    if lchan.measurement.samples = [] then lchan.statistics? else some lchan.offsetStatistics

theorem withStatistics_averaged {lchan : LogicalChannel} (blocks : 0 < lchan.expected)
    (nonempty : lchan.measurement.samples ≠ []) :
    withStatistics (averaged lchan.measurement lchan.expected lchan.tally) lchan.expected =
      { averaged lchan.measurement lchan.expected lchan.tally with
        statistics := lchan.offsetStatistics, statisticsValid := true } := by
  have counted : lchan.counted ≠ [] := by
    rw [LogicalChannel.counted, ne_eq, latest_eq_nil blocks]
    exact nonempty
  have mean := (averages_averaged blocks).timingOffset
  rw [if_neg counted] at mean
  have only : max lchan.expected 1 = lchan.expected := by omega
  -- averaging leaves the samples alone
  have there : (averaged lchan.measurement lchan.expected lchan.tally).samples ≠ [] := nonempty
  rw [withStatistics, if_neg there, only, offsetStatistics, ← mean]
  rfl

theorem compute_cases (lchan : LogicalChannel) (frame : Nat) :
    (∃ after, lchan.compute frame = (true, { lchan with measurement := after }) ∧
      lchan.Completed after) ∨
    lchan.compute frame = (false, lchan) := by
  by_cases due : lchan.isPeriodEnd frame = true ∧ lchan.measurement.computedFrame ≠ some frame
  · left
    obtain ⟨blocks, _⟩ := expected_of_ends due.1
    have computed := compute_of_due due.1 due.2
    by_cases nothing : lchan.measurement.samples = []
    · have kept : withStatistics (averaged lchan.measurement lchan.expected lchan.tally)
          lchan.expected = averaged lchan.measurement lchan.expected lchan.tally := if_pos nothing
      rw [kept] at computed
      exact ⟨_, computed, blocks, rfl, rfl, rfl, (if_pos nothing).symm⟩
    · rw [withStatistics_averaged blocks nothing] at computed
      exact ⟨_, computed, blocks, rfl, rfl, rfl, (if_neg nothing).symm⟩
  · exact .inr (if_neg due)

end LogicalChannel

namespace Service

variable {activation : Activation} {lchan : LogicalChannel} {history : List Occurrence}

theorem tracked_ofActivation (activation : Activation) :
    Tracked activation ⟨.ofActivation activation, []⟩ :=
  ⟨rfl, rfl, rfl, rfl, rfl, rfl, rfl, rfl⟩

namespace Tracked

/-- The samples and the kind of channel are all that the sums of a period depend on. -/
theorem holding (tracked : Tracked activation ⟨lchan, history⟩) :
    (activation.holding (running history)).expected = lchan.expected ∧
      (activation.holding (running history)).counted = lchan.counted ∧
      (activation.holding (running history)).tally = lchan.tally := by
  have samples : (activation.holding (running history)).measurement.samples =
      lchan.measurement.samples := tracked.samples.symm
  have pchan : (activation.holding (running history)).pchan = lchan.pchan := tracked.pchan.symm
  have mode : (activation.holding (running history)).mode = lchan.mode := tracked.mode.symm
  have expected : (activation.holding (running history)).expected = lchan.expected := by
    simp only [LogicalChannel.expected, pchan, mode, samples]
  have amr : (activation.holding (running history)).isAmr = lchan.isAmr := by
    simp only [LogicalChannel.isAmr, mode]
  have sub : (activation.holding (running history)).expectedSub = lchan.expectedSub := by
    simp only [LogicalChannel.expectedSub, amr, pchan, mode]
  refine ⟨expected, ?_, ?_⟩
  · simp only [LogicalChannel.counted, expected, samples]
  · simp only [LogicalChannel.tally, expected, amr, sub, samples]

theorem sample (tracked : Tracked activation ⟨lchan, history⟩) (kept : Sample) (frame : Nat) :
    Tracked activation ⟨{ lchan with measurement := { lchan.measurement with
      samples := lchan.measurement.samples ++ [kept], lastFrame := some frame } },
      .sample kept :: history⟩ := by
  have samples : lchan.measurement.samples = running history := tracked.samples
  exact { tracked with samples := congrArg (· ++ [kept]) samples }

theorem period (tracked : Tracked activation ⟨lchan, history⟩) {after : Measurement}
    (completed : lchan.Completed after) :
    Tracked activation ⟨{ lchan with measurement := after }, .period :: history⟩ := by
  obtain ⟨expected, counted, tally⟩ := tracked.holding
  have samples : lchan.measurement.samples = running history := tracked.samples
  refine { tracked with samples := completed.samples, number := ?_, uplink := ?_, statistics := ?_ }
  · exact completed.number.trans tracked.number
  · have blocks : 0 < (activation.holding (running history)).expected := by
      rw [expected]
      exact completed.blocks
    refine ⟨_, LogicalChannel.averages_averaged blocks, ?_⟩
    rw [expected, tally]
    exact completed.uplink.symm
  · refine completed.statistics.trans ?_
    rw [samples]
    have same : (activation.holding (running history)).offsetStatistics = lchan.offsetStatistics := by
      rw [LogicalChannel.offsetStatistics, counted]
      rfl
    -- without samples the statistics of an earlier period stay, if there are any since the last block
    by_cases nothing : running history = []
    · rw [if_pos nothing]
      refine tracked.statistics.trans ?_
      simp [Activation.statistics?, recentPeriods, nothing]
    · rw [if_neg nothing, ← same]
      simp [Activation.statistics?, recentPeriods, nothing]

theorem offsetsSet (tracked : Tracked activation ⟨lchan, history⟩) (ms propagation : Option Int) :
    Tracked activation ⟨lchan.setOffsets ms propagation, .offsets ms propagation :: history⟩ :=
  { tracked with offsets := rfl }

theorem block (tracked : Tracked activation ⟨lchan, history⟩) (config : SiteConfig)
    (data : Option (List UInt8)) :
    Tracked activation ⟨(lchan.handleSacch config data).2.2, .block :: history⟩ := by
  obtain ⟨_, _, _, _, _, _, _, written⟩ := lchan.handleSacch_writes config data
  rw [written]
  refine { tracked with number := ?_, statistics := rfl, offsets := rfl }
  have number : lchan.measurement.number = history.countP (·.isBlock) % 256 := tracked.number
  show (lchan.measurement.number + 1) % 256 = (Occurrence.block :: history).countP (·.isBlock) % 256
  rw [number, List.countP_cons_of_pos rfl]
  omega

theorem record (tracked : Tracked activation ⟨lchan, history⟩) (sample : Sample) (frame : Nat) :
    Tracked activation ⟨lchan.recorded sample frame, lchan.stored sample frame ++ history⟩ := by
  rcases lchan.record_cases sample frame with ⟨kept, stored, recorded⟩ | ⟨stored, recorded⟩
  · rw [stored, recorded]
    exact tracked.sample kept frame
  · rw [stored, recorded]
    exact tracked

theorem compute (tracked : Tracked activation ⟨lchan, history⟩) (frame : Nat) :
    Tracked activation ⟨(lchan.compute frame).2,
      LogicalChannel.completed (lchan.compute frame).1 ++ history⟩ := by
  rcases lchan.compute_cases frame with ⟨after, computed, completed⟩ | unchanged
  · rw [computed]
    exact tracked.period completed
  · rw [unchanged]
    exact tracked

theorem step {service : Service} (tracked : Tracked activation service) (operation : Operation) :
    Tracked activation (service.step operation) := by
  obtain ⟨lchan, history⟩ := service
  cases operation with
  | record sample frame => exact tracked.record sample frame
  | compute frame => exact tracked.compute frame
  | process sample frame =>
    unfold Service.step LogicalChannel.perform LogicalChannel.occurrences
    simp only [lchan.process_eq, List.append_assoc]
    exact (tracked.record sample frame).compute frame
  | downlinkDtx => exact { tracked with }
  | setOffsets ms propagation => exact tracked.offsetsSet ms propagation
  | sacch config data => exact tracked.block config data

theorem after (activation : Activation) (operations : List Operation) :
    Tracked activation (.after activation operations) :=
  List.foldlRecOn operations Service.step (tracked_ofActivation activation)
    fun _ tracked operation _ => tracked.step operation

end Tracked

theorem countP_step (service : Service) (operation : Operation) :
    (service.step operation).history.countP (·.isBlock) =
      (if operation.isSacch then 1 else 0) + service.history.countP (·.isBlock) := by
  have stored (lchan : LogicalChannel) (sample : Sample) (frame : Nat) :
      (lchan.stored sample frame).countP (·.isBlock) = 0 := by
    rcases lchan.record_cases sample frame with ⟨kept, stored, _⟩ | ⟨stored, _⟩ <;> rw [stored] <;> rfl
  have completed (answer : Bool) : (LogicalChannel.completed answer).countP (·.isBlock) = 0 := by
    cases answer <;> rfl
  rw [step, List.countP_append]
  apply congrArg (· + service.history.countP (·.isBlock))
  cases operation with
  | record sample frame => exact stored _ sample frame
  | compute frame => exact completed _
  | process sample frame =>
    rw [LogicalChannel.occurrences, List.countP_append, completed, stored]
    rfl
  | downlinkDtx | setOffsets ms propagation | sacch config data => rfl

theorem countP_after (activation : Activation) (operations : List Operation) :
    (after activation operations).history.countP (·.isBlock) = operations.countP (·.isSacch) := by
  have run (service : Service) : (operations.foldl step service).history.countP (·.isBlock) =
      service.history.countP (·.isBlock) + operations.countP (·.isSacch) := by
    induction operations generalizing service with
    | nil => rfl
    | cons operation rest ih =>
      rw [List.foldl_cons, ih, countP_step, List.countP_cons]
      omega
  rw [after, run]
  exact Nat.zero_add _

end Service

end BaseStation
