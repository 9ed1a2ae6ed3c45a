import Mathlib.Algebra.Order.Ring.Int
import Mathlib.Logic.Function.Iterate
import BaseStation.Lchan.Control
import BaseStation.Proofs.Lchan.Words

namespace BaseStation.Lchan

/-- `after` lies between `before` and the goal. -/
structure Approaches (goal before after : Int) : Prop where
  rising : before ≤ goal → before ≤ after ∧ after ≤ goal
  falling : goal ≤ before → goal ≤ after ∧ after ≤ before

def PowerControl.filtered? (control : PowerControl) : Option Int :=
  control.average.map (·.tdiv 100)

def averageAfter (weight : Nat) (average : Option Int) (levels : List Int) : Option Int :=
  levels.foldl (fun average level => some (nextAverage weight average level)) average

/-- A level takes the step that is asked for at it. -/
def PowerControl.turn (params : PowerParams) : PowerControl × Int → PowerControl × Int
  | (control, level) =>
    let (delta, next) := control.delta params level
    (next, level + delta)

namespace Approaches

variable {goal before after later : Int}

theorem trans (first : Approaches goal before after) (second : Approaches goal after later) :
    Approaches goal before later where
  rising below := by
    have ⟨above, within⟩ := first.rising below
    have := second.rising within
    omega
  falling above := by
    have ⟨within, below⟩ := first.falling above
    have := second.falling within
    omega

theorem refl (goal before : Int) : Approaches goal before before :=
  ⟨fun below => ⟨Int.le_refl _, below⟩, fun above => ⟨above, Int.le_refl _⟩⟩

theorem natAbs_le (approaches : Approaches goal before after) :
    (goal - after).natAbs ≤ (goal - before).natAbs := by
  rcases Int.le_total before goal with below | above
  · have := approaches.rising below
    omega
  · have := approaches.falling above
    omega

theorem natAbs_lt (approaches : Approaches goal before after) (moves : after ≠ before) :
    (goal - after).natAbs < (goal - before).natAbs := by
  rcases Int.le_total before goal with below | above
  · have := approaches.rising below
    omega
  · have := approaches.falling above
    omega

end Approaches

/-- What every step keeps, and otherwise brings nearer, holds in the end. -/
theorem exists_settled {α : Type} (step : α → α) (Settled : α → Prop) (distance : α → Nat)
    (stays : ∀ state, Settled state → Settled (step state))
    (nears : ∀ state, ¬ Settled state → distance (step state) < distance state) (state : α) :
    ∃ settled, ∀ more, settled ≤ more → Settled (step^[more] state) := by
  generalize far : distance state = bound
  induction bound using Nat.strongRecOn generalizing state with
  | ind bound ih =>
    by_cases done : Settled state
    · refine ⟨0, fun more _ => ?_⟩
      induction more with
      | zero => exact done
      | succ more ih =>
        rw [Function.iterate_succ_apply']
        exact stays _ (ih (Nat.zero_le _))
    · have nearer := nears state done
      obtain ⟨settled, holds⟩ := ih _ (far ▸ nearer) (step state) rfl
      refine ⟨settled + 1, fun more late => ?_⟩
      obtain ⟨rest, rfl⟩ := Nat.exists_eq_add_of_le' (Nat.le_trans (Nat.le_add_left ..) late)
      rw [Function.iterate_succ_apply]
      exact holds rest (Nat.le_of_succ_le_succ late)

section Filter

variable {weight : Nat} {average level : Int}

theorem nextAverage_neg (weight : Nat) (average level : Int) :
    nextAverage weight (some (-average)) (-level) = -nextAverage weight (some average) level := by
  unfold nextAverage
  dsimp only
  rw [Int.mul_neg, Int.mul_neg, Int.neg_tdiv]
  omega

theorem nextAverage_falls (most : weight ≤ 100) (above : 100 * level ≤ average) :
    100 * level ≤ nextAverage weight (some average) level ∧
      nextAverage weight (some average) level ≤ average := by
  have less : (weight : Int) ≤ 100 := Int.ofNat_le.mpr most
  have near : 0 ≤ (weight : Int) * (average - 100 * level) :=
    Int.mul_nonneg (Int.natCast_nonneg weight) (by omega)
  have rest : 0 ≤ (100 - weight : Int) * (average - 100 * level) := Int.mul_nonneg (by omega) (by omega)
  simp only [Int.mul_sub, Int.sub_mul, Int.mul_left_comm _ 100] at near rest
  have share : weight * level ≤ ((weight : Int) * average).tdiv 100 ∧
      ((weight : Int) * average).tdiv 100 ≤ weight * level + (average - 100 * level) :=
    tdiv_between (by decide) (by omega) (by omega)
  unfold nextAverage
  dsimp only
  omega

/-- The new average lies between the one before and the level, rounding included. -/
theorem nextAverage_approaches (most : weight ≤ 100) (average level : Int) :
    Approaches (100 * level) average (nextAverage weight (some average) level) := by
  constructor
  · intro below
    have falls := @nextAverage_falls weight (-average) (-level) most (by omega)
    rw [nextAverage_neg] at falls
    omega
  · exact nextAverage_falls most

theorem tdiv_hundred_of_nonneg {value quotient : Int} (nonneg : 0 ≤ value) :
    value.tdiv 100 = quotient ↔ 100 * quotient ≤ value ∧ value < 100 * quotient + 100 := by
  rw [Int.tdiv_eq_ediv_of_nonneg nonneg]
  omega

theorem tdiv_hundred_of_nonpos {value quotient : Int} (nonpos : value ≤ 0) :
    value.tdiv 100 = quotient ↔ 100 * quotient - 100 < value ∧ value ≤ 100 * quotient := by
  have flip : value.tdiv 100 = -(-value / 100) := by
    rw [← Int.tdiv_eq_ediv_of_nonneg (by omega), Int.neg_tdiv, Int.neg_neg]
  rw [flip]
  omega

theorem tdiv_of_nextAverage_eq (least : 1 ≤ weight)
    (stuck : nextAverage weight (some average) level = average) : average.tdiv 100 = level := by
  have share : ((weight : Int) * average).tdiv 100 = weight * level := by
    unfold nextAverage at stuck
    dsimp only at stuck
    omega
  have least : (1 : Int) ≤ weight := Int.ofNat_le.mpr least
  have product : (weight : Int) * average =
      100 * (weight * level) + weight * (average - 100 * level) := by
    rw [Int.mul_sub, Int.mul_left_comm _ 100]
    omega
  -- a distance of 100 or more to either side would have a share of its own
  have above (far : 0 ≤ average - 100 * level) : average - 100 * level ≤ weight * (average - 100 * level) :=
    le_mul_of_one_le_left far least
  have below (far : average - 100 * level ≤ 0) : weight * (average - 100 * level) ≤ average - 100 * level :=
    mul_le_of_one_le_left far least
  rcases Int.le_total 0 average with nonneg | nonpos
  · rw [tdiv_hundred_of_nonneg (Int.mul_nonneg (by omega) nonneg)] at share
    rw [tdiv_hundred_of_nonneg nonneg]
    omega
  · rw [tdiv_hundred_of_nonpos (Int.mul_nonpos_of_nonneg_of_nonpos (by omega) nonpos)] at share
    rw [tdiv_hundred_of_nonpos nonpos]
    omega

theorem tdiv_nextAverage (most : weight ≤ 100) (settled : average.tdiv 100 = level) :
    (nextAverage weight (some average) level).tdiv 100 = level := by
  have between := nextAverage_approaches most average level
  have whole : (100 * level).tdiv 100 = level := Int.mul_tdiv_cancel_left level (by decide)
  have cut {low high : Int} (le : low ≤ high) : low.tdiv 100 ≤ high.tdiv 100 :=
    Int.tdiv_le_tdiv (by decide) le
  rcases Int.le_total average (100 * level) with below | above
  · have later := cut (between.rising below).1
    have within := cut (between.rising below).2
    omega
  · have within := cut (between.falling above).1
    have later := cut (between.falling above).2
    omega

theorem averageAfter_between {start : Option Int} {levels : List Int} {low high : Int}
    (most : weight ≤ 100) (inside : ∀ level ∈ levels, low ≤ level ∧ level ≤ high)
    (started : ∀ average, start = some average → 100 * low ≤ average ∧ average ≤ 100 * high) :
    ∀ average, averageAfter weight start levels = some average →
      100 * low ≤ average ∧ average ≤ 100 * high := by
  induction levels generalizing start with
  | nil => exact started
  | cons level rest ih =>
    have ⟨above, below⟩ := inside level List.mem_cons_self
    refine ih (fun level member => inside level (List.mem_cons_of_mem _ member)) fun average next => ?_
    cases next
    cases start with
    | none =>
      unfold nextAverage
      dsimp only
      omega
    | some before =>
      have within := started before rfl
      have between := nextAverage_approaches most before level
      rcases Int.le_total before (100 * level) with lower | higher
      · have := between.rising lower
        omega
      · have := between.falling higher
        omega

theorem averageAfter_append (weight : Nat) (start : Option Int) (earlier later : List Int) :
    averageAfter weight start (earlier ++ later) =
      averageAfter weight (averageAfter weight start earlier) later :=
  List.foldl_append

theorem averageAfter_replicate (weight : Nat) (average level : Int) (more : Nat) :
    averageAfter weight (some average) (List.replicate more level) =
      some ((fun average => nextAverage weight (some average) level)^[more] average) := by
  induction more generalizing average with
  | zero => rfl
  | succ more ih => exact ih (nextAverage weight (some average) level)

/-- A level that lasts is what the average comes to. -/
theorem averageAfter_settles (least : 1 ≤ weight) (most : weight ≤ 100) (start : Option Int)
    (level : Int) :
    ∃ settled, ∀ more, settled ≤ more →
      (averageAfter weight start (List.replicate more level)).map (·.tdiv 100) = some level := by
  -- with the first level there is an average
  let began := nextAverage weight start level
  obtain ⟨settled, holds⟩ := exists_settled (fun average => nextAverage weight (some average) level)
    (·.tdiv 100 = level) (fun average => (100 * level - average).natAbs)
    (fun _ settled => tdiv_nextAverage most settled)
    (fun average unsettled => (nextAverage_approaches most average level).natAbs_lt fun stuck =>
      unsettled (tdiv_of_nextAverage_eq least stuck)) began
  refine ⟨settled + 1, fun more late => ?_⟩
  obtain ⟨rest, rfl⟩ := Nat.exists_eq_add_of_le' (Nat.le_trans (Nat.le_add_left ..) late)
  have lasting : averageAfter weight start (List.replicate (rest + 1) level) =
      averageAfter weight (some began) (List.replicate rest level) := rfl
  rw [lasting, averageAfter_replicate, Option.map_some, holds rest (Nat.le_of_succ_le_succ late)]

end Filter

namespace PowerControl

variable {params : PowerParams}

theorem delta_of_filter {weight : UInt8} (filter : params.filter = some weight) (control : PowerControl)
    (measured : Int) :
    control.delta params measured =
      let average := nextAverage weight.toNat control.average measured
      (stepToward params (average.tdiv 100), { control with average := some average }) := by
  unfold delta
  rw [filter]

theorem delta_of_no_filter (plain : params.filter = none) (control : PowerControl) (measured : Int) :
    control.delta params measured = (stepToward params measured, control) := by
  unfold delta
  rw [plain]

theorem deltas_concat (params : PowerParams) (levels : List Int) (last : Int) (control : PowerControl) :
    deltas params (levels ++ [last]) control =
      let (steps, after) := deltas params levels control
      (steps ++ [(after.delta params last).1], (after.delta params last).2) := by
  induction levels generalizing control with
  | nil => rfl
  | cons level rest ih =>
    simp only [List.cons_append, deltas, ih]

theorem deltas_average {weight : UInt8} (filter : params.filter = some weight) (levels : List Int)
    (control : PowerControl) :
    (deltas params levels control).2.average =
      averageAfter weight.toNat control.average levels := by
  induction levels generalizing control with
  | nil => rfl
  | cons level rest ih =>
    simp only [deltas, delta_of_filter filter]
    exact ih _

/-- The filter has no bias. What it makes of the levels lies between the least and the greatest of them, and
the step is the one from there; and of a level that lasts it makes that level in the end. -/
theorem filter_unbiased {weight : UInt8} (filter : params.filter = some weight)
    (least : 1 ≤ weight.toNat) (most : weight.toNat ≤ 99) {control : PowerControl}
    (fresh : control.average = none) :
    (∀ levels, levels ≠ [] → ∃ lowest highest value,
      levels.min? = some lowest ∧ levels.max? = some highest ∧
        (deltas params levels control).2.filtered? = some value ∧
        lowest ≤ value ∧ value ≤ highest ∧
        (deltas params levels control).1.getLast? = some (stepToward params value)) ∧
    ∀ levels level, ∃ settled, ∀ more, settled ≤ more →
      (deltas params (levels ++ List.replicate more level) control).2.filtered? = some level := by
  have most : weight.toNat ≤ 100 := by omega
  constructor
  · intro levels fed
    obtain ⟨lowest, low⟩ := Option.ne_none_iff_exists'.mp (mt List.min?_eq_none_iff.mp fed)
    obtain ⟨highest, high⟩ := Option.ne_none_iff_exists'.mp (mt List.max?_eq_none_iff.mp fed)
    obtain ⟨earlier, last, rfl⟩ := (List.eq_nil_or_concat levels).resolve_left fed
    rw [List.concat_eq_append] at low high ⊢
    have inside (level : Int) (member : level ∈ earlier ++ [last]) :
        lowest ≤ level ∧ level ≤ highest :=
      ⟨(List.min?_eq_some_iff.mp low).2 level member, (List.max?_eq_some_iff.mp high).2 level member⟩
    let before := (deltas params earlier control).2
    let average := nextAverage weight.toNat before.average last
    have made : deltas params (earlier ++ [last]) control =
        ((deltas params earlier control).1 ++ [stepToward params (average.tdiv 100)],
          { before with average := some average }) := by
      rw [deltas_concat]
      simp only [delta_of_filter filter]
      rfl
    have whole : averageAfter weight.toNat none (earlier ++ [last]) = some average := by
      rw [← fresh, ← deltas_average filter, made]
    have between := averageAfter_between most inside (by rintro _ ⟨⟩) average whole
    have cut : lowest ≤ average.tdiv 100 ∧ average.tdiv 100 ≤ highest :=
      tdiv_between (by decide) (by omega) (by omega)
    rw [made]
    exact ⟨lowest, highest, average.tdiv 100, low, high, rfl, cut.1, cut.2, List.getLast?_concat⟩
  · intro levels level
    obtain ⟨settled, holds⟩ := averageAfter_settles least most
      (averageAfter weight.toNat control.average levels) level
    refine ⟨settled, fun more late => ?_⟩
    rw [filtered?, deltas_average filter, averageAfter_append]
    exact holds more late

theorem filter_unbiased_lightest :
    let params := { PowerParams.default with filter := some 1 }
    let control := PowerControl.granted 5 0
    params.filter = some 1 ∧ control.average = none ∧
      (∃ value, (deltas params [-47, -110, -80] control).2.filtered? = some value ∧
        -110 ≤ value ∧ value ≤ -47) ∧
      ∃ settled, ∀ more, settled ≤ more →
        (deltas params ([-47, -110] ++ List.replicate more (-80)) control).2.filtered? = some (-80) := by
  intro params control
  obtain ⟨between, settles⟩ :=
    @filter_unbiased params 1 rfl (by decide) (by decide) control rfl
  obtain ⟨lowest, highest, value, low, high, made, above, below, -⟩ :=
    between [-47, -110, -80] (by decide)
  cases low
  cases high
  exact ⟨rfl, rfl, ⟨value, made, above, below⟩, settles [-47, -110] (-80)⟩

end PowerControl

section Law

variable {params : PowerParams} {level low high : Int}

/-- A step is toward the target and not past it. -/
theorem stepToward_approaches (params : PowerParams) (level : Int) :
    Approaches params.target.toInt level (level + stepToward params level) := by
  unfold stepToward
  dsimp only
  constructor
  · intro below
    split <;> omega
  · intro above
    split <;> omega

theorem stepToward_eq_zero_iff (raises : 1 ≤ params.raiseStep.toNat)
    (lowers : 1 ≤ params.lowerStep.toNat) :
    stepToward params level = 0 ↔
      (params.target.toInt - level).natAbs ≤ params.hysteresis.toNat := by
  unfold stepToward
  dsimp only
  split <;> omega

theorem stepToward_antitone (params : PowerParams) (le : low ≤ high) :
    stepToward params high ≤ stepToward params low := by
  unfold stepToward
  dsimp only
  split <;> split <;> omega

theorem nextAverage_mono (weight : Nat) (average : Option Int) (le : low ≤ high) :
    nextAverage weight average low ≤ nextAverage weight average high := by
  have weighed : (weight : Int) * low ≤ weight * high :=
    Int.mul_le_mul_of_nonneg_left le (Int.natCast_nonneg weight)
  unfold nextAverage
  cases average <;> dsimp only <;> omega

end Law

namespace PowerControl

variable {params : PowerParams}

theorem delta_antitone (params : PowerParams) (control : PowerControl) {low high : Int}
    (le : low ≤ high) : (control.delta params high).1 ≤ (control.delta params low).1 := by
  cases filter : params.filter with
  | none =>
    rw [delta_of_no_filter filter, delta_of_no_filter filter]
    exact stepToward_antitone params le
  | some weight =>
    rw [delta_of_filter filter, delta_of_filter filter]
    exact stepToward_antitone params
      (Int.tdiv_le_tdiv (by decide) (nextAverage_mono weight.toNat control.average le))

theorem iterate_turn (plain : params.filter = none) (control : PowerControl) (start : Int) (k : Nat) :
    (turn params)^[k] (control, start) =
      (control, (fun level => level + stepToward params level)^[k] start) := by
  induction k generalizing start with
  | zero => rfl
  | succ k ih =>
    rw [Function.iterate_succ_apply, Function.iterate_succ_apply, turn, delta_of_no_filter plain]
    exact ih _

theorem iterate_approaches (params : PowerParams) (start : Int) (k : Nat) :
    Approaches params.target.toInt start ((fun level => level + stepToward params level)^[k] start) := by
  induction k with
  | zero => exact .refl ..
  | succ k ih =>
    rw [Function.iterate_succ_apply']
    exact ih.trans (stepToward_approaches params _)

/-- The control law is stable. A higher level never asks for more power; and a level that takes the steps, of
1 dB or more, approaches the target from one side, until it is within the hysteresis and stays. -/
theorem turns_settle (params : PowerParams) (control : PowerControl) :
    (∀ low high, low ≤ high → (control.delta params high).1 ≤ (control.delta params low).1) ∧
    (params.filter = none → 1 ≤ params.raiseStep.toNat → 1 ≤ params.lowerStep.toNat → ∀ start : Int,
      let target := params.target.toInt
      let level : Nat → Int := fun k => ((turn params)^[k] (control, start)).2
      (∀ earlier later, earlier ≤ later → Approaches target (level earlier) (level later) ∧
        (target - level later).natAbs ≤ (target - level earlier).natAbs) ∧
      ∃ settled, (target - level settled).natAbs ≤ params.hysteresis.toNat ∧
        ∀ later, settled ≤ later → level later = level settled) := by
  refine ⟨fun low high le => delta_antitone params control le, fun plain raises lowers start => ?_⟩
  intro target level
  let step (level : Int) : Int := level + stepToward params level
  have stepped (k : Nat) : level k = step^[k] start :=
    congrArg Prod.snd (iterate_turn plain control start k)
  have still {level : Int} (near : (target - level).natAbs ≤ params.hysteresis.toNat) :
      step level = level := by
    show level + stepToward params level = level
    rw [(stepToward_eq_zero_iff raises lowers).mpr near, Int.add_zero]
  constructor
  · intro earlier later le
    obtain ⟨more, rfl⟩ := Nat.exists_eq_add_of_le' le
    have approaches := iterate_approaches params (step^[earlier] start) more
    rw [stepped, stepped, Function.iterate_add_apply]
    exact ⟨approaches, approaches.natAbs_le⟩
  · obtain ⟨settled, holds⟩ := exists_settled step
      (fun level => (target - level).natAbs ≤ params.hysteresis.toNat)
      (fun level => (target - level).natAbs)
      (fun _ near => (still near).symm ▸ near)
      (fun level far => (stepToward_approaches params level).natAbs_lt fun same =>
        far ((stepToward_eq_zero_iff raises lowers).mp (by omega))) start
    have near := holds settled (Nat.le_refl _)
    refine ⟨settled, stepped settled ▸ near, fun later le => ?_⟩
    obtain ⟨more, rfl⟩ := Nat.exists_eq_add_of_le' le
    rw [stepped, stepped, Function.iterate_add_apply, Function.iterate_fixed (still near)]

theorem turns_settle_below :
    let params := { PowerParams.default with hysteresis := 0 }
    let control := PowerControl.granted 5 0
    let level : Nat → Int := fun k => ((turn params)^[k] (control, -110)).2
    params.filter = none ∧ Approaches (-75) (-110) (level 3) ∧
      ∃ settled, level settled = -75 ∧ ∀ later, settled ≤ later → level later = -75 := by
  intro params control level
  obtain ⟨approaching, settled, near, still⟩ :=
    (turns_settle params control).2 rfl (by decide) (by decide) (-110)
  have reached : level settled = -75 := by
    have near : (-75 - level settled).natAbs ≤ 0 := near
    omega
  refine ⟨rfl, (approaching 0 3 (by decide)).1, settled, reached, fun later le => ?_⟩
  rw [← reached]
  exact still later le

end PowerControl

end BaseStation.Lchan
