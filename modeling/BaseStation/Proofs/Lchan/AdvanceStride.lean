import BaseStation.Proofs.Lchan.Loops

namespace BaseStation

namespace LogicalChannel

open Lchan

/-- The channel before block number `k`, counted from 0, where each block has an offset. -/
def beforeBlock (lchan : LogicalChannel) (interval : Nat) (offsets : Nat → Int) :
    Nat → LogicalChannel
  | 0 => lchan
  | k + 1 => ((lchan.beforeBlock interval offsets k).controlAdvance interval (offsets k)).2

section

variable (lchan : LogicalChannel) (interval : Nat) (offsets : Nat → Int) (k : Nat)

def SkipsBlock : Prop := 0 < (lchan.beforeBlock interval offsets k).advance.skip

def MovesWithBlock : Prop :=
  (lchan.beforeBlock interval offsets (k + 1)).advance.current ≠
    (lchan.beforeBlock interval offsets k).advance.current

instance : Decidable (lchan.SkipsBlock interval offsets k) := inferInstanceAs (Decidable (_ < _))

instance : Decidable (lchan.MovesWithBlock interval offsets k) := inferInstanceAs (Decidable (_ ≠ _))

end

variable {lchan : LogicalChannel} {interval : Nat} {offsets : Nat → Int} {k : Nat}

theorem advance_of_skipsBlock (skips : lchan.SkipsBlock interval offsets k) :
    (lchan.beforeBlock interval offsets (k + 1)).advance =
      { (lchan.beforeBlock interval offsets k).advance with
        skip := (lchan.beforeBlock interval offsets k).advance.skip - 1 } :=
  congrArg (·.advance) (controlAdvance_skipping skips interval (offsets k))

theorem advance_of_evaluates (evaluates : ¬ lchan.SkipsBlock interval offsets k) :
    (lchan.beforeBlock interval offsets (k + 1)).advance =
      ⟨adjusted (lchan.beforeBlock interval offsets k).advance.current (offsets k), interval⟩ :=
  congrArg (·.advance) (controlAdvance_evaluating evaluates interval (offsets k))

theorem evaluates_of_moves (moves : lchan.MovesWithBlock interval offsets k) :
    ¬ lchan.SkipsBlock interval offsets k := by
  intro skips
  apply moves
  rw [advance_of_skipsBlock skips]

/-- The blocks left to skip lead up to the next multiple of the stride. -/
theorem skip_reaches (due : lchan.advance.skip = 0) (interval : Nat) (offsets : Nat → Int) (k : Nat) :
    (lchan.beforeBlock interval offsets k).advance.skip ≤ interval ∧
      interval + 1 ∣ k + (lchan.beforeBlock interval offsets k).advance.skip := by
  induction k with
  | zero =>
    rw [beforeBlock, due]
    exact ⟨Nat.zero_le _, Nat.dvd_zero _⟩
  | succ k ih =>
    rcases ih with ⟨few, reaches⟩
    by_cases skips : lchan.SkipsBlock interval offsets k
    · rw [advance_of_skipsBlock skips]
      unfold SkipsBlock at skips
      dsimp only
      constructor
      · omega
      · rwa [show k + 1 + ((lchan.beforeBlock interval offsets k).advance.skip - 1) =
          k + (lchan.beforeBlock interval offsets k).advance.skip by omega]
    · rw [advance_of_evaluates skips]
      have due : (lchan.beforeBlock interval offsets k).advance.skip = 0 := Nat.eq_zero_of_not_pos skips
      rw [due, Nat.add_zero] at reaches
      constructor
      · exact Nat.le_refl _
      · rw [show k + 1 + interval = k + (interval + 1) by omega]
        exact Nat.dvd_add reaches (Nat.dvd_refl _)

theorem skipsBlock_iff (due : lchan.advance.skip = 0) :
    lchan.SkipsBlock interval offsets k ↔ ¬ interval + 1 ∣ k := by
  rcases skip_reaches due interval offsets k with ⟨few, reaches⟩
  constructor
  · intro skips whole
    -- what is left to skip would be a multiple of the stride, and it is less than one
    have left := (Nat.dvd_add_right whole).mp reaches
    have := Nat.le_of_dvd skips left
    omega
  · intro between
    apply Nat.pos_of_ne_zero
    intro due
    apply between
    rwa [due, Nat.add_zero] at reaches

theorem evaluates_iff (due : lchan.advance.skip = 0) :
    ¬ lchan.SkipsBlock interval offsets k ↔ interval + 1 ∣ k := by
  rw [skipsBlock_iff due, Decidable.not_not]

theorem last_multiple {stride first : Nat} (whole : stride ∣ first) (after : first < k)
    (near : k < first + stride) : first = k - k % stride ∧ ¬ stride ∣ k := by
  have rest : k % stride = k - first := by
    have split : k = first + (k - first) := by omega
    rw [split, Nat.add_mod, Nat.mod_eq_zero_of_dvd whole, Nat.zero_add, Nat.mod_mod,
      Nat.mod_eq_of_lt (by omega)]
    omega
  constructor
  · omega
  · intro multiple
    have := Nat.mod_eq_zero_of_dvd multiple
    omega

theorem skips_after_move (due : lchan.advance.skip = 0)
    (moves : lchan.MovesWithBlock interval offsets k) :
    (∀ later, k < later → later ≤ k + interval → lchan.SkipsBlock interval offsets later) ∧
      ¬ lchan.SkipsBlock interval offsets (k + interval + 1) := by
  have whole : interval + 1 ∣ k := (evaluates_iff due).mp (evaluates_of_moves moves)
  constructor
  · intro later after near
    exact (skipsBlock_iff due).mpr (last_multiple whole after (by omega)).2
  · apply (evaluates_iff due).mpr
    rw [Nat.add_assoc]
    exact Nat.dvd_add whole (Nat.dvd_refl _)

theorem moved_before_iff (due : lchan.advance.skip = 0) (between : ¬ interval + 1 ∣ k) :
    (∃ earlier < k, k ≤ earlier + interval ∧ lchan.MovesWithBlock interval offsets earlier) ↔
      lchan.MovesWithBlock interval offsets (k - k % (interval + 1)) := by
  constructor
  · intro found
    rcases found with ⟨earlier, before, near, moves⟩
    have whole : interval + 1 ∣ earlier := (evaluates_iff due).mp (evaluates_of_moves moves)
    rwa [← (last_multiple whole before (by omega)).1]
  · intro moves
    have indivisible : k % (interval + 1) ≠ 0 := fun zero => between (Nat.dvd_of_mod_eq_zero zero)
    have small : k % (interval + 1) < interval + 1 := Nat.mod_lt _ (Nat.succ_pos _)
    have inside : k % (interval + 1) ≤ k := Nat.mod_le _ _
    exact ⟨k - k % (interval + 1), by omega, by omega, moves⟩

/-- Blocks are evaluated at a fixed stride, one more than the interval; the others leave the timing advance
as it is. So after a move the blocks of the interval are skipped, and no more, but a block is skipped for a
move just if the last evaluation made one. -/
theorem evaluates_by_stride (due : lchan.advance.skip = 0) (interval : Nat) (offsets : Nat → Int)
    (k : Nat) :
    (lchan.SkipsBlock interval offsets k ↔ ¬ interval + 1 ∣ k) ∧
    (lchan.beforeBlock interval offsets (k + 1)).advance.current =
      (if lchan.SkipsBlock interval offsets k then
        (lchan.beforeBlock interval offsets k).advance.current
      else adjusted (lchan.beforeBlock interval offsets k).advance.current (offsets k)) ∧
    (lchan.MovesWithBlock interval offsets k →
      (∀ later, k < later → later ≤ k + interval → lchan.SkipsBlock interval offsets later) ∧
        ¬ lchan.SkipsBlock interval offsets (k + interval + 1)) ∧
    ((lchan.SkipsBlock interval offsets k →
        ∃ earlier < k, k ≤ earlier + interval ∧ lchan.MovesWithBlock interval offsets earlier) ↔
      interval + 1 ∣ k ∨ lchan.MovesWithBlock interval offsets (k - k % (interval + 1))) := by
  refine ⟨skipsBlock_iff due, ?_, skips_after_move due, ?_⟩
  · by_cases skips : lchan.SkipsBlock interval offsets k
    · rw [if_pos skips, advance_of_skipsBlock skips]
    · rw [if_neg skips, advance_of_evaluates skips]
  · by_cases whole : interval + 1 ∣ k
    · have evaluates : ¬ lchan.SkipsBlock interval offsets k := (evaluates_iff due).mpr whole
      constructor
      · intro _
        exact .inl whole
      · intro _ skips
        exact absurd skips evaluates
    · rw [← moved_before_iff due whole]
      have skips : lchan.SkipsBlock interval offsets k := (skipsBlock_iff due).mpr whole
      constructor
      · intro rule
        exact .inr (rule skips)
      · intro found _
        exact found.resolve_left whole

theorem evaluates_by_stride_late :
    let lchan := fresh ⟨0, 3, 0⟩ .tchF .tchF .speechV1
    lchan.advance.skip = 0 ∧ lchan.SkipsBlock 2 (fun _ => 500) 5 ∧
      (∃ earlier < 5, 5 ≤ earlier + 2 ∧ lchan.MovesWithBlock 2 (fun _ => 500) earlier) ∧
      ¬ lchan.SkipsBlock 2 (fun _ => 500) 6 := by
  intro lchan
  have due : lchan.advance.skip = 0 := rfl
  rcases evaluates_by_stride due 2 (fun _ => 500) 5 with ⟨stride, -, -, rule⟩
  have skips : lchan.SkipsBlock 2 (fun _ => 500) 5 := stride.mpr (by decide)
  have moved := rule.mpr (.inr (by decide)) skips
  rcases (evaluates_by_stride due 2 (fun _ => 500) 3).2.2.1 (by decide) with ⟨-, next⟩
  exact ⟨due, skips, moved, next⟩

/-- The second block is skipped although the first, of a mobile station in time, moved nothing. The timing
advance that it asks for is not set. -/
theorem skips_without_move :
    let lchan := fresh ⟨0, 2, 0⟩ .tchF .tchF .speechV1
    let offsets : Nat → Int := fun k => if k = 0 then 0 else 500
    lchan.SkipsBlock 2 offsets 1 ∧
      (¬ ∃ earlier < 1, 1 ≤ earlier + 2 ∧ lchan.MovesWithBlock 2 offsets earlier) ∧
      (lchan.beforeBlock 2 offsets 2).advance.current ≠
        adjusted (lchan.beforeBlock 2 offsets 1).advance.current (offsets 1) := by
  intro lchan offsets
  have still : ¬ lchan.MovesWithBlock 2 offsets 0 := by decide
  refine ⟨by decide, ?_, by decide⟩
  intro found
  rcases found with ⟨earlier, before, -, moves⟩
  rw [show earlier = 0 by omega] at moves
  exact still moves

end LogicalChannel

end BaseStation
