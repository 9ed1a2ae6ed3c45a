import Mathlib.Data.Int.ModEq
import BaseStation.Frame.Time

namespace BaseStation

/-- Less than half a hyperframe ahead, or at most half of one back. -/
def IsShort (frames : Int) : Prop := -halfHyperframe ≤ frames ∧ frames < halfHyperframe

instance (frames : Int) : Decidable (IsShort frames) := inferInstanceAs (Decidable (_ ∧ _))

theorem raised_modEq (difference : Int) : raised difference ≡ difference [ZMOD hyperframe] := by
  fun_induction raised difference with
  | case1 difference far ih => exact Int.modEq_add_modulus_iff.mp ih
  | case2 difference near => rfl

theorem lowered_modEq (difference : Int) : lowered difference ≡ difference [ZMOD hyperframe] := by
  fun_induction lowered difference with
  | case1 difference far ih => exact Int.modEq_sub_modulus_iff.mp ih
  | case2 difference near => rfl

theorem le_raised (difference : Int) : -halfHyperframe ≤ raised difference := by
  fun_induction raised difference with
  | case1 difference far ih => exact ih
  | case2 difference near => omega

theorem lowered_isShort {difference : Int} (low : -halfHyperframe ≤ difference) :
    IsShort (lowered difference) := by
  fun_induction lowered difference with
  | case1 difference far ih =>
    apply ih
    simp only [halfHyperframe, hyperframe] at far ⊢
    omega
  | case2 difference near => exact ⟨low, by omega⟩

theorem IsShort.eq_of_modEq {a b : Int} (short : IsShort a) (short' : IsShort b)
    (congruent : a ≡ b [ZMOD hyperframe]) : a = b := by
  unfold IsShort halfHyperframe at short short'
  unfold Int.ModEq at congruent
  simp only [hyperframe] at short short' congruent
  omega

/-- The correction loops leave the difference congruent and take it into the window. -/
theorem frameDifference_eq_iff (a b : Nat) (frames : Int) :
    frames = frameDifference a b ↔
      IsShort frames ∧ frames ≡ signedWord a - signedWord b [ZMOD hyperframe] := by
  have short : IsShort (frameDifference a b) := lowered_isShort (le_raised _)
  have congruent : frameDifference a b ≡ signedWord a - signedWord b [ZMOD hyperframe] :=
    (lowered_modEq _).trans (raised_modEq _)
  constructor
  · intro same
    rw [same]
    exact ⟨short, congruent⟩
  · intro represents
    exact represents.1.eq_of_modEq short (represents.2.trans congruent.symm)

namespace FrameTime

variable {time since : FrameTime}

theorem IsValid.signedWord_frame (valid : time.IsValid) : signedWord time.frame = time.frame := by
  unfold IsValid hyperframe at valid
  unfold signedWord
  apply Int.bmod_eq_of_le
  · omega
  · simp only [UInt32.size]
    omega

theorem diff_eq_iff (valid : time.IsValid) (valid' : since.IsValid) (frames : Int) :
    frames = time.diff since ↔
      IsShort frames ∧ frames ≡ time.frame - since.frame [ZMOD hyperframe] := by
  rw [diff, frameDifference_eq_iff, valid.signedWord_frame, valid'.signedWord_frame]

theorem frame_advance (time : FrameTime) (frames : Int) :
    ((time.advance frames).frame : Int) = (time.frame + frames) % hyperframe := by
  apply Int.toNat_of_nonneg
  apply Int.emod_nonneg
  decide

theorem isValid_advance (time : FrameTime) (frames : Int) : (time.advance frames).IsValid := by
  have below := Int.emod_lt_of_pos (time.frame + frames) (show (0 : Int) < hyperframe by decide)
  rw [← frame_advance] at below
  exact Int.ofNat_lt.mp below

theorem eq_of_modEq (valid : time.IsValid) (valid' : since.IsValid)
    (congruent : (time.frame : Int) ≡ since.frame [ZMOD hyperframe]) : time = since := by
  rcases time with ⟨frame⟩
  rcases since with ⟨frame'⟩
  have same : (frame : Int) % hyperframe = frame' % hyperframe := congruent
  have small : frame % hyperframe = frame := Nat.mod_eq_of_lt valid
  have small' : frame' % hyperframe = frame' := Nat.mod_eq_of_lt valid'
  have same : frame % hyperframe = frame' % hyperframe := by exact_mod_cast same
  rw [small, small'] at same
  rw [same]

theorem frame_advance_modEq (time : FrameTime) (frames : Int) :
    ((time.advance frames).frame : Int) ≡ time.frame + frames [ZMOD hyperframe] := by
  rw [frame_advance]
  exact Int.mod_modEq _ _

theorem advance_zero (valid : time.IsValid) : time.advance 0 = time := by
  apply eq_of_modEq (time.isValid_advance 0) valid
  simpa using time.frame_advance_modEq 0

theorem advance_advance (time : FrameTime) (first second : Int) :
    (time.advance first).advance second = time.advance (first + second) := by
  apply eq_of_modEq (isValid_advance _ _) (isValid_advance _ _)
  calc (((time.advance first).advance second).frame : Int)
      ≡ (time.advance first).frame + second [ZMOD hyperframe] := frame_advance_modEq _ _
    _ ≡ time.frame + first + second [ZMOD hyperframe] := (frame_advance_modEq _ _).add_right _
    _ ≡ time.frame + (first + second) [ZMOD hyperframe] := by rw [Int.add_assoc]
    _ ≡ (time.advance (first + second)).frame [ZMOD hyperframe] := (frame_advance_modEq _ _).symm

theorem foldl_advance (valid : time.IsValid) (steps : List Int) :
    steps.foldl advance time = time.advance steps.sum := by
  induction steps generalizing time with
  | nil => exact (advance_zero valid).symm
  | cons step steps ih =>
    rw [List.foldl_cons, ih (isValid_advance _ _), advance_advance, List.sum_cons]

theorem diff_advance (valid : time.IsValid) {frames : Int} (short : IsShort frames) :
    (time.advance frames).diff time = frames := by
  symm
  apply (diff_eq_iff (isValid_advance _ _) valid frames).mpr
  constructor
  · exact short
  · have reached := (time.frame_advance_modEq frames).symm.sub_right time.frame
    rwa [show time.frame + frames - time.frame = frames by omega] at reached

theorem advance_diff (valid : time.IsValid) (valid' : since.IsValid) :
    since.advance (time.diff since) = time := by
  have congruent := ((diff_eq_iff valid valid' _).mp rfl).2
  apply eq_of_modEq (isValid_advance _ _) valid
  have reached := (since.frame_advance_modEq (time.diff since)).trans (congruent.add_left since.frame)
  rwa [show (since.frame : Int) + (time.frame - since.frame) = time.frame by omega] at reached

theorem diff_comm (valid : time.IsValid) (valid' : since.IsValid)
    (near : time.diff since ≠ -halfHyperframe) : time.diff since = -since.diff time := by
  have ⟨short, congruent⟩ := (diff_eq_iff valid valid' _).mp rfl
  have back : -time.diff since = since.diff time := by
    apply (diff_eq_iff valid' valid _).mpr
    constructor
    · unfold IsShort at short ⊢
      omega
    · rw [← Int.neg_sub]
      exact congruent.neg
  rw [← back, Int.neg_neg]

theorem age_foldl_advance (valid : time.IsValid) (steps : List Int) (frames : Int) :
    frames = time.age (steps.foldl advance time) ↔
      IsShort frames ∧ frames ≡ steps.sum [ZMOD hyperframe] := by
  rw [foldl_advance valid, age, diff_eq_iff (isValid_advance _ _) valid]
  have congruent := (time.frame_advance_modEq steps.sum).sub_right time.frame
  rw [show time.frame + steps.sum - time.frame = steps.sum by omega] at congruent
  constructor
  · intro represents
    exact ⟨represents.1, represents.2.trans congruent⟩
  · intro represents
    exact ⟨represents.1, represents.2.trans congruent.symm⟩

/-- A walk of any steps ends where their sum leads, and the age of its start is the short way back. The
difference of two times is the one short step between them, and undoes itself but for half a hyperframe. -/
theorem advance_acts {start : FrameTime} (valid : start.IsValid) :
    (∀ steps : List Int,
      (steps.foldl advance start).IsValid
      ∧ ((steps.foldl advance start).frame : Int) = (start.frame + steps.sum) % hyperframe
      ∧ ∀ frames, frames = start.age (steps.foldl advance start) ↔
        IsShort frames ∧ frames ≡ steps.sum [ZMOD hyperframe])
    ∧ (∀ frames, IsShort frames → (start.advance frames).diff start = frames)
    ∧ ∀ other : FrameTime, other.IsValid →
      (∀ frames, frames = start.diff other ↔
        IsShort frames ∧ frames ≡ start.frame - other.frame [ZMOD hyperframe])
      ∧ other.advance (start.diff other) = start
      ∧ (start.diff other ≠ -halfHyperframe → start.diff other = -other.diff start) := by
  constructor
  · intro steps
    have ends := foldl_advance valid steps
    rw [ends]
    refine ⟨isValid_advance _ _, frame_advance _ _, fun frames => ?_⟩
    rw [← ends]
    exact age_foldl_advance valid steps frames
  constructor
  · intro frames short
    exact diff_advance valid short
  · intro other valid'
    exact ⟨diff_eq_iff valid valid', advance_diff valid valid', diff_comm valid valid'⟩

theorem advance_acts_halfWay :
    let start : FrameTime := ⟨2715640⟩
    let reached := [2000000, -642176].foldl advance start
    start.IsValid
      ∧ (reached.frame : Int) = 1357816
      ∧ start.age reached = -halfHyperframe
      ∧ IsShort (-8) ∧ (start.advance (-8)).diff start = -8
      ∧ start.diff ⟨3⟩ = -11 ∧ FrameTime.diff ⟨3⟩ start = 11 := by
  intro start reached
  have valid : start.IsValid := by decide
  have near : IsShort (-8) := by decide
  rcases advance_acts valid with ⟨walks, steps, others⟩
  rcases walks [2000000, -642176] with ⟨-, ends, age⟩
  rcases others ⟨3⟩ (by decide) with ⟨represents, -, back⟩
  have short : start.diff ⟨3⟩ = -11 := ((represents (-11)).mpr (by decide)).symm
  have far : start.age reached = -halfHyperframe := ((age (-halfHyperframe)).mpr (by decide)).symm
  have other : start.diff ⟨3⟩ = -FrameTime.diff ⟨3⟩ start := back (by rw [short]; decide)
  refine ⟨valid, ends.trans (by decide), far, near, steps (-8) near, short, ?_⟩
  omega

end FrameTime

end BaseStation
