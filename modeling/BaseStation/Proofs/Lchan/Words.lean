import BaseStation.Proofs.Outcome

namespace BaseStation

inductive WordFault
  | overflow
  | zeroDivision
  | emptyClamp
  | outOfBounds
  | lossyCast
  deriving DecidableEq, Repr

abbrev Checked := Except WordFault

/-- Words without a sign. The word for sizes is taken to be no wider than the narrowest there is. -/
inductive Unsigned
  | u8
  | u16
  | u32
  | u64
  | size

namespace Unsigned

def max : Unsigned → Nat
  | u8 => 255
  | u16 | size => 65535
  | u32 => 4294967295
  | u64 => 18446744073709551615

variable (word : Unsigned)

def fit (value : Nat) : Checked Nat :=
  if value ≤ word.max then .ok value else .error .overflow

def add (a b : Nat) : Checked Nat := word.fit (a + b)

def mul (a b : Nat) : Checked Nat := word.fit (a * b)

def sub (a b : Nat) : Checked Nat := if b ≤ a then word.fit (a - b) else .error .overflow

def div (a b : Nat) : Checked Nat := if b = 0 then .error .zeroDivision else word.fit (a / b)

def rem (a b : Nat) : Checked Nat := if b = 0 then .error .zeroDivision else word.fit (a % b)

def cast (value : Int) : Checked Nat :=
  if 0 ≤ value ∧ value ≤ word.max then .ok value.toNat else .error .lossyCast

end Unsigned

inductive Signed
  | i16
  | i32

namespace Signed

def max : Signed → Int
  | i16 => 32767
  | i32 => 2147483647

variable (word : Signed)

def Fits (value : Int) : Prop := -word.max - 1 ≤ value ∧ value ≤ word.max

instance (value : Int) : Decidable (word.Fits value) := inferInstanceAs (Decidable (_ ∧ _))

def fit (value : Int) : Checked Int :=
  if word.Fits value then .ok value else .error .overflow

def add (a b : Int) : Checked Int := word.fit (a + b)

def sub (a b : Int) : Checked Int := word.fit (a - b)

def mul (a b : Int) : Checked Int := word.fit (a * b)

def neg (a : Int) : Checked Int := word.fit (-a)

def abs (a : Int) : Checked Int := word.fit a.natAbs

def div (a b : Int) : Checked Int := if b = 0 then .error .zeroDivision else word.fit (a.tdiv b)

def cast (value : Int) : Checked Int :=
  if word.Fits value then .ok value else .error .lossyCast

end Signed

namespace Checked

variable {α β : Type}

def clamp (low high value : Int) : Checked Int :=
  if high < low then .error .emptyClamp else .ok (max low (min value high))

def dropTo (position : Nat) (items : List α) : Checked (List α) :=
  if position ≤ items.length then .ok (items.drop position) else .error .outOfBounds

def slice (first past : Nat) (items : List α) : Checked (List α) :=
  if first ≤ past ∧ past ≤ items.length then .ok ((items.take past).drop first)
  else .error .outOfBounds

def item (items : List α) (position : Nat) : Checked α :=
  match items[position]? with
  | some item => .ok item
  | none => .error .outOfBounds

theorem clamp_ok {low high : Int} (value : Int) (bounds : low ≤ high) :
    clamp low high value = .ok (max low (min value high)) := if_neg (by omega)

theorem dropTo_ok {position : Nat} {items : List α} (inside : position ≤ items.length) :
    dropTo position items = .ok (items.drop position) := if_pos inside

/-- A fold whose steps all come out as they should, as long as there are not too many. -/
theorem foldlM_ok (step : β → α → Checked β) (plain : β → α → β) (Within : Nat → β → Prop)
    {limit : Nat} {items : List α}
    (steps : ∀ count state, count < limit → Within count state → ∀ item ∈ items,
      step state item = .ok (plain state item) ∧ Within (count + 1) (plain state item))
    {count : Nat} {state : β} (within : Within count state) (few : count + items.length ≤ limit) :
    items.foldlM step state = .ok (items.foldl plain state)
      ∧ Within (count + items.length) (items.foldl plain state) := by
  induction items generalizing count state with
  | nil => exact ⟨rfl, within⟩
  | cons item rest ih =>
    rw [List.length_cons] at few
    obtain ⟨stepped, kept⟩ := steps count state (by omega) within item List.mem_cons_self
    have later := ih (fun count state room within item mem =>
      steps count state room within item (List.mem_cons_of_mem _ mem)) kept (by omega)
    rw [List.foldlM_cons, stepped, List.foldl_cons, List.length_cons,
      show count + (rest.length + 1) = count + 1 + rest.length by omega]
    exact later

end Checked

namespace Unsigned

variable {word : Unsigned} {a b : Nat}

theorem add_ok (fits : a + b ≤ word.max) : word.add a b = .ok (a + b) := if_pos fits

theorem mul_ok (fits : a * b ≤ word.max) : word.mul a b = .ok (a * b) := if_pos fits

theorem sub_ok (below : b ≤ a) (fits : a ≤ word.max) : word.sub a b = .ok (a - b) := by
  have small : a - b ≤ word.max := Nat.le_trans (Nat.sub_le a b) fits
  rw [sub, if_pos below, fit, if_pos small]

theorem div_ok (divisor : 0 < b) (fits : a ≤ word.max) : word.div a b = .ok (a / b) := by
  have small : a / b ≤ word.max := Nat.le_trans (Nat.div_le_self a b) fits
  rw [div, if_neg (by omega), fit, if_pos small]

theorem rem_ok (divisor : 0 < b) (fits : a ≤ word.max) : word.rem a b = .ok (a % b) := by
  have small : a % b ≤ word.max := Nat.le_trans (Nat.mod_le a b) fits
  rw [rem, if_neg (by omega), fit, if_pos small]

theorem cast_ok {value : Int} (least : 0 ≤ value) (greatest : value ≤ word.max) :
    word.cast value = .ok value.toNat := if_pos ⟨least, greatest⟩

end Unsigned

namespace Signed

variable {word : Signed} {a b : Int}

theorem add_ok (fits : word.Fits (a + b)) : word.add a b = .ok (a + b) := if_pos fits

theorem sub_ok (fits : word.Fits (a - b)) : word.sub a b = .ok (a - b) := if_pos fits

theorem mul_ok (fits : word.Fits (a * b)) : word.mul a b = .ok (a * b) := if_pos fits

theorem neg_ok (fits : word.Fits (-a)) : word.neg a = .ok (-a) := if_pos fits

theorem abs_ok (fits : word.Fits a.natAbs) : word.abs a = .ok (a.natAbs : Int) := if_pos fits

theorem div_ok (divisor : b ≠ 0) (fits : word.Fits (a.tdiv b)) :
    word.div a b = .ok (a.tdiv b) := by
  rw [div, if_neg divisor, fit, if_pos fits]

theorem cast_ok (fits : word.Fits a) : word.cast a = .ok a := if_pos fits

end Signed

theorem tdiv_between {a b low high : Int} (divisor : 0 < b) (least : low * b ≤ a)
    (greatest : a ≤ high * b) : low ≤ a.tdiv b ∧ a.tdiv b ≤ high := by
  have above := Int.tdiv_le_tdiv divisor least
  have below := Int.tdiv_le_tdiv divisor greatest
  rw [Int.mul_tdiv_cancel _ (by omega)] at above below
  exact ⟨above, below⟩

end BaseStation
