import Mathlib.Data.List.Perm.Basic
import BaseStation.Text.Blank

namespace BaseStation.Text

def octets (text : String) : List UInt8 := text.toUTF8.data.toList

variable {s t : String} {names names' : List String}

theorem octets_eq_flatMap (text : String) : octets text = text.toList.flatMap String.utf8EncodeChar := by
  rw [octets, String.toUTF8_eq_toByteArray, ← String.utf8Encode_toList]
  exact List.toList_data_toByteArray

theorem utf8EncodeChar_lt {c d : Char} (less : c < d) (rest rest' : List UInt8) :
    String.utf8EncodeChar c ++ rest < String.utf8EncodeChar d ++ rest' := by
  have less : c.val.toNat < d.val.toNat := UInt32.lt_iff_toNat_lt.mp (Char.lt_def.mp less)
  have valid : d.val.toNat < 0x110000 := by
    rcases d.valid with low | high <;> omega
  unfold String.utf8EncodeChar
  generalize c.val.toNat = v at *
  generalize d.val.toNat = w at *
  have shift (n : Nat) : n / 4096 = n / 64 / 64 ∧ n / 262144 = n / 64 / 64 / 64 := by
    simp only [Nat.div_div_eq_div_mul, Nat.reduceMul, and_self]
  simp only [shift]
  -- by how many octets each of the two takes
  repeat' split
  all_goals
    simp only [List.cons_append, List.nil_append, List.cons_lt_cons_iff, UInt8.lt_iff_toNat_lt,
      ← UInt8.toNat_inj, UInt8.toNat_ofNat']
    omega

theorem flatMap_utf8EncodeChar_lt {cs ds : List Char} (less : cs < ds) :
    cs.flatMap String.utf8EncodeChar < ds.flatMap String.utf8EncodeChar := by
  induction cs generalizing ds with
  | nil =>
    cases ds with
    | nil => exact absurd less (List.not_lt_nil _)
    | cons d ds =>
      obtain ⟨octet, more, encoded⟩ := List.exists_cons_of_ne_nil (String.utf8EncodeChar_ne_nil (c := d))
      rw [List.flatMap_nil, List.flatMap_cons, encoded, List.cons_append]
      exact List.nil_lt_cons _ _
  | cons c cs ih =>
    cases ds with
    | nil => exact absurd less (List.not_lt_nil _)
    | cons d ds =>
      rw [List.flatMap_cons, List.flatMap_cons]
      rcases List.cons_lt_cons_iff.mp less with first | ⟨rfl, later⟩
      · exact utf8EncodeChar_lt first _ _
      · exact List.append_left_lt (ih later)

theorem octets_lt (less : s < t) : octets s < octets t := by
  rw [octets_eq_flatMap, octets_eq_flatMap]
  exact flatMap_utf8EncodeChar_lt (String.lt_iff.mp less)

/-- Texts are in the order of their octets as they are in that of their code points. -/
theorem octets_le_iff : octets s ≤ octets t ↔ s ≤ t := by
  constructor
  · intro le
    refine String.not_lt.mp fun less => ?_
    exact List.not_lt.mpr le (octets_lt less)
  · intro le
    refine List.not_lt.mp fun less => ?_
    have back : t ≤ s := String.not_lt.mp fun less' => List.lt_asymm less (octets_lt less')
    rw [String.le_antisymm le back] at less
    exact List.lt_irrefl _ less

theorem mergeSort_pairwise (names : List String) :
    (names.mergeSort fun a b => !decide (b < a)).Pairwise fun a b => octets a ≤ octets b := by
  have le {a b : String} : (!decide (b < a)) = true ↔ a ≤ b := by
    rw [Bool.not_eq_true', decide_eq_false_iff_not, String.not_lt]
  refine (List.pairwise_mergeSort ?_ ?_ names).imp fun less => octets_le_iff.mpr (le.mp less)
  · intro a b c first second
    exact le.mpr (String.le_trans (le.mp first) (le.mp second))
  · intro a b
    rw [Bool.or_eq_true, le, le]
    exact String.le_total a b

theorem mergeSort_eq_of_perm (perm : names.Perm names') :
    (names.mergeSort fun a b => !decide (b < a)) = names'.mergeSort fun a b => !decide (b < a) := by
  refine List.Perm.eq_of_pairwise (fun a b _ _ le ge => ?_) (mergeSort_pairwise names) (mergeSort_pairwise names') ?_
  · exact String.le_antisymm (octets_le_iff.mp le) (octets_le_iff.mp ge)
  · exact (List.mergeSort_perm names _).trans (perm.trans (List.mergeSort_perm names' _).symm)

end BaseStation.Text
