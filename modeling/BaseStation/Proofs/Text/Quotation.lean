import Mathlib.Data.List.Basic
import BaseStation.Text.Quoted

namespace BaseStation.Text

/-- The texts are found in the whole one behind the other. -/
inductive InOrder : List String → String → Prop
  | nil (whole : String) : InOrder [] whole
  | cons (before text : String) {texts : List String} {rest : String} (later : InOrder texts rest) :
      InOrder (text :: texts) (before ++ text ++ rest)

theorem InOrder.behind {texts : List String} {whole : String} (inOrder : InOrder texts whole)
    (front : String) : InOrder texts (front ++ whole) := by
  cases inOrder with
  | nil => exact .nil _
  | cons before text later =>
    rw [← String.append_assoc, ← String.append_assoc]
    exact .cons (front ++ before) text later

theorem inOrder_intercalate (texts : List String) (between rest : String) :
    InOrder texts (between.intercalate texts ++ rest) := by
  induction texts with
  | nil => exact .nil _
  | cons text texts ih =>
    cases texts with
    | nil =>
      rw [String.intercalate_singleton, ← String.empty_append (s := text)]
      exact .cons "" text (.nil rest)
    | cons next texts =>
      rw [String.intercalate_cons_cons, String.append_assoc, String.append_assoc,
        ← String.empty_append (s := text), String.append_assoc, ← String.append_assoc]
      exact .cons "" text (ih.behind between)

theorem inOrder_quoteList (texts : List String) : InOrder (texts.map quote) (quoteList texts) := by
  rw [quoteList, String.append_assoc]
  exact (inOrder_intercalate _ _ _).behind _

theorem isVisible_of_ascii {c : Char} (low : 0x20 ≤ c.toNat) (high : c.toNat < 0x7F) : isVisible c = true := by
  have apart : ∀ range ∈ hiddenRanges, range.2 < 0x20 ∨ 0x7F ≤ range.1 := by decide +kernel
  simp only [isVisible, Bool.not_eq_true', List.any_eq_false, Bool.and_eq_true, decide_eq_true_eq]
  rintro range mem ⟨above, below⟩
  rcases apart range mem with low' | high' <;> omega

/-- The character shows as itself between quotes. -/
def IsPlain (c : Char) : Prop := 0x20 ≤ c.toNat ∧ c.toNat < 0x7F ∧ c ≠ '"' ∧ c ≠ '\\'

theorem escape_of_isPlain {c : Char} (plain : IsPlain c) : escape c = c.toString := by
  obtain ⟨low, high, quote, backslash⟩ := plain
  unfold escape
  split
  case h_5 => exact absurd rfl quote
  case h_6 => exact absurd rfl backslash
  case h_7 => rw [if_pos (isVisible_of_ascii low high)]
  all_goals exact absurd low (by decide)

theorem quote_of_isPlain {text : String} (plain : ∀ c ∈ text.toList, IsPlain c) :
    quote text = "\"" ++ text ++ "\"" := by
  have same : text.toList.flatMap (fun c => (escape c).toList) = text.toList := by
    refine (List.flatMap_congr fun c mem => ?_).trans (List.flatMap_singleton' _)
    rw [escape_of_isPlain (plain c mem), Char.toString_eq_singleton, String.toList_singleton]
  apply String.toList_inj.mp
  simp [quote, String.toList_join, List.flatMap_map, same]

theorem exists_digitChar {n : Nat} {c : Char} (mem : c ∈ Nat.toDigits 16 n) : ∃ d < 16, c = Nat.digitChar d := by
  induction n using Nat.strongRecOn with
  | ind n ih =>
    rw [Nat.toDigits_eq_if (by decide)] at mem
    split at mem
    case isTrue small => exact ⟨n, small, List.mem_singleton.mp mem⟩
    case isFalse large =>
      rcases List.mem_append.mp mem with front | last
      · exact ih (n / 16) (by omega) front
      · exact ⟨n % 16, Nat.mod_lt _ (by decide), List.mem_singleton.mp last⟩

def hexValue (c : Char) : Nat := "0123456789abcdef".toList.idxOf c

def readHex (digits : List Char) : Nat := digits.foldl (fun n c => n * 16 + hexValue c) 0

theorem readHex_toDigits (n : Nat) : readHex (Nat.toDigits 16 n) = n := by
  have value : ∀ d < 16, hexValue (Nat.digitChar d) = d := by decide +kernel
  induction n using Nat.strongRecOn with
  | ind n ih =>
    rw [Nat.toDigits_eq_if (by decide)]
    split
    case isTrue small => simp [readHex, value n small]
    case isFalse large =>
      have front : readHex (Nat.toDigits 16 (n / 16)) = n / 16 := ih (n / 16) (by omega)
      have last : hexValue (Nat.digitChar (n % 16)) = n % 16 := value _ (Nat.mod_lt _ (by decide))
      rw [readHex] at front ⊢
      rw [List.foldl_append, front, List.foldl_cons, List.foldl_nil, last]
      omega

def ofLetter : Char → Option Char
  | '0' => some '\x00'
  | 't' => some '\t'
  | 'n' => some '\n'
  | 'r' => some '\r'
  | '"' => some '"'
  | '\\' => some '\\'
  | _ => none

/-- Reads the first character of a text that was quoted, up to the closing quote. -/
def unescape : List Char → Option (Char × List Char)
  | [] => none
  | c :: rest =>
    if c = '"' then none
    else if c = '\\' then
      match rest with
      | 'u' :: '\x7b' :: code =>
        some (.ofNat (readHex (code.takeWhile (· ≠ '\x7d'))), (code.dropWhile (· ≠ '\x7d')).tail)
      | letter :: rest => (ofLetter letter).map (·, rest)
      | [] => none
    else some (c, rest)

theorem unescape_code (n : Nat) (rest : List Char) :
    unescape ("\\u\x7b".toList ++ Nat.toDigits 16 n ++ '\x7d' :: rest) = some (.ofNat n, rest) := by
  have digits : ∀ c ∈ Nat.toDigits 16 n, decide (c ≠ '\x7d') = true := by
    intro c mem
    obtain ⟨d, small, rfl⟩ := exists_digitChar mem
    have apart : ∀ d < 16, Nat.digitChar d ≠ '\x7d' := by decide
    exact decide_eq_true (apart d small)
  show some (Char.ofNat (readHex ((Nat.toDigits 16 n ++ '\x7d' :: rest).takeWhile (· ≠ '\x7d'))),
    ((Nat.toDigits 16 n ++ '\x7d' :: rest).dropWhile (· ≠ '\x7d')).tail) = _
  rw [List.takeWhile_append_of_pos digits, List.dropWhile_append_of_pos digits]
  simp [readHex_toDigits]

theorem unescape_escape (c : Char) (rest : List Char) :
    unescape ((escape c).toList ++ rest) = some (c, rest) := by
  unfold escape
  split
  case h_7 quote backslash =>
    split
    · rw [Char.toString_eq_singleton, String.toList_singleton]
      simp only [List.singleton_append, unescape, if_neg quote, if_neg backslash]
    · have code := unescape_code c.toNat rest
      rw [Char.ofNat_toNat] at code
      simpa [hexDigits] using code
  all_goals rfl

theorem escape_append_inj {c d : Char} {rest rest' : List Char}
    (same : (escape c).toList ++ rest = (escape d).toList ++ rest') : c = d ∧ rest = rest' := by
  have read := congrArg unescape same
  rw [unescape_escape, unescape_escape, Option.some_inj] at read
  exact Prod.mk.inj read

theorem flatMap_escape_inj {cs ds rest rest' : List Char}
    (same : cs.flatMap (escape · |>.toList) ++ '"' :: rest = ds.flatMap (escape · |>.toList) ++ '"' :: rest') :
    cs = ds ∧ rest = rest' := by
  -- at the closing quote there is nothing to be read
  have closed (rest : List Char) : unescape ('"' :: rest) = none := rfl
  induction cs generalizing ds with
  | nil =>
    cases ds with
    | nil => exact ⟨rfl, List.tail_eq_of_cons_eq same⟩
    | cons d ds =>
      rw [List.flatMap_cons, List.append_assoc] at same
      have read := congrArg unescape same
      rw [unescape_escape] at read
      cases (closed rest).symm.trans read
  | cons c cs ih =>
    rw [List.flatMap_cons, List.append_assoc] at same
    cases ds with
    | nil =>
      have read := congrArg unescape same
      rw [unescape_escape] at read
      cases (closed rest').symm.trans read.symm
    | cons d ds =>
      rw [List.flatMap_cons, List.append_assoc] at same
      obtain ⟨rfl, later⟩ := escape_append_inj same
      obtain ⟨rfl, rest⟩ := ih later
      exact ⟨rfl, rest⟩

theorem toList_quote (text : String) :
    (quote text).toList = '"' :: (text.toList.flatMap (escape · |>.toList) ++ ['"']) := by
  simp [quote, String.toList_join, List.flatMap_map]

theorem quote_append_inj {text text' : String} {rest rest' : List Char}
    (same : (quote text).toList ++ rest = (quote text').toList ++ rest') : text = text' ∧ rest = rest' := by
  rw [toList_quote, toList_quote, List.cons_append, List.cons_append, List.append_assoc, List.append_assoc] at same
  obtain ⟨chars, rest⟩ := flatMap_escape_inj (List.tail_eq_of_cons_eq same)
  exact ⟨String.toList_inj.mp chars, rest⟩

def others (texts : List String) : List Char := texts.flatMap fun text => ", ".toList ++ (quote text).toList

theorem toList_intercalate_quote (text : String) (texts : List String) :
    (", ".intercalate ((text :: texts).map quote)).toList = (quote text).toList ++ others texts := by
  induction texts generalizing text with
  | nil => simp [others]
  | cons next texts ih =>
    have ih := ih next
    simp only [List.map_cons] at ih
    simp only [List.map_cons, String.intercalate_cons_cons, String.toList_append, ih]
    simp [others]

theorem toList_quoteList (texts : List String) : (quoteList texts).toList = '[' :: match texts with
    | [] => [']']
    | text :: texts => (quote text).toList ++ (others texts ++ [']']) := by
  rw [quoteList, String.toList_append, String.toList_append]
  cases texts with
  | nil => rfl
  | cons text texts =>
    rw [toList_intercalate_quote, List.append_assoc, List.append_assoc]
    rfl

theorem others_inj {texts texts' : List String} (same : others texts ++ [']'] = others texts' ++ [']']) :
    texts = texts' := by
  induction texts generalizing texts' with
  | nil =>
    cases texts' with
    | nil => rfl
    | cons text' texts' => simp [others] at same
  | cons text texts ih =>
    cases texts' with
    | nil => simp [others] at same
    | cons text' texts' =>
      simp only [others, List.flatMap_cons, List.append_assoc, List.append_cancel_left_eq] at same
      obtain ⟨rfl, later⟩ := quote_append_inj same
      rw [ih later]

/-- A list of quoted texts can be read back. -/
theorem quoteList_inj {texts texts' : List String} : quoteList texts = quoteList texts' ↔ texts = texts' := by
  refine ⟨fun same => ?_, congrArg _⟩
  have same := congrArg String.toList same
  rw [toList_quoteList, toList_quoteList] at same
  have same := List.tail_eq_of_cons_eq same
  cases texts with
  | nil =>
    cases texts' with
    | nil => rfl
    | cons text' texts' => simp [toList_quote] at same
  | cons text texts =>
    cases texts' with
    | nil => simp [toList_quote] at same
    | cons text' texts' =>
      obtain ⟨rfl, later⟩ := quote_append_inj same
      rw [others_inj later]

end BaseStation.Text
