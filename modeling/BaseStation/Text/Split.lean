namespace BaseStation.Text

/-- What stands before and after the first place where the piece is found. -/
def splitFirst (piece : List Char) : List Char → Option (List Char × List Char)
  | [] => if piece = [] then some ([], []) else none
  | c :: rest =>
    if piece.isPrefixOf (c :: rest) then some ([], (c :: rest).drop piece.length)
    else (splitFirst piece rest).map fun (before, after) => (c :: before, after)

def splitLast (piece : List Char) : List Char → Option (List Char × List Char)
  | [] => if piece = [] then some ([], []) else none
  | c :: rest =>
    match splitLast piece rest with
    | some (before, after) => some (c :: before, after)
    | none =>
      if piece.isPrefixOf (c :: rest) then some ([], (c :: rest).drop piece.length) else none

theorem eq_append_drop_of_isPrefixOf {piece text : List Char} (h : piece.isPrefixOf text = true) :
    text = piece ++ text.drop piece.length := by
  obtain ⟨rest, rfl⟩ := List.isPrefixOf_iff_prefix.1 h
  simp

theorem splitFirst_eq_some {piece text before after : List Char}
    (h : splitFirst piece text = some (before, after)) : text = before ++ piece ++ after := by
  induction text generalizing before with
  | nil =>
    simp only [splitFirst] at h
    split at h
    · rename_i empty
      cases h
      simp [empty]
    · cases h
  | cons c rest ih =>
    simp only [splitFirst] at h
    split at h
    · rename_i found
      cases h
      simpa using eq_append_drop_of_isPrefixOf found
    · obtain ⟨⟨left, right⟩, found, same⟩ := Option.map_eq_some_iff.1 h
      cases same
      simp [ih found]

theorem splitFirst_self (piece after : List Char) :
    splitFirst piece (piece ++ after) = some ([], after) := by
  cases shape : piece ++ after with
  | nil =>
    rcases List.append_eq_nil_iff.mp shape with ⟨rfl, rfl⟩
    rfl
  | cons c rest =>
    have starts : piece.isPrefixOf (c :: rest) = true := by
      rw [← shape]
      exact List.isPrefixOf_iff_prefix.mpr (List.prefix_append ..)
    rw [splitFirst, if_pos starts, ← shape, List.drop_left]

theorem splitFirst_cons {piece : List Char} {c : Char} {rest : List Char}
    (apart : ¬ piece <+: c :: rest) :
    splitFirst piece (c :: rest) =
      (splitFirst piece rest).map fun (before, after) => (c :: before, after) := by
  rw [splitFirst, if_neg fun starts => apart (List.isPrefixOf_iff_prefix.mp starts)]

theorem splitFirst_eq_none_iff {piece text : List Char} :
    splitFirst piece text = none ↔ ¬ piece <:+: text := by
  constructor
  · rintro absent ⟨before, after, rfl⟩
    induction before with
    | nil =>
      rw [List.nil_append, splitFirst_self] at absent
      cases absent
    | cons c rest ih =>
      rw [List.cons_append, List.cons_append] at absent
      by_cases starts : piece <+: c :: (rest ++ piece ++ after)
      · rcases starts with ⟨tail, shape⟩
        rw [← shape, splitFirst_self] at absent
        cases absent
      · rw [splitFirst_cons starts] at absent
        exact ih (Option.map_eq_none_iff.mp absent)
  · intro absent
    cases found : splitFirst piece text with
    | none => rfl
    | some sides =>
      apply absurd _ absent
      rw [splitFirst_eq_some found]
      exact List.infix_append sides.1 piece sides.2

/-- The first place where the piece is found does not depend on what stands after it. -/
theorem splitFirst_replace {piece text before after : List Char}
    (found : splitFirst piece text = some (before, after)) (other : List Char) :
    splitFirst piece (before ++ piece ++ other) = some (before, other) := by
  induction text generalizing before with
  | nil =>
    simp only [splitFirst] at found
    split at found
    · cases found
      exact splitFirst_self piece other
    · cases found
  | cons c rest ih =>
    by_cases starts : piece <+: c :: rest
    · rcases starts with ⟨tail, shape⟩
      rw [← shape, splitFirst_self] at found
      cases found
      exact splitFirst_self piece other
    · rw [splitFirst_cons starts] at found
      rcases Option.map_eq_some_iff.mp found with ⟨⟨left, right⟩, found, same⟩
      cases same
      have shape := splitFirst_eq_some found
      rw [List.cons_append, List.cons_append, splitFirst_cons, ih found]
      · rfl
      · -- the piece at the front of the one text would lie in what both texts start with
        intro front
        apply starts
        have inside : c :: (left ++ piece) <+: c :: rest := by
          rw [shape]
          exact List.prefix_append (c :: (left ++ piece)) after
        have whole : c :: (left ++ piece) <+: c :: (left ++ piece ++ other) :=
          List.prefix_append (c :: (left ++ piece)) other
        have short : piece.length ≤ (c :: (left ++ piece)).length := by
          simp only [List.length_cons, List.length_append]
          omega
        exact (List.prefix_of_prefix_length_le front whole short).trans inside

theorem prefix_of_prefix_append_cons {piece before after : List Char} {c : Char}
    (front : piece <+: before ++ c :: after) (foreign : c ∉ piece) : piece <+: before := by
  by_cases short : piece.length ≤ before.length
  · exact List.prefix_of_prefix_length_le front (List.prefix_append ..) short
  · have start : before ++ [c] <+: before ++ c :: after := by
      rw [List.append_cons before c after]
      exact List.prefix_append ..
    have longer : before ++ [c] <+: piece := by
      apply List.prefix_of_prefix_length_le start front
      rw [List.length_append, List.length_singleton]
      omega
    exact absurd (longer.subset (List.mem_append_right _ (List.mem_singleton_self c))) foreign

theorem splitFirst_append_cons {piece before : List Char} {c : Char} (foreign : c ∉ piece)
    (apart : ¬ piece <:+: before) (after : List Char) :
    splitFirst piece (before ++ c :: (piece ++ after)) = some (before ++ [c], after) := by
  induction before with
  | nil =>
    rw [List.nil_append, splitFirst_cons, splitFirst_self]
    · rfl
    · intro front
      apply apart
      exact (prefix_of_prefix_append_cons (List.nil_append _ ▸ front) foreign).isInfix
  | cons d rest ih =>
    rw [List.cons_append, splitFirst_cons, ih]
    · rfl
    · intro inside
      exact apart (inside.trans (List.suffix_cons d rest).isInfix)
    · intro front
      rw [← List.cons_append] at front
      exact apart (prefix_of_prefix_append_cons front foreign).isInfix

theorem splitFirst_char {c : Char} {before : List Char} (first : c ∉ before) (after : List Char) :
    splitFirst [c] (before ++ c :: after) = some (before, after) := by
  induction before with
  | nil => exact splitFirst_self [c] after
  | cons d rest ih =>
    rw [List.cons_append, splitFirst_cons, ih fun inside => first (List.mem_cons_of_mem d inside)]
    · rfl
    · rintro ⟨_, same⟩
      cases same
      exact first (List.mem_cons_self ..)

theorem splitLast_eq_some {piece text before after : List Char}
    (h : splitLast piece text = some (before, after)) : text = before ++ piece ++ after := by
  induction text generalizing before with
  | nil =>
    simp only [splitLast] at h
    split at h
    · rename_i empty
      cases h
      simp [empty]
    · cases h
  | cons c rest ih =>
    simp only [splitLast] at h
    split at h
    · rename_i found
      cases h
      simp [ih found]
    · split at h
      · rename_i found
        cases h
        simpa using eq_append_drop_of_isPrefixOf found
      · cases h

end BaseStation.Text
