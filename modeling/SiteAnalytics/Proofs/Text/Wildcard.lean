import SiteAnalytics.Text.Wildcard

/-!
# What fits a pattern

A text fits a pattern if it begins with the first piece and the others stand in what is left, each
after a gap, up to the end (`Spaced`).  Looking for the leftmost occurrence of every piece finds out
just that (`follow_iff`): a piece that stands further to the right leaves less text, and what was
skipped can go into the next gap (`Spaced.append_left`).  So a text fits a pattern exactly if it is
the pattern with some text for every star (`fits_iff_filled`).
-/

namespace SiteAnalytics.Wildcard

/-- The text consists of the pieces, each after a gap. -/
def Spaced : List (List Char) → List Char → Prop
  | [], text => text = []
  | piece :: later, text => ∃ gap rest, text = gap ++ (piece ++ rest) ∧ Spaced later rest

/-- The first gap can be longer. -/
theorem Spaced.append_left {piece : List Char} {later : List (List Char)} {text : List Char}
    (h : Spaced (piece :: later) text) (skipped : List Char) :
    Spaced (piece :: later) (skipped ++ text) := by
  obtain ⟨gap, rest, rfl, hrest⟩ := h
  exact ⟨skipped ++ gap, rest, (List.append_assoc ..).symm, hrest⟩

/-! ### The leftmost occurrence -/

theorem after?_append_left (piece rest : List Char) : after? piece (piece ++ rest) = some rest := by
  cases hpiece : piece ++ rest with
  | nil =>
    obtain ⟨rfl, rfl⟩ := List.append_eq_nil_iff.mp hpiece
    rfl
  | cons c text =>
    rw [after?, ← hpiece, if_pos (List.isPrefixOf_iff_prefix.mpr (List.prefix_append ..)),
      List.drop_left]

/-- What is found is an occurrence. -/
theorem exists_gap_of_after? {piece text rest : List Char} (h : after? piece text = some rest) :
    ∃ gap, text = gap ++ (piece ++ rest) := by
  induction text with
  | nil =>
    rw [after?] at h
    split at h
    · next hempty =>
      obtain rfl := List.isEmpty_iff.mp hempty
      obtain rfl := Option.some.inj h
      exact ⟨[], rfl⟩
    · contradiction
  | cons c text ih =>
    rw [after?] at h
    split at h
    · next hprefix =>
      obtain ⟨rest', hrest'⟩ := List.isPrefixOf_iff_prefix.mp hprefix
      rw [← hrest', List.drop_left] at h
      obtain rfl := Option.some.inj h
      exact ⟨[], hrest'.symm⟩
    · obtain ⟨gap, rfl⟩ := ih h
      exact ⟨c :: gap, rfl⟩

/-- No occurrence leaves more than the one that is found. -/
theorem exists_after?_of_append (gap piece rest : List Char) :
    ∃ skipped, after? piece (gap ++ (piece ++ rest)) = some (skipped ++ rest) := by
  induction gap with
  | nil => exact ⟨[], after?_append_left piece rest⟩
  | cons c gap ih =>
    obtain ⟨skipped, hskipped⟩ := ih
    rw [List.cons_append, after?]
    split
    · -- the piece begins the text, and at most the whole gap is skipped
      refine ⟨(c :: gap ++ piece).drop piece.length, ?_⟩
      have hle : piece.length ≤ (c :: gap ++ piece).length := by
        rw [List.length_append]
        exact Nat.le_add_left ..
      rw [← List.drop_append_of_le_length hle, List.append_assoc, List.cons_append]
    · exact ⟨skipped, hskipped⟩

/-- Leftmost occurrences are enough. -/
theorem follow_iff {pieces : List (List Char)} {text : List Char} :
    follow pieces text = true ↔ Spaced pieces text := by
  induction pieces generalizing text with
  | nil => exact List.isEmpty_iff
  | cons piece later ih =>
    cases later with
    | nil =>
      rw [follow, List.isSuffixOf_iff_suffix]
      constructor
      · rintro ⟨gap, rfl⟩
        exact ⟨gap, [], by rw [List.append_nil], rfl⟩
      · rintro ⟨gap, rest, rfl, rfl⟩
        exact ⟨gap, by rw [List.append_nil]⟩
    | cons next later =>
      rw [follow]
      constructor
      · intro h
        cases hafter : after? piece text with
        | none => simp [hafter] at h
        | some rest =>
          rw [hafter] at h
          obtain ⟨gap, rfl⟩ := exists_gap_of_after? hafter
          exact ⟨gap, rest, rfl, ih.mp h⟩
      · rintro ⟨gap, rest, rfl, hrest⟩
        obtain ⟨skipped, hafter⟩ := exists_after?_of_append gap piece rest
        rw [hafter]
        exact ih.mpr (hrest.append_left skipped)

/-- A text fits a pattern if it begins with the first piece and the others follow. -/
theorem fits_iff_spaced {pattern candidate : String} : fits pattern candidate = true ↔
    ∃ rest, candidate.toList = (pieces pattern.toList).1 ++ rest ∧
      Spaced (pieces pattern.toList).2 rest := by
  simp only [fits, Bool.and_eq_true, follow_iff, List.isPrefixOf_iff_prefix]
  constructor
  · rintro ⟨⟨rest, hrest⟩, hspaced⟩
    rw [← hrest, List.drop_left] at hspaced
    exact ⟨rest, hrest.symm, hspaced⟩
  · rintro ⟨rest, hrest, hspaced⟩
    rw [hrest, List.drop_left]
    exact ⟨List.prefix_append .., hspaced⟩

/-! ### Texts for the stars -/

/-- The pieces with texts between them: a piece, a text, the next piece, and so on to the last
piece. -/
def filled (pieces texts : List (List Char)) : List Char :=
  (List.zipWith (· ++ ·) pieces (texts ++ [[]])).flatten

theorem filled_singleton (piece : List Char) : filled [piece] [] = piece := by
  simp [filled]

theorem filled_cons (piece text : List Char) (pieces texts : List (List Char)) :
    filled (piece :: pieces) (text :: texts) = piece ++ (text ++ filled pieces texts) := by
  simp [filled, List.append_assoc]

/-- The pieces of a pattern are those between its stars. -/
theorem splitOn_eq_pieces (cs : List Char) :
    cs.splitOn '*' = (pieces cs).1 :: (pieces cs).2 := by
  induction cs with
  | nil => rfl
  | cons c cs ih =>
    rw [List.splitOn_cons_eq_if_modifyHead, ih, pieces]
    by_cases hc : c = '*' <;> simp [hc]

/-- Every star begins another piece. -/
theorem length_pieces (cs : List Char) : (pieces cs).2.length = cs.count '*' := by
  induction cs with
  | nil => rfl
  | cons c cs ih =>
    rw [pieces, List.count_cons]
    by_cases hc : c = '*' <;> simp [hc, ih]

/-- What is filled begins with the first piece. -/
theorem exists_filled_eq (piece : List Char) (later texts : List (List Char)) :
    ∃ rest, filled (piece :: later) texts = piece ++ rest := by
  cases texts with
  | nil => exact ⟨[], by simp [filled]⟩
  | cons text texts => exact ⟨_, filled_cons piece text later texts⟩

/-- Pieces that stand in a text, each after a gap, are the pieces with the gaps between them. -/
theorem spaced_iff_filled (first : List Char) {later : List (List Char)} {rest : List Char} :
    Spaced later rest ↔
      ∃ gaps, gaps.length = later.length ∧ first ++ rest = filled (first :: later) gaps := by
  induction later generalizing first rest with
  | nil =>
    constructor
    · rintro rfl
      exact ⟨[], rfl, by rw [filled_singleton, List.append_nil]⟩
    · rintro ⟨gaps, hlength, hfilled⟩
      obtain rfl := List.eq_nil_of_length_eq_zero hlength
      rw [filled_singleton] at hfilled
      exact List.append_right_eq_self.mp hfilled
  | cons piece later ih =>
    constructor
    · rintro ⟨gap, rest, rfl, hrest⟩
      obtain ⟨gaps, hlength, hfilled⟩ := (ih piece).mp hrest
      refine ⟨gap :: gaps, congrArg (· + 1) hlength, ?_⟩
      rw [filled_cons, hfilled]
    · rintro ⟨gaps, hlength, hfilled⟩
      obtain ⟨gap, gaps, rfl⟩ := List.exists_cons_of_length_eq_add_one hlength
      rw [filled_cons, List.append_cancel_left_eq] at hfilled
      obtain ⟨rest', hrest'⟩ := exists_filled_eq piece later gaps
      refine ⟨gap, rest', hrest' ▸ hfilled, (ih piece).mpr ⟨gaps, ?_, hrest'.symm⟩⟩
      exact Nat.succ.inj hlength

/-- **What a pattern stands for.** A text fits a pattern iff it is the pieces of the pattern between
its stars, with a text for each of the stars. -/
theorem fits_iff_filled (pattern candidate : String) : fits pattern candidate = true ↔
    ∃ texts : List (List Char), texts.length = pattern.toList.count '*' ∧
      candidate.toList = filled (pattern.toList.splitOn '*') texts := by
  rw [fits_iff_spaced, splitOn_eq_pieces, ← length_pieces]
  constructor
  · rintro ⟨rest, hrest, hspaced⟩
    rw [hrest]
    exact (spaced_iff_filled _).mp hspaced
  · rintro ⟨texts, hlength, hfilled⟩
    obtain ⟨rest, hrest⟩ :=
      exists_filled_eq (pieces pattern.toList).1 (pieces pattern.toList).2 texts
    rw [hrest] at hfilled
    exact ⟨rest, hfilled, (spaced_iff_filled _).mpr ⟨texts, hlength, hrest.symm⟩⟩

/-- The last piece may not share text with the one before it. -/
example : fits "*ab*b" "ab" = false := by decide

/-! ### Patterns with a star at the end -/

theorem pieces_concat_star (cs : List Char) :
    pieces (cs ++ ['*']) = ((pieces cs).1, (pieces cs).2 ++ [[]]) := by
  induction cs with
  | nil => rfl
  | cons c cs ih =>
    rw [List.cons_append, pieces, pieces, ih]
    by_cases hc : c = '*' <;> simp [hc]

theorem pieces_of_not_mem {cs : List Char} (h : '*' ∉ cs) : pieces cs = (cs, []) := by
  induction cs with
  | nil => rfl
  | cons c cs ih =>
    have hc : c ≠ '*' := fun hc => h (hc ▸ List.mem_cons_self)
    simp only [pieces, ih fun hcs => h (List.mem_cons_of_mem _ hcs), if_neg hc]

/-- A pattern stands in its own text, with its stars for the gaps. -/
theorem exists_spaced_pieces (cs rest : List Char) :
    ∃ text, cs = (pieces cs).1 ++ text ∧ Spaced ((pieces cs).2 ++ [[]]) (text ++ rest) := by
  induction cs with
  | nil => exact ⟨[], rfl, rest, [], by simp, rfl⟩
  | cons c cs ih =>
    obtain ⟨text, htext, hspaced⟩ := ih
    rw [pieces]
    by_cases hc : c = '*'
    · simp only [if_pos hc]
      refine ⟨c :: cs, rfl, [c], text ++ rest, ?_, hspaced⟩
      rw [← List.append_assoc (pieces cs).1, ← htext]
      rfl
    · simp only [if_neg hc]
      exact ⟨text, congrArg (List.cons c) htext, hspaced⟩

variable {start candidate : String}

/-- A pattern with a star at the end fits all that begins with the text before it, even if there are
more stars in it. -/
theorem fits_star_append (start rest : String) : fits (start ++ "*") (start ++ rest) = true := by
  obtain ⟨text, htext, hspaced⟩ := exists_spaced_pieces start.toList rest.toList
  rw [fits_iff_spaced, String.toList_append, String.toList_append]
  show ∃ text, _ = (pieces (start.toList ++ ['*'])).1 ++ text ∧
    Spaced (pieces (start.toList ++ ['*'])).2 text
  rw [pieces_concat_star]
  refine ⟨text ++ rest.toList, ?_, hspaced⟩
  rw [← List.append_assoc, ← htext]

/-- If there are no more stars in it, it fits nothing else. -/
theorem fits_star_iff (h : '*' ∉ start.toList) :
    fits (start ++ "*") candidate = true ↔ start.toList <+: candidate.toList := by
  rw [fits_iff_spaced, String.toList_append]
  show (∃ text, _ = (pieces (start.toList ++ ['*'])).1 ++ text ∧
    Spaced (pieces (start.toList ++ ['*'])).2 text) ↔ _
  rw [pieces_concat_star, pieces_of_not_mem h]
  constructor
  · rintro ⟨text, htext, -⟩
    exact ⟨text, htext.symm⟩
  · rintro ⟨text, htext⟩
    exact ⟨text, htext.symm, text, [], by simp, rfl⟩

/-- What fits a pattern begins with the first piece of it. -/
theorem isPrefix_of_fits {pattern : String} (h : fits pattern candidate = true) :
    (pieces pattern.toList).1 <+: candidate.toList := by
  obtain ⟨rest, hrest, -⟩ := fits_iff_spaced.mp h
  exact ⟨rest, hrest.symm⟩

end SiteAnalytics.Wildcard
