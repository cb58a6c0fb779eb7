import Mathlib.Data.List.TakeWhile
import SiteAnalytics.Proofs.Text.Numeral

/-!
# Texts without blanks at their ends

Trimming leaves a text alone whose first and last characters are not blank: `trimChars_eq`, and
`trimmed?_eq` for whole texts.  Blanks that are put around a text are taken away with those it has
(`trimChars_append`).  Nothing is left of a text iff all of it is blank
(`isNone_trimmed?_iff`).
-/

namespace SiteAnalytics.Text

/-- No digit is blank. -/
theorem isBlank_eq_false {c : Char} (h : c.isDigit = true) : isBlank c = false := by
  have h := Numeral.isDigit_iff.mp h
  simp only [isBlank, Bool.or_eq_false_iff, Bool.and_eq_false_iff, decide_eq_false_iff_not,
    beq_eq_false_iff_ne]
  omega

theorem dropBlanks_cons {c : Char} (h : isBlank c = false) (cs : List Char) :
    dropBlanks (c :: cs) = c :: cs := by
  rw [dropBlanks, List.dropWhile_cons, h]
  rfl

/-- A text with no blank at either end is its own trimmed text. -/
theorem trimChars_eq {c d : Char} {cs ds text : List Char} (hfirst : text = c :: cs)
    (hc : isBlank c = false) (hlast : text = ds ++ [d]) (hd : isBlank d = false) :
    trimChars text = text := by
  have hfront : dropBlanks text = text := by rw [hfirst, dropBlanks_cons hc]
  rw [trimChars, hfront, hlast, List.reverse_append, List.reverse_singleton,
    List.singleton_append, dropBlanks_cons hd, List.reverse_cons, List.reverse_reverse]

/-- Blanks around a text do not count. -/
theorem trimChars_append {front back : List Char} (hfront : ∀ c ∈ front, isBlank c = true)
    (hback : ∀ c ∈ back, isBlank c = true) (cs : List Char) :
    trimChars (front ++ cs ++ back) = trimChars cs := by
  have hdrop : dropBlanks (front ++ cs ++ back) =
      if (dropBlanks cs).isEmpty then [] else dropBlanks cs ++ back := by
    rw [dropBlanks, List.append_assoc, List.dropWhile_append_of_pos hfront,
      List.dropWhile_append, List.dropWhile_eq_nil_iff.mpr hback]
    rfl
  rw [trimChars, hdrop, trimChars]
  split
  · -- nothing is left of either
    rename_i hempty
    rw [List.isEmpty_iff.mp hempty]
  · have hlast : dropBlanks (dropBlanks cs ++ back).reverse =
        dropBlanks (dropBlanks cs).reverse := by
      rw [List.reverse_append, dropBlanks,
        List.dropWhile_append_of_pos fun c hc => hback c (List.mem_reverse.mp hc)]
      rfl
    rw [hlast]

theorem trimmed?_eq {c d : Char} {cs ds : List Char} {s : String} (hfirst : s.toList = c :: cs)
    (hc : isBlank c = false) (hlast : s.toList = ds ++ [d]) (hd : isBlank d = false) :
    trimmed? s = some s := by
  have htrim : trimChars s.toList = c :: cs := (trimChars_eq hfirst hc hlast hd).trans hfirst
  rw [trimmed?, htrim]
  simp only [← hfirst, String.ofList_toList]

/-! ### Blank texts -/

theorem dropBlanks_eq_nil_iff {cs : List Char} :
    dropBlanks cs = [] ↔ ∀ c ∈ cs, isBlank c = true := by
  rw [dropBlanks, List.dropWhile_eq_nil_iff]

theorem trimChars_eq_nil_iff {cs : List Char} :
    trimChars cs = [] ↔ ∀ c ∈ cs, isBlank c = true := by
  rw [trimChars, List.reverse_eq_nil_iff, dropBlanks_eq_nil_iff]
  constructor
  · intro h c hc
    -- what is dropped in front is blank, and so is the rest
    rw [← List.takeWhile_append_dropWhile (p := isBlank) (l := cs), List.mem_append] at hc
    rcases hc with hc | hc
    · exact List.mem_takeWhile_imp hc
    · exact h c (List.mem_reverse.mpr hc)
  · intro h c hc
    exact h c ((List.dropWhile_sublist isBlank).subset (List.mem_reverse.mp hc))

theorem isNone_trimmed?_iff {s : String} :
    (trimmed? s).isNone = true ↔ ∀ c ∈ s.toList, isBlank c = true := by
  rw [← trimChars_eq_nil_iff, trimmed?]
  cases trimChars s.toList <;> simp

end SiteAnalytics.Text
