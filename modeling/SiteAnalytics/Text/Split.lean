/-!
# Splitting texts

The parts of a text between marks. There is always one part more than there are marks.
-/

namespace SiteAnalytics.Text

/-- The parts of a text between the marks `c`. -/
def splitAt (c : Char) : List Char → List (List Char)
  | [] => [[]]
  | d :: rest =>
    if d = c then [] :: splitAt c rest
    else
      match splitAt c rest with
      | part :: parts => (d :: part) :: parts
      | [] => [[d]]

theorem splitAt_ne_nil (c : Char) (cs : List Char) : splitAt c cs ≠ [] := by
  cases cs with
  | nil => simp [splitAt]
  | cons d rest =>
    unfold splitAt
    split
    · simp
    · split <;> simp

/-- Text without marks is one part. -/
theorem splitAt_eq_singleton {c : Char} {cs : List Char} (h : c ∉ cs) : splitAt c cs = [cs] := by
  induction cs with
  | nil => rfl
  | cons d rest ih =>
    have hd : ¬d = c := fun e => h (e ▸ List.mem_cons_self)
    have hr : c ∉ rest := fun e => h (List.mem_cons_of_mem _ e)
    simp [splitAt, hd, ih hr]

end SiteAnalytics.Text
