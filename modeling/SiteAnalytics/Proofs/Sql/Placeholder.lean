import SiteAnalytics.Proofs.Sql.Token
import SiteAnalytics.Query.Param
import Mathlib.Data.List.Basic

/-!
# Placeholders of query text

The text that is sent refers to a parameter wherever its name stands behind an opening brace and in
front of a colon (`RefersTo`). `Sql.Closed` says of the pieces of a text that braces begin
placeholders only and that every placeholder is bound; `Closed.get?_of_refersTo` takes it to the
characters.

`Closed` of a text that is put together is `Closed` of its parts, so that it can be computed.
-/

namespace SiteAnalytics

/-- The text has a placeholder of the name. A name has no colon in it. -/
def RefersTo (text name : String) : Prop :=
  ':' ∉ name.toList ∧ ∃ before after,
    text.toList = before ++ '\x7b' :: (name.toList ++ ':' :: after)

namespace Sql

/-- Fixed text has no opening brace, and a placeholder has a plain name that is bound. -/
def PieceClosed (params : Params) : SqlPiece → Prop
  | .text s => '\x7b' ∉ s.toList
  | .placeholder name _ =>
    '\x7b' ∉ name.toList ∧ ':' ∉ name.toList ∧ ∃ v, params.get? name = some v

/-- All pieces are closed. -/
def Closed (params : Params) (s : Sql) : Prop := ∀ piece ∈ s.pieces, PieceClosed params piece

/-! ### Texts put together -/

section Parts

variable {params : Params}

@[simp] theorem closed_append {a b : Sql} :
    (a ++ b).Closed params ↔ a.Closed params ∧ b.Closed params :=
  List.forall_mem_append

@[simp] theorem closed_nothing : nothing.Closed params := by
  simp [Closed, nothing]

@[simp] theorem closed_ofString {s : String} :
    (ofString s).Closed params ↔ '\x7b' ∉ s.toList := by
  simp [Closed, ofString, PieceClosed]

theorem closed_literal (cs : List Char) (h : cs.all (· != '\x7b') = true) :
    (ofString (String.ofList cs)).Closed params := by
  rw [closed_ofString, String.toList_ofList]
  intro hmem
  simpa using List.all_eq_true.mp h _ hmem

theorem closed_toString (n : Nat) : (ofString (toString n)).Closed params := by
  rw [closed_ofString, Nat.toString_eq_repr, Nat.toList_repr]
  intro hmem
  simpa using Nat.isDigit_of_mem_toDigits (by decide) (by decide) hmem

@[simp] theorem closed_bind {p : String} : (bind p).Closed params ↔
    '\x7b' ∉ p.toList ∧ ':' ∉ p.toList ∧ ∃ v, params.get? p = some v := by
  simp [Closed, bind, PieceClosed]

@[simp] theorem closed_bindCount {p : String} : (bindCount p).Closed params ↔
    '\x7b' ∉ p.toList ∧ ':' ∉ p.toList ∧ ∃ v, params.get? p = some v := by
  simp [Closed, bindCount, PieceClosed]

/-- A text stays closed when more is bound. -/
theorem Closed.mono {s : Sql} (h : s.Closed params) {more : Params}
    (hmore : ∀ name v, params.get? name = some v → ∃ v', more.get? name = some v') :
    s.Closed more := by
  intro piece hpiece
  have hclosed := h piece hpiece
  cases piece with
  | text s => exact hclosed
  | placeholder name type =>
    obtain ⟨hbrace, hcolon, v, hv⟩ := hclosed
    exact ⟨hbrace, hcolon, hmore name v hv⟩

theorem closed_intercalate {separator : String} {items : List String}
    (hseparator : '\x7b' ∉ separator.toList) (h : ∀ s ∈ items, '\x7b' ∉ s.toList) :
    (ofString (separator.intercalate items)).Closed params := by
  rw [closed_ofString]
  induction items with
  | nil => simp
  | cons first rest ih =>
    obtain ⟨hfirst, hrest⟩ := List.forall_mem_cons.mp h
    cases rest with
    | nil => simpa using hfirst
    | cons second rest =>
      rw [String.intercalate_cons_cons, String.toList_append, String.toList_append,
        List.mem_append, List.mem_append, not_or, not_or]
      exact ⟨⟨hfirst, hseparator⟩, ih hrest⟩

theorem closed_join {separator : String} (hseparator : '\x7b' ∉ separator.toList)
    {items : List Sql} (h : ∀ item ∈ items, item.Closed params) :
    (join separator items).Closed params := by
  cases items with
  | nil => exact closed_nothing
  | cons first rest =>
    obtain ⟨hfirst, hrest⟩ := List.forall_mem_cons.mp h
    rw [join]
    clear h
    induction rest generalizing first with
    | nil => exact hfirst
    | cons item rest ih =>
      obtain ⟨hitem, hrest⟩ := List.forall_mem_cons.mp hrest
      rw [List.foldl_cons]
      apply ih _ _ hrest
      rw [closed_append, closed_append, closed_ofString]
      exact ⟨⟨hfirst, hseparator⟩, hitem⟩

end Parts

/-! ### Characters -/

/-- A brace behind characters that are no braces is in what follows them. -/
theorem exists_of_append_eq {front rest before after : List Char} (hfront : '\x7b' ∉ front)
    (h : front ++ rest = before ++ '\x7b' :: after) :
    ∃ before', rest = before' ++ '\x7b' :: after := by
  rcases List.append_eq_append_iff.mp h with ⟨tail, -, hrest⟩ | ⟨tail, hfront', htail⟩
  · exact ⟨tail, hrest⟩
  · cases tail with
    | nil => exact ⟨[], by simpa using htail.symm⟩
    | cons c tail =>
      -- the brace would be one of the characters in front
      rw [List.cons_append, List.cons.injEq] at htail
      rw [hfront', ← htail.1] at hfront
      simp at hfront

/-- Names without colons can be told apart from the colon behind them. -/
theorem name_eq_of_append_eq {name name' rest rest' : List Char} (hname : ':' ∉ name)
    (hname' : ':' ∉ name') (h : name ++ ':' :: rest = name' ++ ':' :: rest') : name = name' := by
  have htake {name rest : List Char} (hname : ':' ∉ name) :
      (name ++ ':' :: rest).takeWhile (· != ':') = name := by
    rw [List.takeWhile_append_of_pos, List.takeWhile_cons_of_neg (by decide), List.append_nil]
    intro c hc
    rw [bne_iff_ne]
    rintro rfl
    exact hname hc
  rw [← htake hname, h, htake hname']

/-- Every name that a closed text refers to is bound. -/
theorem Closed.get?_of_refersTo {params : Params} {s : Sql} (h : s.Closed params) {name : String}
    (hname : RefersTo s.render name) : ∃ v, params.get? name = some v := by
  obtain ⟨hcolon, before, after, htext⟩ := hname
  rw [toList_render, chars] at htext
  unfold Closed at h
  generalize s.pieces = pieces at h htext
  induction pieces generalizing before with
  | nil => simp at htext
  | cons piece rest ih =>
    obtain ⟨hpiece, hrest⟩ := List.forall_mem_cons.mp h
    rw [List.flatMap_cons] at htext
    cases piece with
    | text t =>
      obtain ⟨before', hbefore⟩ := exists_of_append_eq hpiece htext
      exact ih before' hrest hbefore
    | placeholder p type =>
      obtain ⟨hbrace, hpcolon, hbound⟩ := hpiece
      have hchars : pieceChars (.placeholder p type) =
          '\x7b' :: (p.toList ++ ':' :: (type.name.toList ++ ['\x7d'])) := by
        simp [pieceChars]
      rw [hchars, List.cons_append] at htext
      cases before with
      | nil =>
        -- the brace is that of this placeholder
        have hinside := (List.cons.inj htext).2
        rw [List.append_assoc] at hinside
        have hp := name_eq_of_append_eq hpcolon hcolon hinside
        rwa [← String.toList_inj.mp hp]
      | cons c before =>
        have hinner : '\x7b' ∉ p.toList ++ ':' :: (type.name.toList ++ ['\x7d']) := by
          have htype : '\x7b' ∉ type.name.toList := by cases type <;> decide
          simp [hbrace, htype]
        obtain ⟨before', hbefore⟩ := exists_of_append_eq hinner (List.cons.inj htext).2
        exact ih before' hrest hbefore

end Sql

end SiteAnalytics
