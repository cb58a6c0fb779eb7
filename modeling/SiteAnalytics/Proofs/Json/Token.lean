import Mathlib.Data.List.Basic
import SiteAnalytics.Json.Token
import SiteAnalytics.Json.Writer
import SiteAnalytics.Proofs.Json.Number

/-!
# The tokens of written JSON

Text is cut into tokens in one pass.  `Scans cs tokens` says that the pass takes just these tokens
off `cs`, whatever stands behind; only a word could run on into what follows, which `EndsWord`
excludes.  Words, strings and integers are scanned as they were written (`scans_word`,
`scans_quote`, `scans_intChars`), and texts with a mark between them are scanned one after the other
(`Scans.append_mark`).
-/

namespace SiteAnalytics.Json

/-! ### Pieces of strings -/

/-- The piece that is read where a character was written: a control character without a letter of
its own is written by its code unit. -/
def pieceOf (c : Char) : Piece :=
  if c.toNat < 0x20 ∧ c ∉ ['\x08', '\x0c', '\n', '\r', '\t'] then .unit c.toNat else .char c

theorem hexValue?_hexDigit {n : Nat} (h : n < 16) :
    Text.hexValue? (Text.hexDigit n) = some n := by
  have hall : ∀ n < 16, Text.hexValue? (Text.hexDigit n) = some n := by decide
  exact hall n h

/-- A control character without a letter of its own is written as a code unit. -/
theorem escapeChar_of_control {c : Char} (hcontrol : c.toNat < 0x20)
    (hletter : c ∉ ['\x08', '\x0c', '\n', '\r', '\t']) :
    escapeChar c =
      ['\\', 'u', '0', '0', Text.hexDigit (c.toNat / 16), Text.hexDigit (c.toNat % 16)] := by
  have hquote : c ≠ '"' := by rintro rfl; contradiction
  have hslash : c ≠ '\\' := by rintro rfl; contradiction
  simp only [List.mem_cons, List.not_mem_nil, or_false, not_or] at hletter
  simp [escapeChar, hquote, hslash, hletter, hcontrol]

/-- Reading what one character was written as. -/
theorem scan_escapeChar (done : List Token) (pieces : List Piece) (c : Char) (rest : List Char) :
    scan done (.text pieces) (escapeChar c ++ rest) =
      scan done (.text (pieceOf c :: pieces)) rest := by
  -- a character has a letter of its own, or a code unit, or stands for itself
  by_cases hletter : c ∈ ['"', '\\', '\x08', '\x0c', '\n', '\r', '\t']
  · simp only [List.mem_cons, List.not_mem_nil, or_false] at hletter
    rcases hletter with rfl | rfl | rfl | rfl | rfl | rfl | rfl <;> rfl
  · have hown : c ∉ ['\x08', '\x0c', '\n', '\r', '\t'] := fun h =>
      hletter (List.mem_cons_of_mem _ (List.mem_cons_of_mem _ h))
    by_cases hcontrol : c.toNat < 0x20
    · -- the two digits of the code unit give the character back
      have hhigh := hexValue?_hexDigit (show c.toNat / 16 < 16 by omega)
      have hlow := hexValue?_hexDigit (show c.toNat % 16 < 16 by omega)
      have hunit : 16 * (c.toNat / 16) + c.toNat % 16 = c.toNat := Nat.div_add_mod _ _
      have hzero : Text.hexValue? '0' = some 0 := rfl
      rw [escapeChar_of_control hcontrol hown, pieceOf, if_pos ⟨hcontrol, hown⟩]
      simp [scan, stepChar, hhigh, hlow, hunit, hzero]
    · simp only [List.mem_cons, List.not_mem_nil, or_false, not_or] at hletter
      have hplain : escapeChar c = [c] := by simp [escapeChar, hletter, hcontrol]
      rw [hplain, pieceOf, if_neg (fun h => hcontrol h.1)]
      simp [scan, stepChar, hletter, hcontrol]

theorem scan_flatMap_escapeChar (done : List Token) (pieces : List Piece) (cs rest : List Char) :
    scan done (.text pieces) (cs.flatMap escapeChar ++ rest) =
      scan done (.text ((cs.map pieceOf).reverse ++ pieces)) rest := by
  -- on the characters, with the pieces before them in reverse
  induction cs generalizing pieces with
  | nil => rfl
  | cons c cs ih =>
    rw [List.flatMap_cons, List.append_assoc, scan_escapeChar, ih, List.map_cons,
      List.reverse_cons, List.append_assoc, List.singleton_append]

/-- No code unit below 32 is half of a surrogate pair. -/
theorem joinPieces_unit_cons {n : Nat} (h : n < 0x20) (rest : List Piece) :
    joinPieces (.unit n :: rest) = (joinPieces rest).map (Char.ofNat n :: ·) := by
  have hhigh : ¬(0xD800 ≤ n) := by omega
  have hlow : ¬(0xDC00 ≤ n) := by omega
  cases rest with
  | nil => simp [joinPieces, hhigh]
  | cons piece rest => cases piece <;> simp [joinPieces, hhigh, hlow]

/-- The pieces that are read join to the characters that were written. -/
theorem joinPieces_map_pieceOf (cs : List Char) : joinPieces (cs.map pieceOf) = some cs := by
  -- piece by piece, since no piece joins with the next one
  induction cs with
  | nil => rfl
  | cons c cs ih =>
    rw [List.map_cons, pieceOf]
    split
    · rename_i hcoded
      rw [joinPieces_unit_cons hcoded.1, ih, Char.ofNat_toNat, Option.map_some]
    · rw [joinPieces, ih, Option.map_some]

/-! ### Tokens one after the other -/

/-- The text does not go on with a character of words. -/
def EndsWord (cs : List Char) : Prop := ∀ c ∈ cs.head?, isWordChar c = false

/-- The pass takes these tokens off the characters, whatever stands behind them. -/
def Scans (cs : List Char) (tokens : List Token) : Prop :=
  ∀ done rest, EndsWord rest →
    scan done .between (cs ++ rest) = scan (tokens.reverse ++ done) .between rest

theorem Scans.nil : Scans [] [] := fun _ _ _ => rfl

theorem tokens?_of_scans {cs : List Char} {tokens : List Token} (h : Scans cs tokens) :
    tokens? cs = some tokens := by
  have hscan := h [] [] (by simp [EndsWord])
  rw [List.append_nil, List.append_nil] at hscan
  rw [tokens?, hscan, scan, Option.map_some, List.reverse_reverse]

/-! ### Marks -/

/-- A mark between tokens is a token at once. -/
theorem stepBetween_of_mark {c : Char} {token : Token} (h : mark? c = some token)
    (done : List Token) : stepBetween done c = some (token :: done, .between) := by
  unfold mark? at h
  split at h <;> first | contradiction | (cases h; rfl)

theorem isWordChar_of_mark {c : Char} {token : Token} (h : mark? c = some token) :
    isWordChar c = false := by
  unfold mark? at h
  split at h <;> first | contradiction | rfl

/-- A mark in front is a token of its own. -/
theorem Scans.cons_mark {c : Char} {mark : Token} (hmark : mark? c = some mark) {cs : List Char}
    {tokens : List Token} (h : Scans cs tokens) : Scans (c :: cs) (mark :: tokens) := by
  intro done rest hrest
  rw [List.cons_append, scan, stepChar, stepBetween_of_mark hmark]
  simp [h _ rest hrest]

/-- A mark ends what stands before it. -/
theorem Scans.append_mark {c : Char} {mark : Token} (hmark : mark? c = some mark)
    {as bs : List Char} {ta tb : List Token} (ha : Scans as ta) (hb : Scans bs tb) :
    Scans (as ++ c :: bs) (ta ++ mark :: tb) := by
  intro done rest hrest
  have hends : EndsWord (c :: bs ++ rest) := by
    simp [EndsWord, isWordChar_of_mark hmark]
  rw [List.append_assoc, ha done _ hends, hb.cons_mark hmark _ rest hrest, List.reverse_append,
    List.append_assoc]

/-! ### Strings -/

/-- A string is scanned as it was written. -/
theorem scans_quote (s : String) : Scans (quote s) [.string (some s)] := by
  intro done rest _
  have hjoin : joinPieces (s.toList.map pieceOf).reverse.reverse = some s.toList := by
    rw [List.reverse_reverse, joinPieces_map_pieceOf]
  calc scan done .between (quote s ++ rest)
    _ = scan done (.text []) (s.toList.flatMap escapeChar ++ '"' :: rest) := by
        simp [quote, scan, stepChar, stepBetween, isSpace]
    _ = scan done (.text (s.toList.map pieceOf).reverse) ('"' :: rest) := by
        rw [scan_flatMap_escapeChar, List.append_nil]
    _ = scan (.string (some s) :: done) .between rest := by
        simp only [scan, stepChar, hjoin, if_pos, Option.map_some, String.ofList_toList]

/-! ### Words -/

/-- A character of words begins a word. -/
theorem stepBetween_of_isWordChar {c : Char} (h : isWordChar c = true) (done : List Token) :
    stepBetween done c = some (done, .word [c]) := by
  have hspace : isSpace c = false := by
    cases hspace : isSpace c with
    | false => rfl
    | true =>
      simp only [isSpace, Bool.or_eq_true, beq_iff_eq] at hspace
      rcases hspace with ((rfl | rfl) | rfl) | rfl <;> contradiction
  have hquote : c ≠ '"' := by rintro rfl; contradiction
  simp [stepBetween, hspace, hquote, h]

/-- Characters of words go on with the word. -/
theorem scan_word_append (done : List Token) (word : List Char) {cs : List Char}
    (h : ∀ c ∈ cs, isWordChar c = true) (rest : List Char) :
    scan done (.word word) (cs ++ rest) = scan done (.word (cs.reverse ++ word)) rest := by
  induction cs generalizing word with
  | nil => rfl
  | cons c cs ih =>
    rw [List.forall_mem_cons] at h
    simp [scan, stepChar, h.1, ih _ h.2]

/-- Where a word ends its token is there. -/
theorem scan_word {done : List Token} {word : List Char} {token : Token}
    (h : wordToken? word.reverse = some token) {rest : List Char} (hrest : EndsWord rest) :
    scan done (.word word) rest = scan (token :: done) .between rest := by
  -- the text ends, or a character that is not of words follows
  cases rest with
  | nil => simp [scan, h]
  | cons c rest =>
    have hc : isWordChar c = false := hrest c rfl
    simp [scan, stepChar, hc, h]

/-- A word is scanned whole, since what follows ends it. -/
theorem scans_word {cs : List Char} {token : Token} (htoken : wordToken? cs = some token)
    (hne : cs ≠ []) (hcs : cs.all isWordChar = true) : Scans cs [token] := by
  intro done rest hrest
  cases cs with
  | nil => contradiction
  | cons c cs =>
    rw [List.all_eq_true, List.forall_mem_cons] at hcs
    have hword : wordToken? (cs.reverse ++ [c]).reverse = some token := by simpa using htoken
    rw [List.cons_append, scan, stepChar, stepBetween_of_isWordChar hcs.1]
    simp only [scan_word_append done _ hcs.2, scan_word hword hrest]
    rfl

/-! ### Integers -/

/-- Digits and signs are characters of words. -/
theorem isWordChar_of_mem_intChars {n : Int} {c : Char} (h : c ∈ Numeral.intChars n) :
    isWordChar c = true := by
  have hdigit {m : Nat} (h : c ∈ Numeral.chars m) : isWordChar c = true := by
    have hc : c.isDigit = true := Nat.isDigit_of_mem_toDigits (by decide) (by decide) h
    simp [isWordChar, Char.isAlphanum, hc]
  -- a sign stands only in front of a negative number
  by_cases hneg : n < 0
  · rw [JsonNumber.intChars_of_neg hneg, List.mem_cons] at h
    rcases h with rfl | h
    · rfl
    · exact hdigit h
  · rw [JsonNumber.intChars_of_nonneg (by omega)] at h
    exact hdigit h

/-- An integer is a number and none of the three names. -/
theorem wordToken?_intChars {n : Int} (h : JsonNumber.FitsWord n) :
    wordToken? (Numeral.intChars n) = some (.number (some (.int n))) := by
  -- a numeral splits into its parts, which a name does not
  have hname {name : List Char} (hname : JsonNumber.parts? name = none) :
      Numeral.intChars n ≠ name := by
    rintro rfl
    rw [JsonNumber.parts?_intChars] at hname
    contradiction
  rw [wordToken?, if_neg (hname rfl), if_neg (hname rfl), if_neg (hname rfl),
    JsonNumber.parts?_intChars, Option.map_some, JsonNumber.ofParts_chars h]

/-- An integer that fits a word is scanned as it was written. -/
theorem scans_intChars {n : Int} (h : JsonNumber.FitsWord n) :
    Scans (Numeral.intChars n) [.number (some (.int n))] := by
  apply scans_word (wordToken?_intChars h)
  · intro hnil
    have hparts := JsonNumber.parts?_intChars n
    rw [hnil] at hparts
    contradiction
  · exact List.all_eq_true.mpr fun _ => isWordChar_of_mem_intChars

end SiteAnalytics.Json
