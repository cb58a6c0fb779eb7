import Mathlib.Data.List.Basic
import Mathlib.Data.List.TakeWhile
import SiteAnalytics.Text.FormEncoding

/-!
# Reading form-encoded pairs

Whatever bytes a name or a value is made of, they are read back from its written form
(`decode_encode`), and neither of the marks that separate pairs occurs in there
(`ne_of_mem_encode`).  So pairs that are appended to a query string are read behind those that it
has had, which stay as they were: `decodePairs_append`.
-/

namespace SiteAnalytics

/-! ### Splitting -/

theorem Text.splitAt_append_cons (c : Char) (as bs : List Char) :
    splitAt c (as ++ c :: bs) = splitAt c as ++ splitAt c bs := by
  induction as with
  | nil => simp [splitAt]
  | cons a as ih =>
    by_cases ha : a = c
    · simp [splitAt, ha, ih]
    · obtain ⟨part, parts, hparts⟩ := List.exists_cons_of_ne_nil (splitAt_ne_nil c as)
      simp [splitAt, ha, ih, hparts]

/-! ### Percent encoding -/

namespace Percent

theorem hexValue?_upperHexDigit {n : Nat} (h : n < 16) :
    Text.hexValue? (Text.upperHexDigit n) = some n := by
  have hall : ∀ n < 16, Text.hexValue? (Text.upperHexDigit n) = some n := by decide
  exact hall n h

theorem decode_encodeByte (b : UInt8) (rest : List Char) :
    decode (encodeByte b ++ rest) = b :: decode rest := by
  have hb : b.toNat < 256 := b.toNat_lt
  have hhigh := hexValue?_upperHexDigit (show b.toNat / 16 < 16 by omega)
  have hlow := hexValue?_upperHexDigit (show b.toNat % 16 < 16 by omega)
  have hdigits : 16 * (b.toNat / 16) + b.toNat % 16 = b.toNat := Nat.div_add_mod b.toNat 16
  simp only [encodeByte, List.cons_append, List.nil_append, decode, hhigh, hlow, hdigits,
    UInt8.ofNat_toNat]

theorem decode_cons_of_ne {c : Char} (h : c ≠ '%') (rest : List Char) :
    decode (c :: rest) = String.utf8EncodeChar c ++ decode rest := by
  rw [decode]
  rintro a b cs rfl
  contradiction

end Percent

/-! ### Names and values -/

namespace FormEncoding

theorem toNat_ofNat {n : Nat} (h : n < 128) : (Char.ofNat n).toNat = n := by
  have hvalid : n.isValidChar := .inl (by omega)
  rw [Char.ofNat, dif_pos hvalid]
  rfl

theorem utf8EncodeChar_ofNat {n : Nat} (h : n < 128) :
    String.utf8EncodeChar (Char.ofNat n) = [UInt8.ofNat n] := by
  have hval : (Char.ofNat n).val.toNat = n := toNat_ofNat h
  simp [String.utf8EncodeChar, hval, show n ≤ 127 by omega]

/-- What stands for itself is in ASCII, and none of the marks `%`, `&`, `+` and `=`. -/
theorem bounds_of_isPlain {b : UInt8} (h : isPlain b = true) :
    b.toNat < 128 ∧ b.toNat ∉ [0x25, 0x26, 0x2B, 0x3D] := by
  simp only [isPlain, Bool.or_eq_true, Bool.and_eq_true, decide_eq_true_eq, beq_iff_eq,
    UInt8.le_iff_toNat_le, ← UInt8.toNat_inj, UInt8.reduceToNat] at h
  simp only [List.mem_cons, List.not_mem_nil, or_false]
  omega

theorem ofNat_ne_of_isPlain {b : UInt8} (h : isPlain b = true) {c : Char}
    (hc : c.toNat ∈ [0x25, 0x26, 0x2B, 0x3D]) : Char.ofNat b.toNat ≠ c := by
  obtain ⟨hb, hmarks⟩ := bounds_of_isPlain h
  rintro rfl
  rw [toNat_ofNat hb] at hc
  exact hmarks hc

theorem upperHexDigit_ne {n : Nat} (h : n < 16) {c : Char}
    (hc : c.toNat ∈ [0x25, 0x26, 0x2B, 0x3D]) : Text.upperHexDigit n ≠ c := by
  have hall : ∀ n < 16, (Text.upperHexDigit n).toNat ∉ [0x25, 0x26, 0x2B, 0x3D] := by decide
  rintro rfl
  exact hall n h hc

theorem decode_encodeByte (b : UInt8) (rest : List Char) :
    decode (encodeByte b ++ rest) = b :: decode rest := by
  unfold encodeByte
  split_ifs with hspace hplain
  · subst hspace
    exact Percent.decode_cons_of_ne (by decide) _
  · have hplus : Char.ofNat b.toNat ≠ '+' := ofNat_ne_of_isPlain hplain (by decide)
    have hpercent : Char.ofNat b.toNat ≠ '%' := ofNat_ne_of_isPlain hplain (by decide)
    have hbyte := utf8EncodeChar_ofNat (bounds_of_isPlain hplain).1
    rw [decode, List.map_append, List.map_singleton, if_neg hplus, List.singleton_append,
      Percent.decode_cons_of_ne hpercent, hbyte, UInt8.ofNat_toNat]
    rfl
  · -- no hexadecimal digit is a plus sign
    have hdigit {n : Nat} (hn : n < 16) : Text.upperHexDigit n ≠ '+' :=
      upperHexDigit_ne hn (by decide)
    have hb : b.toNat < 256 := b.toNat_lt
    have hmap : (Percent.encodeByte b).map (fun c => if c = '+' then ' ' else c) =
        Percent.encodeByte b := by
      simp [Percent.encodeByte, hdigit (show b.toNat / 16 < 16 by omega),
        hdigit (show b.toNat % 16 < 16 by omega)]
    rw [decode, List.map_append, hmap, Percent.decode_encodeByte]
    rfl

/-- What is written of a name or a value is read as its bytes. -/
theorem decode_encode (s : String) : decode (encode s) = Text.bytes s := by
  have hrun (bs : List UInt8) : decode (bs.flatMap encodeByte) = bs := by
    induction bs with
    | nil => rfl
    | cons b bs ih => rw [List.flatMap_cons, decode_encodeByte, ih]
  exact hrun _

/-- The marks between pairs, and between their parts, do not occur in the parts. -/
theorem ne_of_mem_encode {s : String} {c : Char} (h : c ∈ encode s) : c ≠ '&' ∧ c ≠ '=' := by
  suffices hmark : ∀ mark : Char, mark.toNat ∈ [0x26, 0x3D] → c ≠ mark from
    ⟨hmark '&' (by decide), hmark '=' (by decide)⟩
  intro mark hmark
  have hmarks : mark.toNat ∈ [0x25, 0x26, 0x2B, 0x3D] := by
    simp only [List.mem_cons, List.not_mem_nil, or_false] at hmark ⊢
    omega
  obtain ⟨b, -, hc⟩ := List.mem_flatMap.mp h
  have hb : b.toNat < 256 := b.toNat_lt
  unfold encodeByte at hc
  split_ifs at hc with hspace hplain
  · rintro rfl
    rw [List.mem_singleton.mp hc] at hmark
    contradiction
  · rw [List.mem_singleton.mp hc]
    exact ofNat_ne_of_isPlain hplain hmarks
  · rw [Percent.encodeByte, List.mem_cons, List.mem_cons, List.mem_singleton] at hc
    rcases hc with rfl | rfl | rfl
    · rintro rfl
      contradiction
    · exact upperHexDigit_ne (by omega) hmarks
    · exact upperHexDigit_ne (by omega) hmarks

/-! ### Pairs -/

/-- The bytes of the name and of the value. -/
def pairBytes (pair : String × String) : List UInt8 × List UInt8 :=
  (Text.bytes pair.1, Text.bytes pair.2)

theorem decodePair_encodePair (pair : String × String) :
    decodePair (encodePair pair) = pairBytes pair := by
  have hname : ∀ c ∈ encode pair.1, (c != '=') = true := fun c hc =>
    bne_iff_ne.mpr (ne_of_mem_encode hc).2
  have htake : (encodePair pair).takeWhile (· != '=') = encode pair.1 := by
    simp [encodePair, List.takeWhile_append_of_pos hname]
  have hdrop : ((encodePair pair).dropWhile (· != '=')).drop 1 = encode pair.2 := by
    simp [encodePair, List.dropWhile_append_of_pos hname]
  rw [decodePair, htake, hdrop, decode_encode, decode_encode, pairBytes]

/-- A written pair is one part of a query string. -/
theorem decodePairs_encodePair (pair : String × String) :
    decodePairs (encodePair pair) = [pairBytes pair] := by
  have hmark : '&' ∉ encodePair pair := by
    intro h
    rw [encodePair, List.mem_append, List.mem_cons] at h
    rcases h with h | h | h
    · exact (ne_of_mem_encode h).1 rfl
    · contradiction
    · exact (ne_of_mem_encode h).1 rfl
  have hkept : [encodePair pair].filter (fun part => !part.isEmpty) = [encodePair pair] := by
    simp [encodePair]
  rw [decodePairs, Text.splitAt_eq_singleton hmark, hkept, List.map_singleton,
    decodePair_encodePair]

theorem decodePairs_append_cons (query more : List Char) :
    decodePairs (query ++ '&' :: more) = decodePairs query ++ decodePairs more := by
  rw [decodePairs, Text.splitAt_append_cons, List.filter_append, List.map_append]
  rfl

/-- Pairs that are appended are read behind those that were there. -/
theorem decodePairs_append (query : List Char) (pairs : List (String × String)) :
    decodePairs (append query pairs) = decodePairs query ++ pairs.map pairBytes := by
  induction pairs generalizing query with
  | nil => rw [append, List.map_nil, List.append_nil]
  | cons pair rest ih =>
    have hpair : decodePairs (if query.isEmpty then encodePair pair
        else query ++ '&' :: encodePair pair) = decodePairs query ++ [pairBytes pair] := by
      split_ifs with hquery
      · rw [List.isEmpty_iff.mp hquery, decodePairs_encodePair]
        rfl
      · rw [decodePairs_append_cons, decodePairs_encodePair]
    rw [append, ih, hpair, List.append_assoc, List.singleton_append, List.map_cons]

end FormEncoding

end SiteAnalytics
