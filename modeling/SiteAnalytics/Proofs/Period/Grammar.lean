import Mathlib.Tactic.SplitIfs
import SiteAnalytics.Period
import SiteAnalytics.Proofs.Text.Numeral

/-!
# Which texts are periods

A period is one of three words, or else digits with the letter of a unit behind them and perhaps a
`+` in front (`Period.Spells`).  The digits stand for a positive number of 32 bits; as many zeros as
one likes may lead.  The last character of a text is looked at first, whatever it is, and since no
word begins like a number the order in which the two kinds are tried does not matter.

`Period.parse_iff_spells` is the main result: just these texts are read, blanks around them aside,
and all others are refused as they stand.
-/

namespace SiteAnalytics

namespace PeriodUnit

/-- The letter of a unit. -/
def letter : PeriodUnit → Char
  | hour => 'h'
  | day => 'd'
  | week => 'w'
  | month => 'M'
  | year => 'y'

theorem ofLetter?_eq_some_iff {c : Char} {unit : PeriodUnit} :
    ofLetter? c = some unit ↔ c = unit.letter := by
  constructor
  · intro h
    unfold ofLetter? at h
    split at h
    case h_6 => contradiction
    all_goals
      obtain rfl := Option.some.inj h
      rfl
  · rintro rfl
    cases unit <;> rfl

end PeriodUnit

namespace Period

/-- The text stands for the period. -/
inductive Spells : List Char → Period → Prop
  | today : Spells "today".toList today
  | yesterday : Spells "yesterday".toList yesterday
  | all : Spells "all".toList all
  | relative {sign digits : List Char} {amount : Nat} (unit : PeriodUnit) :
    (sign = [] ∨ sign = ['+']) → digits ≠ [] → (∀ c ∈ digits, c.isDigit = true) →
      amount = Nat.ofDigitChars 10 digits 0 → 1 ≤ amount → amount ≤ 4294967295 →
      Spells (sign ++ digits ++ [unit.letter]) (relative amount unit)

/-- What begins with a number is no word. -/
theorem ne_of_numeral_append {sign digits word : List Char} (rest : List Char)
    (hsign : sign = [] ∨ sign = ['+']) (hne : digits ≠ [])
    (hdigits : ∀ c ∈ digits, c.isDigit = true)
    (hword : ∀ c ∈ word.head?, c.isDigit = false ∧ c ≠ '+') :
    sign ++ digits ++ rest ≠ word := by
  obtain ⟨d, ds, rfl⟩ := List.exists_cons_of_ne_nil hne
  rintro rfl
  rcases hsign with rfl | rfl
  · have hd := (hword d rfl).1
    rw [hdigits d List.mem_cons_self] at hd
    contradiction
  · exact (hword '+' rfl).2 rfl

/-- A number and a letter are read apart from the end. -/
theorem readNat_dropLast_iff {cs : List Char} {amount : Nat} {unit : PeriodUnit} :
    (∃ letter, cs.getLast? = some letter ∧ PeriodUnit.ofLetter? letter = some unit ∧
      Numeral.readNat Numeral.maxU32 cs.dropLast = .ok amount ∧ amount ≠ 0) ↔
      Spells cs (.relative amount unit) := by
  constructor
  · rintro ⟨letter, hlast, hunit, hread, hpos⟩
    obtain ⟨front, rfl⟩ := List.getLast?_eq_some_iff.mp hlast
    obtain rfl := PeriodUnit.ofLetter?_eq_some_iff.mp hunit
    rw [List.dropLast_concat] at hread
    obtain ⟨sign, digits, rfl, hsign, hne, hdigits, hvalue, hmax⟩ :=
      Numeral.readNat_eq_ok_iff.mp hread
    exact .relative unit hsign hne hdigits hvalue (Nat.one_le_iff_ne_zero.mpr hpos) hmax
  · intro h
    cases h with
    | @relative sign digits _ _ hsign hne hdigits hvalue hpos hmax =>
      refine ⟨unit.letter, List.getLast?_concat, PeriodUnit.ofLetter?_eq_some_iff.mpr rfl, ?_,
        Nat.one_le_iff_ne_zero.mp hpos⟩
      rw [List.dropLast_concat]
      exact Numeral.readNat_eq_ok_iff.mpr
        ⟨sign, digits, rfl, hsign, hne, hdigits, hvalue, hmax⟩

theorem ofChars?_eq_some_iff {cs : List Char} {p : Period} :
    ofChars? cs = some p ↔ Spells cs p := by
  constructor
  · intro h
    unfold ofChars? at h
    split_ifs at h with htoday hyesterday hall
    · obtain rfl := Option.some.inj h
      exact htoday ▸ .today
    · obtain rfl := Option.some.inj h
      exact hyesterday ▸ .yesterday
    · obtain rfl := Option.some.inj h
      exact hall ▸ .all
    · split at h
      · contradiction
      · rename_i letter hlast
        split at h
        · rename_i unit amount hunit hread
          split_ifs at h with hzero
          obtain rfl := Option.some.inj h
          exact readNat_dropLast_iff.mp ⟨letter, hlast, hunit, hread, hzero⟩
        · contradiction
  · intro h
    cases h with
    | today => rfl
    | yesterday => rfl
    | all => rfl
    | @relative sign digits amount unit hsign hne hdigits hvalue hpos hmax =>
      obtain ⟨letter, hlast, hunit, hread, hzero⟩ :=
        readNat_dropLast_iff.mpr (.relative unit hsign hne hdigits hvalue hpos hmax)
      have hword {word : List Char} (hhead : ∀ c ∈ word.head?, c.isDigit = false ∧ c ≠ '+') :=
        ne_of_numeral_append [unit.letter] hsign hne hdigits hhead
      rw [ofChars?, if_neg (hword (by simp)), if_neg (hword (by simp)),
        if_neg (hword (by simp)), hlast]
      simp only [hunit, hread, if_neg hzero]

/-- **The texts of periods.** A text is read as a period exactly if it is `today`, `yesterday` or
`all`, or else a decimal number from 1 to 4294967295 with the letter of a unit behind it and perhaps
a `+` in front, once the blanks around it are taken away. Every other text is refused, and the
refusal carries it with its blanks. -/
theorem parse_iff_spells (raw : String) :
    (∀ p, parse raw = .ok p ↔ Spells (Text.trimChars raw.toList) p) ∧
      ∀ e, parse raw = .error e ↔
        (∀ p, ¬Spells (Text.trimChars raw.toList) p) ∧ e = .invalidPeriod raw := by
  simp only [← ofChars?_eq_some_iff]
  rw [parse]
  cases ofChars? (Text.trimChars raw.toList) with
  | none => simp [eq_comm]
  | some period => simp

/-- Zeros may lead as many as one likes, and the amount is a word of 32 bits. -/
example : parse "\u2003+0000000000004294967295M" = .ok (.relative 4294967295 .month) ∧
    parse " 4294967296M" = .error (.invalidPeriod " 4294967296M") := by
  exact ⟨rfl, rfl⟩

end Period

end SiteAnalytics
