import SiteAnalytics.Calendar.Timestamp
import SiteAnalytics.Proofs.Calendar.LeapSecond
import SiteAnalytics.Proofs.Text.Blank

/-!
# Dates as text

Windows are reported as texts, and requests name their windows by texts.  The two fit together: a
date-time of the calendar without a fraction is read from the text that is printed for it
(`DateInput.read?_format`), in years of four digits and in all others.  No such text is taken for a
timestamp, which is read in steps, the date first (`Timestamp.read?_dateChars`), then the clock
(`Timestamp.readClock?_clockChars`), then the offset.

Whatever is read lies in the calendar (`DateInput.valid_of_read?`).
-/

namespace SiteAnalytics

open Calendar

/-! ### Pieces of a text -/

/-- What is no digit, or nothing at all, comes next. -/
def DigitsEnd (cs : List Char) : Prop := ∀ c ∈ cs.head?, c.isDigit = false

theorem takeWhile_isDigit_eq_nil {cs : List Char} (h : DigitsEnd cs) :
    cs.takeWhile Char.isDigit = [] := by
  cases cs with
  | nil => rfl
  | cons c cs => rw [List.takeWhile_cons, h c rfl]; rfl

/-- Digits are read up to the greatest number of them, or up to where they end. -/
theorem readNumber?_append {least most : Nat} {ds cs : List Char}
    (hdigits : ∀ c ∈ ds, c.isDigit = true) (hleast : least ≤ ds.length)
    (hmost : ds.length ≤ most) (hend : ds.length = most ∨ DigitsEnd cs) :
    readNumber? least most (ds ++ cs) = some (Nat.ofDigitChars 10 ds 0, cs) := by
  have htake : ((ds ++ cs).take most).takeWhile Char.isDigit = ds := by
    rw [List.take_append, List.take_of_length_le hmost,
      List.takeWhile_append_of_pos hdigits, takeWhile_isDigit_eq_nil, List.append_nil]
    -- either the limit cuts the text behind the digits or the digits end by themselves
    rcases hend with heq | hend
    · rw [heq, Nat.sub_self]
      simp [DigitsEnd]
    · intro c hc
      cases cs with
      | nil => simp at hc
      | cons d cs =>
        cases hm : most - ds.length with
        | zero => simp [hm] at hc
        | succ n =>
          rw [hm] at hc
          exact hend c hc
  unfold readNumber?
  simp only [Numeral.isSome_digit?]
  rw [htake, if_pos hleast, List.drop_left, Numeral.foldl_digit?_eq hdigits]

theorem readNumber?_eq_none {least most : Nat} {cs : List Char} (hleast : 0 < least)
    (h : DigitsEnd cs) : readNumber? least most cs = none := by
  have htake : (cs.take most).takeWhile Char.isDigit = [] := by
    apply takeWhile_isDigit_eq_nil
    -- a shorter beginning of the text has the same first character, or none
    intro c hc
    rw [List.head?_take] at hc
    split_ifs at hc
    · simp at hc
    · exact h c hc
  unfold readNumber?
  simp only [Numeral.isSome_digit?]
  rw [htake, List.length_nil, if_neg (not_le.mpr hleast)]

/-- What is read is a number of at most so many digits, and what follows is the rest. -/
theorem readNumber?_eq_some {least most n : Nat} {cs rest : List Char}
    (h : readNumber? least most cs = some (n, rest)) :
    ∃ ds, cs = ds ++ rest ∧ ds.length ≤ most ∧ n < 10 ^ ds.length := by
  have hlength := (List.takeWhile_prefix (l := cs.take most) Char.isDigit).length_le
  have hdigits : ∀ c ∈ (cs.take most).takeWhile Char.isDigit, c.isDigit = true :=
    fun c hc => (List.mem_takeWhile_imp hc)
  have hprefix := (List.takeWhile_prefix (l := cs.take most) Char.isDigit).trans
    (List.take_prefix most cs)
  unfold readNumber? at h
  simp only [Numeral.isSome_digit?] at h
  split_ifs at h
  obtain ⟨rfl, rfl⟩ := Prod.mk.inj (Option.some.inj h)
  refine ⟨_, (List.prefix_iff_eq_append.mp hprefix).symm, ?_, ?_⟩
  · rw [List.length_take] at hlength
    omega
  · rw [Numeral.foldl_digit?_eq hdigits]
    simpa using Numeral.ofDigitChars_lt hdigits 0

/-! ### Pieces of a date -/

/-- A number that is padded to a width is read back from as many digits. -/
theorem readNumber?_padded {least width n : Nat} (hwidth : 0 < width) (hleast : least ≤ width)
    (hn : n < 10 ^ width) (cs : List Char) :
    readNumber? least width (Numeral.padded width n ++ cs) = some (n, cs) := by
  have hlength := Numeral.length_padded hwidth hn
  rw [readNumber?_append (fun c hc => Numeral.isDigit_of_mem_padded hc) (by omega) (by omega)
    (.inl hlength), Numeral.ofDigitChars_padded]

/-- A padded number begins with a digit. -/
theorem exists_padded_eq_cons (width n : Nat) :
    ∃ d ds, Numeral.padded width n = d :: ds ∧ d.isDigit = true := by
  obtain ⟨d, ds, hds⟩ := List.exists_cons_of_length_pos (Numeral.length_padded_pos width n)
  exact ⟨d, ds, hds, Numeral.isDigit_of_mem_padded (show d ∈ Numeral.padded width n by simp [hds])⟩

/-- A year begins with a sign or with a digit, and neither of them is blank. -/
theorem exists_yearChars_eq_cons (y : Int) :
    ∃ c cs, yearChars y = c :: cs ∧ Text.isBlank c = false := by
  rw [yearChars]
  split
  · obtain ⟨d, ds, hds, hd⟩ := exists_padded_eq_cons 4 y.natAbs
    exact ⟨d, ds, hds, Text.isBlank_eq_false hd⟩
  · refine ⟨_, _, rfl, ?_⟩
    split <;> rfl

/-- A year is read as it is printed, as long as no further digit follows. -/
theorem readYear?_yearChars (y : Int) {cs : List Char} (hcs : DigitsEnd cs) :
    readYear? (yearChars y ++ cs) = some (y, cs) := by
  have hsigned : readNumber? 1 (Numeral.padded 4 y.natAbs ++ cs).length
      (Numeral.padded 4 y.natAbs ++ cs) = some (y.natAbs, cs) := by
    have hpos := Numeral.length_padded_pos 4 y.natAbs
    rw [readNumber?_append (fun c hc => Numeral.isDigit_of_mem_padded hc) (by omega)
      (by rw [List.length_append]; omega) (.inr hcs), Numeral.ofDigitChars_padded]
  rw [yearChars]
  split_ifs with hplain hneg
  · -- without a sign the year has four digits, and the first one is no sign
    simp only [Bool.and_eq_true, decide_eq_true_eq] at hplain
    have hfour : readNumber? 1 4 (Numeral.padded 4 y.natAbs ++ cs) = some (y.natAbs, cs) :=
      readNumber?_padded (by decide) (by decide) (by omega) cs
    obtain ⟨d, ds, hds, hd⟩ := exists_padded_eq_cons 4 y.natAbs
    rw [hds, List.cons_append] at hfour ⊢
    unfold readYear?
    split
    · rename_i heq
      obtain rfl := (List.cons.inj heq).1
      contradiction
    · rename_i heq
      obtain rfl := (List.cons.inj heq).1
      contradiction
    · rw [hfour, Option.map_some, Option.some.injEq, Prod.mk.injEq]
      exact ⟨by omega, rfl⟩
  · rw [List.cons_append, readYear?, hsigned, Option.map_some, Option.some.injEq, Prod.mk.injEq]
    exact ⟨by omega, rfl⟩
  · rw [List.cons_append, readYear?, hsigned, Option.map_some, Option.some.injEq, Prod.mk.injEq]
    exact ⟨by omega, rfl⟩

namespace Pattern

theorem readFrom?_mark (p : Pattern) (r : Reading) (c : Char) (cs : List Char) :
    readFrom? (.mark c :: p) r (c :: cs) = readFrom? p r cs := by
  rw [readFrom?, PatternItem.read?, if_pos rfl]

/-- A blank in a pattern takes the one that is printed and nothing of the number behind it. -/
theorem readFrom?_space (p : Pattern) (r : Reading) (width n : Nat) (cs : List Char) :
    readFrom? (.space :: p) r (' ' :: (Numeral.padded width n ++ cs)) =
      readFrom? p r (Numeral.padded width n ++ cs) := by
  obtain ⟨d, ds, hds, hd⟩ := exists_padded_eq_cons width n
  have hdrop : Text.dropBlanks (' ' :: d :: (ds ++ cs)) = d :: (ds ++ cs) :=
    Text.dropBlanks_cons (Text.isBlank_eq_false hd) (ds ++ cs)
  rw [readFrom?, PatternItem.read?, hds, List.cons_append, hdrop]

/-- The year of a pattern is read as it is printed. -/
theorem readFrom?_year (p : Pattern) (r : Reading) (y : Int) {cs : List Char}
    (hcs : DigitsEnd cs) :
    readFrom? (.field .year :: p) r (yearChars y ++ cs) = readFrom? p (r.set .year y) cs := by
  obtain ⟨c, ds, hds, hc⟩ := exists_yearChars_eq_cons y
  have hdrop : Text.dropBlanks (yearChars y ++ cs) = yearChars y ++ cs := by
    rw [hds, List.cons_append, Text.dropBlanks_cons hc]
  rw [readFrom?, PatternItem.read?, hdrop, readYear?_yearChars y hcs]
  rfl

/-- Any other field of a pattern is read from its two digits. -/
theorem readFrom?_field {f : Field} (hf : f ≠ .year) (p : Pattern) (r : Reading) {n : Nat}
    (hn : n < 100) (cs : List Char) :
    readFrom? (.field f :: p) r (Numeral.padded 2 n ++ cs) = readFrom? p (r.set f n) cs := by
  obtain ⟨d, ds, hds, hd⟩ := exists_padded_eq_cons 2 n
  -- no blank is skipped in front of a digit
  have hdrop : Text.dropBlanks (Numeral.padded 2 n ++ cs) = Numeral.padded 2 n ++ cs := by
    rw [hds, List.cons_append, Text.dropBlanks_cons (Text.isBlank_eq_false hd)]
  have hread : PatternItem.read? (.field f) r (Numeral.padded 2 n ++ cs) =
      some (r.set f n, cs) := by
    rw [PatternItem.read?, hdrop, readNumber?_padded (by decide) (by decide) hn]
    · rfl
    · exact fun h => hf h
  rw [readFrom?, hread]

end Pattern

/-! ### Reading back -/

namespace DateTime

/-- `YYYY-MM-DD` -/
def dateChars (t : DateTime) : List Char :=
  Numeral.padded 4 t.date.year.natAbs ++ '-' :: Numeral.padded 2 t.date.month ++
    '-' :: Numeral.padded 2 t.date.day

/-- `HH:MM` -/
def minuteChars (t : DateTime) : List Char :=
  Numeral.padded 2 t.hour ++ ':' :: Numeral.padded 2 t.minute

/-- `HH:MM:SS` -/
def clockChars (t : DateTime) : List Char :=
  t.minuteChars ++ ':' :: Numeral.padded 2 t.secondOfMinute

/-- The fields of a date-time, read as they are printed. -/
def reading (t : DateTime) : Reading :=
  ⟨t.date.year, t.date.month, t.date.day, t.hour, t.minute, t.secondOfMinute, 0⟩

/-- The fields of a date-time of the calendar are put together again. -/
theorem toDateTime?_reading {t : DateTime} (hcal : t.inCalendar = true) (hnano : t.nano = 0) :
    t.reading.toDateTime? = some t := by
  obtain ⟨second, nano⟩ := t
  dsimp only at hnano
  subst hnano
  have hday : dayOfYmd? (DateTime.mk second 0).date.year (DateTime.mk second 0).date.month
      (DateTime.mk second 0).date.day = some (DateTime.mk second 0).day :=
    dayOfYmd?_eq_some_iff.mpr ⟨hcal, rfl⟩
  unfold Reading.toDateTime? reading
  simp only [hday, Option.bind_eq_bind, Option.bind_some]
  unfold hour minute secondOfMinute secondOfDay day secondsPerDay
  simp only [Nat.zero_div, Nat.add_zero]
  -- the clock lies within a day, and its second is no leap second
  rw [if_pos, if_neg]
  · rw [Option.some.injEq, DateTime.mk.injEq]
    omega
  · omega
  · simp only [Bool.and_eq_true, decide_eq_true_eq]
    omega

theorem formatChars_dateTime (t : DateTime) : t.formatChars Pattern.dateTime =
    yearChars t.date.year ++ '-' :: (Numeral.padded 2 t.date.month ++
      '-' :: (Numeral.padded 2 t.date.day ++ ' ' :: (Numeral.padded 2 t.hour ++
        ':' :: (Numeral.padded 2 t.minute ++
          ':' :: (Numeral.padded 2 t.secondOfMinute ++ []))))) := by
  simp [formatChars, Pattern.dateTime, Pattern.dateOnly, fieldChars]

/-- A year of four digits is printed without a sign. -/
theorem yearChars_eq {t : DateTime} (h : 0 ≤ t.date.year ∧ t.date.year ≤ 9999) :
    yearChars t.date.year = Numeral.padded 4 t.date.year.natAbs := by
  rw [yearChars, if_pos]
  simpa using h

theorem formatChars_dateTime_eq {t : DateTime} (h : 0 ≤ t.date.year ∧ t.date.year ≤ 9999) :
    t.formatChars Pattern.dateTime = t.dateChars ++ ' ' :: t.clockChars := by
  simp [formatChars_dateTime, dateChars, clockChars, minuteChars, yearChars_eq h]

/-- Without a fraction the seconds take two digits, since there is no leap second. -/
theorem secondOfMinute_lt_hundred {t : DateTime} (hnano : t.nano = 0) :
    t.secondOfMinute < 100 := by
  rw [secondOfMinute, hnano, Nat.zero_div]
  omega

theorem date_month_lt_hundred (t : DateTime) : t.date.month < 100 := by
  have := ofDay_month_bounds t.day
  unfold date
  omega

theorem date_day_lt_hundred (t : DateTime) : t.date.day < 100 := by
  have h := ofDay_day t.day
  have hnear := (monthIndex_near t.day).1
  rw [monthFirst_monthIndex] at hnear
  unfold date
  omega

end DateTime

/-- A date-time is read in the pattern in which it is printed. -/
theorem Pattern.read?_formatChars {t : DateTime} (hcal : t.inCalendar = true)
    (hnano : t.nano = 0) : Pattern.dateTime.read? (t.formatChars Pattern.dateTime) = some t := by
  -- the pattern takes the text apart piece by piece, in the order in which it was printed
  have hfields : Pattern.dateTime.readFrom? .start (t.formatChars Pattern.dateTime) =
      some t.reading := by
    rw [t.formatChars_dateTime, Pattern.dateTime, Pattern.dateOnly]
    simp only [List.cons_append, List.nil_append]
    rw [readFrom?_year _ _ _ (by simp [DigitsEnd]), readFrom?_mark,
      readFrom?_field (by decide) _ _ t.date_month_lt_hundred, readFrom?_mark,
      readFrom?_field (by decide) _ _ t.date_day_lt_hundred, readFrom?_space,
      readFrom?_field (by decide) _ _ (t.hour_lt.trans (by decide)), readFrom?_mark,
      readFrom?_field (by decide) _ _ (t.minute_lt.trans (by decide)), readFrom?_mark,
      readFrom?_field (by decide) _ _ (DateTime.secondOfMinute_lt_hundred hnano)]
    rfl
  rw [Pattern.read?, hfields, Option.bind_some, DateTime.toDateTime?_reading hcal hnano]

/-! ### Timestamps -/

namespace Timestamp

variable {t : DateTime}

/-- Reads what follows date and time in a timestamp. -/
def readOffset? (r : Reading) (cs : List Char) : Option DateTime := do
  let (nano, cs) ← fraction? cs
  let (offset, cs) ← offset? cs
  let wall ← { r with nano := nano }.toDateTime?
  if cs.isEmpty then (wall.setAhead (-offset)).checked else none

/-- Reads what follows the date in a timestamp. -/
def readClock? (date : Date) (cs : List Char) : Option DateTime := do
  let cs ← separator? cs
  let (hour, cs) ← fixed? 2 cs
  let cs ← mark? ':' cs
  let (minute, cs) ← fixed? 2 cs
  let cs ← mark? ':' cs
  let (second, cs) ← fixed? 2 cs
  readOffset? ⟨date.year, date.month, date.day, hour, minute, second, 0⟩ cs

theorem fixed?_padded {n : Nat} (hn : n < 100) (cs : List Char) :
    fixed? 2 (Numeral.padded 2 n ++ cs) = some (n, cs) :=
  readNumber?_padded (by decide) (Nat.le_refl _) hn cs

theorem mark?_self (c : Char) (cs : List Char) : mark? c (c :: cs) = some cs := if_pos rfl

/-- Behind the date a timestamp goes on with its clock. -/
theorem read?_dateChars (hyear : 0 ≤ t.date.year ∧ t.date.year ≤ 9999) (cs : List Char) :
    read? (t.dateChars ++ cs) = readClock? t.date cs := by
  obtain ⟨h₀, h₁⟩ := hyear
  have hfour (cs : List Char) : fixed? 4 (Numeral.padded 4 t.date.year.natAbs ++ cs) =
      some (t.date.year.natAbs, cs) :=
    readNumber?_padded (by decide) (Nat.le_refl _) (by omega) cs
  have hnatAbs : (t.date.year.natAbs : Int) = t.date.year := Int.natAbs_of_nonneg h₀
  have hchars : t.dateChars ++ cs = Numeral.padded 4 t.date.year.natAbs ++
      '-' :: (Numeral.padded 2 t.date.month ++ '-' :: (Numeral.padded 2 t.date.day ++ cs)) := by
    simp [DateTime.dateChars]
  rw [hchars, read?, hfour]
  dsimp only [Option.bind_eq_bind, Option.bind_some]
  rw [mark?_self, Option.bind_some, fixed?_padded t.date_month_lt_hundred, Option.bind_some,
    mark?_self, Option.bind_some, fixed?_padded t.date_day_lt_hundred, Option.bind_some, hnatAbs]
  rfl

/-- The clock is read behind a separator. -/
theorem readClock?_clockChars (hnano : t.nano = 0) {c : Char} (hc : c = 'T' ∨ c = ' ')
    (date : Date) (cs : List Char) : readClock? date (c :: (t.clockChars ++ cs)) =
      readOffset? ⟨date.year, date.month, date.day, t.hour, t.minute, t.secondOfMinute, 0⟩ cs := by
  have hseparator (cs : List Char) : separator? (c :: cs) = some cs := by
    rcases hc with rfl | rfl <;> rfl
  have hchars : t.clockChars ++ cs = Numeral.padded 2 t.hour ++
      ':' :: (Numeral.padded 2 t.minute ++ ':' :: (Numeral.padded 2 t.secondOfMinute ++ cs)) := by
    simp [DateTime.clockChars, DateTime.minuteChars]
  rw [hchars, readClock?, hseparator]
  dsimp only [Option.bind_eq_bind, Option.bind_some]
  rw [fixed?_padded (t.hour_lt.trans (by decide)), Option.bind_some, mark?_self, Option.bind_some,
    fixed?_padded (t.minute_lt.trans (by decide)), Option.bind_some, mark?_self, Option.bind_some,
    fixed?_padded (DateTime.secondOfMinute_lt_hundred hnano), Option.bind_some]

/-- A timestamp says how far it is ahead of UTC, and a printed date-time does not. -/
theorem read?_formatChars (hnano : t.nano = 0) :
    read? (t.formatChars Pattern.dateTime) = none := by
  -- the reading gets as far as the year is plain: to the missing offset, or not past the sign
  by_cases hplain : 0 ≤ t.date.year ∧ t.date.year ≤ 9999
  · have hclock := readClock?_clockChars hnano (.inr rfl) t.date []
    rw [List.append_nil] at hclock
    rw [DateTime.formatChars_dateTime_eq hplain, read?_dateChars hplain, hclock]
    rfl
  · -- other years begin with a sign
    rw [t.formatChars_dateTime, yearChars, if_neg (by simpa using hplain)]
    split_ifs <;>
      rw [read?, List.cons_append, fixed?,
        readNumber?_eq_none (by decide) (by simp [DigitsEnd])] <;>
      rfl

end Timestamp

namespace DateInput

/-- A date-time of the calendar is read from its own text. -/
theorem read?_format {t : DateTime} (hcal : t.inCalendar = true) (hnano : t.nano = 0) :
    read? (t.format Pattern.dateTime) = some t := by
  have htrim : Text.trimChars (t.formatChars Pattern.dateTime) =
      t.formatChars Pattern.dateTime := by
    obtain ⟨c, cs, hyear, hc⟩ := exists_yearChars_eq_cons t.date.year
    have hne : Numeral.padded 2 t.secondOfMinute ≠ [] :=
      List.ne_nil_of_length_pos (Numeral.length_padded_pos _ _)
    -- the last character is a digit of the seconds
    have hlast : t.formatChars Pattern.dateTime =
        (t.formatChars Pattern.dateTime.dropLast ++ (Numeral.padded 2 t.secondOfMinute).dropLast) ++
          [(Numeral.padded 2 t.secondOfMinute).getLast hne] := by
      rw [List.append_assoc, List.dropLast_append_getLast hne]
      simp [DateTime.formatChars, Pattern.dateTime, Pattern.dateOnly, DateTime.fieldChars]
    have hd := Text.isBlank_eq_false (Numeral.isDigit_of_mem_padded (List.getLast_mem hne))
    have hfirst : t.formatChars Pattern.dateTime =
        c :: (cs ++ t.formatChars Pattern.dateTime.tail) := by
      rw [← List.cons_append, ← hyear]
      rfl
    exact Text.trimChars_eq hfirst hc hlast hd
  simp only [read?, DateTime.format, String.toList_ofList, readChars?, htrim,
    Timestamp.read?_formatChars hnano]
  rw [patterns, List.findSome?_cons, Pattern.read?_formatChars hcal hnano]

end DateInput

/-! ### What is read -/

/-- What is put together from fields lies in the calendar, and at most a leap second is added to the
fraction that was read. -/
theorem Reading.toDateTime?_eq_some {r : Reading} {t : DateTime} (h : r.toDateTime? = some t) :
    t.inCalendar = true ∧ t.nano ≤ r.nano + nanosPerSecond := by
  unfold Reading.toDateTime? at h
  rw [Option.bind_eq_bind, Option.bind_eq_some_iff] at h
  obtain ⟨day, hday, h⟩ := h
  split at h
  · rename_i hclock
    simp only [Bool.and_eq_true, decide_eq_true_eq] at hclock
    obtain rfl := Option.some.inj h
    constructor
    · -- the clock stays within the day that was read
      rw [DateTime.inCalendar]
      convert (dayOfYmd?_eq_some_iff.mp hday).1
      unfold DateTime.day secondsPerDay
      dsimp only
      omega
    · dsimp only
      split <;> omega
  · contradiction

/-- No item of a pattern reads a fraction. -/
theorem PatternItem.nano_of_read? {item : PatternItem} {r r' : Reading} {cs rest : List Char}
    (h : item.read? r cs = some (r', rest)) : r'.nano = r.nano := by
  have hset (f : Field) (n : Int) : (r.set f n).nano = r.nano := by cases f <;> rfl
  unfold PatternItem.read? at h
  split at h
  · rw [← (Prod.mk.inj (Option.some.inj h)).1]
  · split at h
    · split_ifs at h
      rw [← (Prod.mk.inj (Option.some.inj h)).1]
    · contradiction
  · obtain ⟨_, -, h⟩ := Option.map_eq_some_iff.mp h
    rw [← (Prod.mk.inj h).1, hset]
  · obtain ⟨_, -, h⟩ := Option.map_eq_some_iff.mp h
    rw [← (Prod.mk.inj h).1, hset]

theorem Pattern.nano_of_readFrom? {p : Pattern} {r r' : Reading} {cs : List Char}
    (h : p.readFrom? r cs = some r') : r'.nano = r.nano := by
  -- on the items that are left: none of them changes the fraction
  induction p generalizing r cs with
  | nil =>
    cases cs with
    | nil => rw [Option.some.inj h]
    | cons c cs => contradiction
  | cons item p ih =>
    rw [readFrom?] at h
    split at h
    · rename_i hitem
      rw [ih h, PatternItem.nano_of_read? hitem]
    · contradiction

/-- What a pattern reads has no fraction but that of a leap second. -/
theorem Pattern.valid_of_read? {p : Pattern} {cs : List Char} {t : DateTime}
    (h : p.read? cs = some t) : t.Valid := by
  obtain ⟨r, hr, h⟩ := Option.bind_eq_some_iff.mp h
  have hnano := Pattern.nano_of_readFrom? hr
  have hread := Reading.toDateTime?_eq_some h
  refine ⟨hread.1, ?_⟩
  have hstart : Reading.start.nano = 0 := rfl
  unfold nanosPerSecond at *
  omega

/-- At most nine digits are read as a fraction, and so it is less than a second. -/
theorem Timestamp.fraction?_lt {nano : Nat} {cs rest : List Char}
    (h : fraction? cs = some (nano, rest)) : nano < nanosPerSecond := by
  unfold fraction? at h
  split at h
  · rename_i cs
    rw [Option.bind_eq_bind, Option.bind_eq_some_iff] at h
    obtain ⟨⟨value, rest'⟩, hread, h⟩ := h
    obtain ⟨ds, rfl, hwidth, hvalue⟩ := readNumber?_eq_some hread
    obtain ⟨rfl, -⟩ := Prod.mk.inj (Option.some.inj h)
    have hlength : (ds ++ rest').length - rest'.length = ds.length := by
      rw [List.length_append]
      omega
    calc value * 10 ^ (9 - ((ds ++ rest').length - rest'.length))
        = value * 10 ^ (9 - ds.length) := by rw [hlength]
      _ < 10 ^ ds.length * 10 ^ (9 - ds.length) :=
        Nat.mul_lt_mul_of_pos_right hvalue (Nat.pow_pos (by decide))
      _ = nanosPerSecond := by
        rw [← pow_add, Nat.add_sub_cancel' hwidth]
        rfl
  · obtain ⟨rfl, -⟩ := Prod.mk.inj (Option.some.inj h)
    decide

theorem Timestamp.valid_of_read? {cs : List Char} {t : DateTime} (h : read? cs = some t) :
    t.Valid := by
  unfold read? at h
  -- the eleven pieces before the fraction do not matter
  iterate 11 obtain ⟨_, -, h⟩ := Option.bind_eq_some_iff.mp h
  obtain ⟨⟨nano, _⟩, hnano, h⟩ := Option.bind_eq_some_iff.mp h
  obtain ⟨_, -, h⟩ := Option.bind_eq_some_iff.mp h
  obtain ⟨wall, hwall, h⟩ := Option.bind_eq_some_iff.mp h
  -- the fraction is less than a second, and a leap second adds no more than one
  have hread := Reading.toDateTime?_eq_some hwall
  have hlt := fraction?_lt hnano
  split at h
  · have hcal := DateTime.inCalendar_of_checked h
    obtain rfl := DateTime.eq_of_checked h
    refine ⟨hcal, ?_⟩
    show wall.nano < _
    dsimp only at hread
    omega
  · contradiction

/-- A date that is read is one that a clock can show. -/
theorem DateInput.valid_of_read? {s : String} {t : DateTime} (h : read? s = some t) : t.Valid := by
  unfold read? readChars? at h
  dsimp only at h
  split at h
  · rename_i htimestamp
    obtain rfl := Option.some.inj h
    exact Timestamp.valid_of_read? htimestamp
  · obtain ⟨p, -, hp⟩ := List.exists_of_findSome?_eq_some h
    exact Pattern.valid_of_read? hp

end SiteAnalytics
