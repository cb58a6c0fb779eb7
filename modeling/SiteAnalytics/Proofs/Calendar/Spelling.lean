import SiteAnalytics.Proofs.Axis.Position
import SiteAnalytics.Proofs.Calendar.Text

/-!
# The ways to write an instant

An instant can be written with a space or a `T` between date and time, as a timestamp in UTC or at
any offset from it, without its seconds if they are zero, and as a bare date if it is midnight
(`DateInput.Writes`).  All these texts are read as that instant (`DateInput.read?_of_writes`).

All of them begin with the date, and every reader takes it in the same way
(`Pattern.readFrom?_dateChars`, `Timestamp.read?_dateChars`), so that what matters is the text that
follows: each reader that is tried too early fails within it.
-/

namespace SiteAnalytics

open Calendar

/-! ### Texts -/

namespace DateTime

/-- The fields of the date, with the clock at zero. -/
def dateReading (t : DateTime) : Reading :=
  { t.reading with hour := 0, minute := 0, second := 0 }

end DateTime

/-- An offset from UTC, by hours and minutes. -/
structure UtcOffset where
  /-- The clock is ahead of UTC or with it, and not behind it. -/
  ahead : Bool
  hours : Nat
  minutes : Nat
  hours_le : hours ≤ 23
  minutes_le : minutes ≤ 59

namespace UtcOffset

/-- By how many seconds the clock is ahead of UTC. -/
def seconds (o : UtcOffset) : Int :=
  if o.ahead then (60 * (60 * o.hours + o.minutes) : Nat)
  else -(60 * (60 * o.hours + o.minutes) : Nat)

/-- `+HH:MM` or `-HH:MM` -/
def chars (o : UtcOffset) : List Char :=
  (if o.ahead then '+' else '-') :: Numeral.padded 2 o.hours ++ ':' :: Numeral.padded 2 o.minutes

end UtcOffset

namespace DateInput

/-- The text is a way to write the instant `t`. -/
inductive Writes (t : DateTime) : List Char → Prop
  /-- `YYYY-MM-DD HH:MM:SS` -/
  | spaced : Writes t (t.dateChars ++ ' ' :: t.clockChars)
  /-- `YYYY-MM-DDTHH:MM:SS` -/
  | joined : Writes t (t.dateChars ++ 'T' :: t.clockChars)
  /-- The timestamp in UTC. -/
  | utc : Writes t (t.dateChars ++ 'T' :: t.clockChars ++ ['Z'])
  /-- The timestamp at an offset from UTC: what a clock shows there, and the offset. -/
  | offset (o : UtcOffset) :
    Writes t ((t.setAhead o.seconds).dateChars ++ 'T' :: (t.setAhead o.seconds).clockChars ++
      o.chars)
  /-- `YYYY-MM-DD HH:MM`, at the beginning of a minute. -/
  | minute : t.secondOfMinute = 0 → Writes t (t.dateChars ++ ' ' :: t.minuteChars)
  /-- `YYYY-MM-DD`, at midnight. -/
  | midnight : t.secondOfDay = 0 → Writes t t.dateChars
  /-- Any of these with blanks around it. -/
  | blanks {cs front back : List Char} : (∀ c ∈ front, Text.isBlank c = true) →
    (∀ c ∈ back, Text.isBlank c = true) → Writes t cs → Writes t (front ++ cs ++ back)

end DateInput

/-! ### Patterns -/

namespace Pattern

/-- The pattern of `HH:MM`. -/
def hourMinute : Pattern := [.field .hour, .mark ':', .field .minute]

/-- The pattern of `HH:MM:SS`. -/
def clock : Pattern := hourMinute ++ [.mark ':', .field .second]

variable {t : DateTime}

/-- Every pattern begins with the date, and reads it alike. -/
theorem readFrom?_dateChars (hyear : t.InFourDigitYear) (q : Pattern) (cs : List Char) :
    readFrom? (dateOnly ++ q) .start (t.dateChars ++ cs) =
      readFrom? q t.dateReading cs := by
  have hchars : t.dateChars ++ cs = yearChars t.date.year ++
      '-' :: (Numeral.padded 2 t.date.month ++ '-' :: (Numeral.padded 2 t.date.day ++ cs)) := by
    simp [DateTime.dateChars, DateTime.yearChars_eq hyear]
  rw [hchars, dateOnly]
  simp only [List.cons_append, List.nil_append]
  rw [readFrom?_year _ _ _ (by simp [DigitsEnd]), readFrom?_mark,
    readFrom?_field (by decide) _ _ t.date_month_lt_hundred, readFrom?_mark,
    readFrom?_field (by decide) _ _ t.date_day_lt_hundred]
  rfl

/-- Hour and minute are read as they are printed. -/
theorem readFrom?_minuteChars (t : DateTime) (q : Pattern) (r : Reading) (cs : List Char) :
    readFrom? (hourMinute ++ q) r (t.minuteChars ++ cs) =
      readFrom? q { r with hour := t.hour, minute := t.minute } cs := by
  have hchars : t.minuteChars ++ cs =
      Numeral.padded 2 t.hour ++ ':' :: (Numeral.padded 2 t.minute ++ cs) := by
    simp [DateTime.minuteChars]
  rw [hchars, hourMinute]
  simp only [List.cons_append, List.nil_append]
  rw [readFrom?_field (by decide) _ _ (t.hour_lt.trans (by decide)), readFrom?_mark,
    readFrom?_field (by decide) _ _ (t.minute_lt.trans (by decide))]
  rfl

theorem readFrom?_clockChars (hnano : t.nano = 0) (r : Reading) :
    readFrom? clock r t.clockChars =
      some { r with hour := t.hour, minute := t.minute, second := t.secondOfMinute } := by
  have hsecond := readFrom?_field (f := .second) (by decide) []
    { r with hour := t.hour, minute := t.minute } (DateTime.secondOfMinute_lt_hundred hnano) []
  rw [List.append_nil] at hsecond
  rw [clock, DateTime.clockChars, readFrom?_minuteChars, readFrom?_mark, hsecond]
  rfl

/-- A space in the pattern takes a space before the hour. -/
theorem readFrom?_space_minuteChars (t : DateTime) (q : Pattern) (r : Reading) (cs : List Char) :
    readFrom? (.space :: q) r (' ' :: (t.minuteChars ++ cs)) =
      readFrom? q r (t.minuteChars ++ cs) := by
  rw [DateTime.minuteChars, List.append_assoc]
  exact readFrom?_space q r 2 t.hour _

end Pattern

/-! ### Timestamps -/

namespace Timestamp

variable {t : DateTime}

/-- The seconds of a timestamp cannot be left out. -/
theorem readClock?_minuteChars (t : DateTime) :
    readClock? t.date (' ' :: t.minuteChars) = none := by
  have hseparator (cs : List Char) : separator? (' ' :: cs) = some cs := rfl
  have hminute := fixed?_padded (t.minute_lt.trans (by decide)) []
  rw [List.append_nil] at hminute
  rw [readClock?, hseparator, DateTime.minuteChars]
  dsimp only [Option.bind_eq_bind, Option.bind_some]
  rw [fixed?_padded (t.hour_lt.trans (by decide)), Option.bind_some, mark?_self, Option.bind_some,
    hminute]
  rfl

/-- An offset is read as it is written. -/
theorem offset?_chars (o : UtcOffset) : offset? o.chars = some (o.seconds, []) := by
  have hclock : offsetClock? (Numeral.padded 2 o.hours ++ ':' :: Numeral.padded 2 o.minutes) =
      some (((60 * (60 * o.hours + o.minutes) : Nat) : Int), []) := by
    have hminutes := fixed?_padded (Nat.lt_of_le_of_lt o.minutes_le (by decide)) []
    rw [List.append_nil] at hminutes
    rw [offsetClock?, fixed?_padded (Nat.lt_of_le_of_lt o.hours_le (by decide))]
    dsimp only [Option.bind_eq_bind, Option.bind_some]
    rw [mark?_self, Option.bind_some, hminutes, Option.bind_some]
    simp [o.hours_le, o.minutes_le]
  unfold UtcOffset.chars UtcOffset.seconds
  -- the sign decides only whether the seconds count forward or back
  cases o.ahead with
  | true => exact hclock
  | false => exact congrArg (Option.map _) hclock

/-- What a clock shows at an offset from UTC, and the offset behind it, tells the instant. -/
theorem readOffset?_reading {offset : Int} {cs : List Char} (hnano : t.nano = 0)
    (hcal : t.inCalendar = true) (hwall : (t.setAhead offset).inCalendar = true)
    (hfraction : fraction? cs = some (0, cs)) (hoffset : offset? cs = some (offset, [])) :
    readOffset? (t.setAhead offset).reading cs = some t := by
  have hread : (t.setAhead offset).reading.toDateTime? = some (t.setAhead offset) :=
    DateTime.toDateTime?_reading hwall hnano
  -- the offset that was added is taken away again
  have hback : (t.setAhead offset).setAhead (-offset) = t := by
    rw [DateTime.setAhead, DateTime.setAhead, DateTime.mk.injEq]
    exact ⟨by dsimp only; omega, rfl⟩
  rw [readOffset?, hfraction]
  dsimp only [Option.bind_eq_bind, Option.bind_some]
  rw [hoffset, Option.bind_some]
  show (t.setAhead offset).reading.toDateTime?.bind _ = _
  rw [hread, Option.bind_some, hback, DateTime.checked_eq_some hcal]
  rfl

/-- The timestamp of an instant at an offset from UTC. -/
theorem read?_setAhead {offset : Int} {cs : List Char} (hnano : t.nano = 0)
    (hcal : t.inCalendar = true) (hyear : (t.setAhead offset).InFourDigitYear)
    (hfraction : fraction? cs = some (0, cs)) (hoffset : offset? cs = some (offset, [])) :
    read? ((t.setAhead offset).dateChars ++ 'T' :: (t.setAhead offset).clockChars ++ cs) =
      some t := by
  have hwall : (t.setAhead offset).nano = 0 := hnano
  rw [List.append_assoc, List.cons_append, read?_dateChars hyear,
    readClock?_clockChars hwall (.inl rfl)]
  exact readOffset?_reading hnano hcal hyear.inCalendar hfraction hoffset

end Timestamp

/-! ### Reading -/

namespace DateTime

/-- A day more or less leads from a year to one of those next to it. -/
theorem inFourDigitYear_setAhead {t : DateTime} (hyear : 1 ≤ t.date.year ∧ t.date.year ≤ 9998)
    {offset : Int} (h₁ : -secondsPerDay ≤ offset) (h₂ : offset ≤ secondsPerDay) :
    (t.setAhead offset).InFourDigitYear := by
  have hday : t.day - 1 ≤ (t.setAhead offset).day ∧ (t.setAhead offset).day ≤ t.day + 1 := by
    unfold setAhead day secondsPerDay at *
    dsimp only
    omega
  have hfirst := (yearStart_le_iff 1 t.day).mpr hyear.1
  have hlast := (yearStart_le_iff 9999 t.day).not.mpr
    (Int.not_le.mpr (Int.lt_add_one_of_le hyear.2))
  -- the years at the two ends have a day at least
  have h₀ : yearStart 0 < yearStart 1 := yearStart_strictMono (by decide)
  have h₃ : yearStart 9999 < yearStart 10000 := yearStart_strictMono (by decide)
  constructor
  · exact (yearStart_le_iff 0 (t.setAhead offset).day).mp (by omega)
  · have hlt := (yearStart_le_iff 10000 (t.setAhead offset).day).not.mp (by omega)
    exact Int.le_of_lt_add_one (Int.not_le.mp hlt)

end DateTime

namespace UtcOffset

theorem seconds_bounds (o : UtcOffset) :
    -secondsPerDay ≤ o.seconds ∧ o.seconds ≤ secondsPerDay := by
  have h₁ := o.hours_le
  have h₂ := o.minutes_le
  unfold seconds secondsPerDay
  split <;> omega

/-- An offset in place of a fraction means that there is none. -/
theorem fraction?_chars (o : UtcOffset) : Timestamp.fraction? o.chars = some (0, o.chars) := by
  unfold chars
  cases o.ahead <;> rfl

end UtcOffset

namespace DateInput

variable {t : DateTime}

/-! ### Trimming -/

theorem trimChars_dateChars_append {cs front : List Char} {d : Char}
    (hlast : t.dateChars ++ cs = front ++ [d]) (hd : Text.isBlank d = false) :
    Text.trimChars (t.dateChars ++ cs) = t.dateChars ++ cs := by
  obtain ⟨c, ds, hds, hc⟩ := exists_padded_eq_cons 4 t.date.year.natAbs
  have hfirst : t.dateChars ++ cs = c :: (ds ++ '-' :: Numeral.padded 2 t.date.month ++
      '-' :: Numeral.padded 2 t.date.day ++ cs) := by
    rw [DateTime.dateChars, hds]
    simp
  exact Text.trimChars_eq hfirst (Text.isBlank_eq_false hc) hlast hd

/-- A text that ends in a number has no blank there. -/
theorem trimChars_dateChars_numeral {cs front : List Char} {width n : Nat}
    (hlast : t.dateChars ++ cs = front ++ Numeral.padded width n) :
    Text.trimChars (t.dateChars ++ cs) = t.dateChars ++ cs := by
  have hne : Numeral.padded width n ≠ [] :=
    List.ne_nil_of_length_pos (Numeral.length_padded_pos _ _)
  have hlast' : t.dateChars ++ cs = (front ++ (Numeral.padded width n).dropLast) ++
      [(Numeral.padded width n).getLast hne] := by
    rw [hlast, List.append_assoc, List.dropLast_append_getLast hne]
  exact trimChars_dateChars_append hlast'
    (Text.isBlank_eq_false (Numeral.isDigit_of_mem_padded (List.getLast_mem hne)))

/-! ### Each of the ways -/

/-- Timestamps are tried before all patterns. -/
theorem readChars?_of_timestamp {cs : List Char} (htrim : Text.trimChars cs = cs)
    (hread : Timestamp.read? cs = some t) : readChars? cs = some t := by
  unfold readChars?
  simp only [htrim, hread]

/-- A text that begins with a date and is no timestamp is read in the first pattern that fits. -/
theorem readChars?_dateChars (hyear : t.InFourDigitYear) {cs : List Char}
    (htrim : Text.trimChars (t.dateChars ++ cs) = t.dateChars ++ cs)
    (htimestamp : Timestamp.readClock? t.date cs = none) :
    readChars? (t.dateChars ++ cs) =
      [.space :: Pattern.clock, .mark 'T' :: Pattern.clock, .space :: Pattern.hourMinute,
        []].findSome? fun q => (Pattern.readFrom? q t.dateReading cs).bind Reading.toDateTime? := by
  have hpatterns : patterns = [.space :: Pattern.clock, .mark 'T' :: Pattern.clock,
      .space :: Pattern.hourMinute, []].map (Pattern.dateOnly ++ ·) := rfl
  unfold readChars?
  simp only [htrim, Timestamp.read?_dateChars hyear, htimestamp]
  rw [hpatterns, List.findSome?_map]
  congr 1
  funext q
  exact congrArg (Option.bind · Reading.toDateTime?) (Pattern.readFrom?_dateChars hyear q cs)

/-- With a `T` in between the text is no timestamp for want of an offset, and the second pattern
fits. -/
theorem readChars?_joined (hyear : t.InFourDigitYear) (hnano : t.nano = 0) :
    readChars? (t.dateChars ++ 'T' :: t.clockChars) = some t := by
  have htrim : Text.trimChars (t.dateChars ++ 'T' :: t.clockChars) =
      t.dateChars ++ 'T' :: t.clockChars :=
    trimChars_dateChars_numeral
      (show _ = (t.dateChars ++ 'T' :: (t.minuteChars ++ [':'])) ++
        Numeral.padded 2 t.secondOfMinute by simp [DateTime.clockChars])
  -- the clock is read, and then the offset is missing
  have htimestamp : Timestamp.readClock? t.date ('T' :: t.clockChars) = none := by
    have hclock := Timestamp.readClock?_clockChars hnano (.inl rfl) t.date []
    rw [List.append_nil] at hclock
    rw [hclock]
    rfl
  -- a space is no `T`
  have hspace : Pattern.readFrom? (.space :: Pattern.clock) t.dateReading ('T' :: t.clockChars) =
      none := rfl
  have hread : (Pattern.readFrom? (.mark 'T' :: Pattern.clock) t.dateReading
      ('T' :: t.clockChars)).bind Reading.toDateTime? = some t := by
    rw [Pattern.readFrom?_mark, Pattern.readFrom?_clockChars hnano]
    exact DateTime.toDateTime?_reading hyear.inCalendar hnano
  rw [readChars?_dateChars hyear htrim htimestamp]
  simp only [List.findSome?_cons, hspace, Option.bind_none, hread]

/-- Without seconds the text is no timestamp, and the third pattern is the first one that fits. -/
theorem readChars?_minute (hyear : t.InFourDigitYear) (hnano : t.nano = 0)
    (hsecond : t.secondOfMinute = 0) :
    readChars? (t.dateChars ++ ' ' :: t.minuteChars) = some t := by
  have htrim : Text.trimChars (t.dateChars ++ ' ' :: t.minuteChars) =
      t.dateChars ++ ' ' :: t.minuteChars :=
    trimChars_dateChars_numeral
      (show _ = (t.dateChars ++ ' ' :: (Numeral.padded 2 t.hour ++ [':'])) ++
        Numeral.padded 2 t.minute by simp [DateTime.minuteChars])
  have hspace (q : Pattern) : Pattern.readFrom? (.space :: (Pattern.hourMinute ++ q)) t.dateReading
      (' ' :: t.minuteChars) =
        Pattern.readFrom? q { t.dateReading with hour := t.hour, minute := t.minute } [] := by
    have hminute := Pattern.readFrom?_space_minuteChars t (Pattern.hourMinute ++ q) t.dateReading []
    rwa [Pattern.readFrom?_minuteChars, List.append_nil] at hminute
  -- the pattern with seconds expects another colon
  have hseconds : Pattern.readFrom? (.space :: Pattern.clock) t.dateReading (' ' :: t.minuteChars) =
      none := hspace _
  have hmark : Pattern.readFrom? (.mark 'T' :: Pattern.clock) t.dateReading
      (' ' :: t.minuteChars) = none := rfl
  have hread : (Pattern.readFrom? (.space :: Pattern.hourMinute) t.dateReading
      (' ' :: t.minuteChars)).bind Reading.toDateTime? = some t := by
    have hfields : t.reading = { t.dateReading with hour := t.hour, minute := t.minute } := by
      simp [DateTime.dateReading, DateTime.reading, hsecond]
    rw [show Pattern.hourMinute = Pattern.hourMinute ++ [] from rfl, hspace]
    show Reading.toDateTime? _ = _
    rw [← hfields, DateTime.toDateTime?_reading hyear.inCalendar hnano]
  rw [readChars?_dateChars hyear htrim (Timestamp.readClock?_minuteChars t)]
  simp only [List.findSome?_cons, hseconds, hmark, Option.bind_none, hread]

/-- A bare date leaves nothing to the patterns that go on with a clock. -/
theorem readChars?_midnight (hyear : t.InFourDigitYear) (hnano : t.nano = 0)
    (hclock : t.secondOfDay = 0) : readChars? t.dateChars = some t := by
  have htrim : Text.trimChars (t.dateChars ++ []) = t.dateChars ++ [] :=
    trimChars_dateChars_numeral
      (show _ = (Numeral.padded 4 t.date.year.natAbs ++ '-' :: (Numeral.padded 2 t.date.month ++
        ['-'])) ++ Numeral.padded 2 t.date.day by simp [DateTime.dateChars])
  have hread : (Pattern.readFrom? [] t.dateReading []).bind Reading.toDateTime? = some t := by
    have hfields : t.reading = t.dateReading := by
      simp [DateTime.dateReading, DateTime.reading, DateTime.hour, DateTime.minute,
        DateTime.secondOfMinute, hclock, hnano]
    show t.dateReading.toDateTime? = _
    rw [← hfields, DateTime.toDateTime?_reading hyear.inCalendar hnano]
  -- all other patterns go on behind the date
  have hseconds : Pattern.readFrom? (.space :: Pattern.clock) t.dateReading [] = none := rfl
  have hmark : Pattern.readFrom? (.mark 'T' :: Pattern.clock) t.dateReading [] = none := rfl
  have hminute : Pattern.readFrom? (.space :: Pattern.hourMinute) t.dateReading [] = none := rfl
  have hall := readChars?_dateChars hyear htrim rfl
  rw [List.append_nil] at hall
  rw [hall]
  simp only [List.findSome?_cons, hseconds, hmark, hminute, Option.bind_none, hread]

/-- With a space in between the first pattern fits. -/
theorem readChars?_spaced (hyear : t.InFourDigitYear) (hnano : t.nano = 0) :
    readChars? (t.dateChars ++ ' ' :: t.clockChars) = some t := by
  have hread := read?_format hyear.inCalendar hnano
  rwa [read?, DateTime.format, String.toList_ofList, DateTime.formatChars_dateTime_eq hyear]
    at hread

/-- The offset takes the clock back to UTC. -/
theorem readChars?_offset (hyear : 1 ≤ t.date.year ∧ t.date.year ≤ 9998) (hnano : t.nano = 0)
    (o : UtcOffset) : readChars? ((t.setAhead o.seconds).dateChars ++
      'T' :: (t.setAhead o.seconds).clockChars ++ o.chars) = some t := by
  have hwall := DateTime.inFourDigitYear_setAhead hyear o.seconds_bounds.1 o.seconds_bounds.2
  have hcal : t.inCalendar = true :=
    DateTime.InFourDigitYear.inCalendar ⟨by omega, by omega⟩
  refine readChars?_of_timestamp ?_ (Timestamp.read?_setAhead hnano hcal hwall o.fraction?_chars
    (Timestamp.offset?_chars o))
  rw [List.append_assoc]
  exact trimChars_dateChars_numeral
    (show _ = ((t.setAhead o.seconds).dateChars ++ 'T' :: ((t.setAhead o.seconds).clockChars ++
      (if o.ahead then '+' else '-') :: (Numeral.padded 2 o.hours ++ [':']))) ++
        Numeral.padded 2 o.minutes by simp [UtcOffset.chars])

/-- A `Z` is an offset of zero. -/
theorem readChars?_utc (hyear : t.InFourDigitYear) (hnano : t.nano = 0) :
    readChars? (t.dateChars ++ 'T' :: t.clockChars ++ ['Z']) = some t := by
  -- at no distance from UTC the clock shows the instant itself
  have hzero : t.setAhead 0 = t := by simp [DateTime.setAhead]
  refine readChars?_of_timestamp ?_ ?_
  · rw [List.append_assoc]
    exact trimChars_dateChars_append
      (show _ = (t.dateChars ++ 'T' :: t.clockChars) ++ ['Z'] by simp) rfl
  · have hread : Timestamp.read? ((t.setAhead 0).dateChars ++ 'T' :: (t.setAhead 0).clockChars ++
        ['Z']) = some t :=
      Timestamp.read?_setAhead hnano hyear.inCalendar (by rwa [hzero]) rfl rfl
    rwa [hzero] at hread

/-- **All ways to write an instant agree.** Whichever way an instant of a whole second in the years
1 to 9998 is written, it is read from the text: with a space or a `T` between date and time, as a
timestamp in UTC or at an offset from it, without its seconds if they are zero, as a bare date if it
is midnight, and each of these with any blanks around it. -/
theorem read?_of_writes (hnano : t.nano = 0) (hyear : 1 ≤ t.date.year ∧ t.date.year ≤ 9998)
    {s : String} (h : Writes t s.toList) : read? s = some t := by
  have hfour : t.InFourDigitYear := ⟨by omega, by omega⟩
  suffices hall : ∀ {cs : List Char}, Writes t cs → readChars? cs = some t from hall h
  intro cs h
  -- on the way of writing: blanks may be put around any of them
  induction h with
  | spaced => exact readChars?_spaced hfour hnano
  | joined => exact readChars?_joined hfour hnano
  | utc => exact readChars?_utc hfour hnano
  | offset o => exact readChars?_offset hyear hnano o
  | minute hsecond => exact readChars?_minute hfour hnano hsecond
  | midnight hclock => exact readChars?_midnight hfour hnano hclock
  | blanks hfront hback _ ih =>
    unfold readChars? at ih ⊢
    rwa [Text.trimChars_append hfront hback]

/-- The first midnight of the year 1, as a bare date among blanks, and by a clock that is behind UTC
and so shows the year before. -/
theorem read?_of_writes_yearOne :
    let t : DateTime := ⟨-62135596800, 0⟩
    let clock := "0000-12-31T00:01:00-23:59"
    let date := "\u2003 0001-01-01\n"
    t.nano = 0 ∧ (1 ≤ t.date.year ∧ t.date.year ≤ 9998) ∧ Writes t clock.toList ∧
      Writes t date.toList ∧ read? clock = some t ∧ read? date = some t := by
  intro t clock date
  have hyear : 1 ≤ t.date.year ∧ t.date.year ≤ 9998 := by decide +kernel
  have hclock : Writes t clock.toList := by
    let o : UtcOffset := ⟨false, 23, 59, by decide, by decide⟩
    have hchars : clock.toList = (t.setAhead o.seconds).dateChars ++
        'T' :: (t.setAhead o.seconds).clockChars ++ o.chars := by decide +kernel
    exact hchars ▸ .offset o
  have hdate : Writes t date.toList := by
    have hchars : date.toList = ['\u2003', ' '] ++ t.dateChars ++ ['\n'] := by decide +kernel
    have hfront : ∀ c ∈ ['\u2003', ' '], Text.isBlank c = true := by simp [Text.isBlank]
    have hback : ∀ c ∈ ['\n'], Text.isBlank c = true := by simp [Text.isBlank]
    rw [hchars]
    exact .blanks hfront hback (.midnight rfl)
  exact ⟨rfl, hyear, hclock, hdate, read?_of_writes rfl hyear hclock,
    read?_of_writes rfl hyear hdate⟩

end DateInput

end SiteAnalytics
