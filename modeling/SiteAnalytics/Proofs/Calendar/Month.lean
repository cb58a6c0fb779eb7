import Mathlib
import SiteAnalytics.Calendar.Date

/-!
# Months and years as numbered intervals

Months are numbered through like days: month `12 * y + m - 1` is month `m` of the year `y`.
`monthFirst` is the first day of a numbered month, and `monthIndex` the number of the month of a
day.  The two are adjoint (`monthFirst_le_iff`), as are `yearStart` and `yearOf`
(`yearStart_le_iff`), because a strictly increasing sequence of first days cuts the days into
intervals.  `monthIndex_addMonths?` says that a step of `n` months moves the number by `n`, whatever
the lengths of the months are.
-/

namespace SiteAnalytics.Calendar

/-! ### Intervals between the points of a sequence -/

/-- A sequence that increases has begun its `i`-th interval by `x` iff `i` is at most the number of
the interval that contains `x`. -/
theorem le_iff_of_bracket {f : Int → Int} (hf : StrictMono f) {j x : Int} (h₁ : f j ≤ x)
    (h₂ : x < f (j + 1)) (i : Int) : f i ≤ x ↔ i ≤ j := by
  constructor
  · intro h
    have hlt : f i < f (j + 1) := lt_of_le_of_lt h h₂
    have := hf.lt_iff_lt.mp hlt
    omega
  · intro h
    exact le_trans (hf.monotone h) h₁

/-! ### Years -/

theorem yearStart_strictMono : StrictMono yearStart :=
  strictMono_int_of_lt_succ yearStart_lt_succ

/-- A year has begun by a day iff it is not after the year of the day. -/
theorem yearStart_le_iff (y day : Int) : yearStart y ≤ day ↔ y ≤ yearOf day :=
  le_iff_of_bracket yearStart_strictMono (yearStart_yearOf_le day) (lt_yearStart_yearOf_succ day) y

/-! ### The months of a year -/

theorem monthLength_pos (leap : Bool) (month : Nat) : 28 ≤ monthLength leap month := by
  unfold monthLength
  split <;> (try split) <;> omega

theorem monthLength_le (leap : Bool) (month : Nat) : monthLength leap month ≤ 31 := by
  unfold monthLength
  split <;> (try split) <;> omega

/-- The month of a day of the year is one of the twelve, and contains the day. -/
theorem monthOfOrdinal_bracket (leap : Bool) {ordinal : Int} (h₀ : 0 ≤ ordinal)
    (h₁ : ordinal < if leap then 366 else 365) :
    1 ≤ monthOfOrdinal leap ordinal ∧ monthOfOrdinal leap ordinal ≤ 12 ∧
      daysBeforeMonth leap (monthOfOrdinal leap ordinal) ≤ ordinal ∧
      ordinal < daysBeforeMonth leap (monthOfOrdinal leap ordinal) +
        monthLength leap (monthOfOrdinal leap ordinal) := by
  -- there are but two calendars of a year, so all their days can be tried
  have key : ∀ leap : Bool, ∀ n : Fin 366, (n : Nat) < (if leap then 366 else 365) →
      1 ≤ monthOfOrdinal leap n ∧ monthOfOrdinal leap n ≤ 12 ∧
        daysBeforeMonth leap (monthOfOrdinal leap n) ≤ (n : Nat) ∧
        (n : Nat) < daysBeforeMonth leap (monthOfOrdinal leap n) +
          monthLength leap (monthOfOrdinal leap n) := by decide +kernel
  obtain ⟨n, rfl⟩ := Int.eq_ofNat_of_zero_le h₀
  have hn : n < if leap then 366 else 365 := by
    cases leap <;> simp at h₁ ⊢ <;> omega
  have h366 : n < 366 := by cases leap <;> simp at hn <;> omega
  have h := key leap ⟨n, h366⟩ hn
  refine ⟨h.1, h.2.1, ?_, ?_⟩
  · exact_mod_cast h.2.2.1
  · exact_mod_cast h.2.2.2

/-! ### Months as numbers -/

/-- The number of the month of a day. -/
def monthIndex (day : Int) : Int := 12 * (Date.ofDay day).year + ((Date.ofDay day).month : Int) - 1

/-- The first day of the month with a number. -/
def monthFirst (index : Int) : Int :=
  Date.toDay ⟨index / 12, (index % 12).toNat + 1, 1⟩

/-- The length of the month with a number. -/
def monthDays (index : Int) : Nat := monthLength (isLeapYear (index / 12)) ((index % 12).toNat + 1)

theorem monthFirst_eq (index : Int) : monthFirst index =
    yearStart (index / 12) +
      daysBeforeMonth (isLeapYear (index / 12)) ((index % 12).toNat + 1) := by
  unfold monthFirst Date.toDay
  simp

theorem yearLength_eq (y : Int) :
    yearLength y = daysBeforeMonth (isLeapYear y) 12 + monthLength (isLeapYear y) 12 := by
  unfold yearLength
  cases isLeapYear y <;> rfl

theorem daysBeforeMonth_succ (leap : Bool) {month : Nat} (h : 1 ≤ month) :
    daysBeforeMonth leap (month + 1) = daysBeforeMonth leap month + monthLength leap month := by
  obtain ⟨m, rfl⟩ : ∃ m, month = m + 1 := ⟨month - 1, by omega⟩
  rfl

/-- A month ends where the following one begins. -/
theorem monthFirst_succ (index : Int) :
    monthFirst (index + 1) = monthFirst index + monthDays index := by
  rw [monthFirst_eq, monthFirst_eq, monthDays]
  -- December is followed by the first month of another year
  by_cases h : index % 12 = 11
  · have hy : (index + 1) / 12 = index / 12 + 1 := by omega
    have hm : (index + 1) % 12 = 0 := by omega
    rw [hy, hm, h, yearStart_succ, yearLength_eq]
    show _ + ((0 : Nat) : Int) = _ + ((daysBeforeMonth _ 12 : Nat) : Int) + (monthLength _ 12 : Nat)
    omega
  · have hy : (index + 1) / 12 = index / 12 := by omega
    have hm : ((index + 1) % 12).toNat = (index % 12).toNat + 1 := by omega
    rw [hy, hm, daysBeforeMonth_succ _ (by omega)]
    push_cast
    ring

/-- Every month has at least one day. -/
theorem monthFirst_strictMono : StrictMono monthFirst := by
  apply strictMono_int_of_lt_succ
  intro index
  have := monthLength_pos (isLeapYear (index / 12)) ((index % 12).toNat + 1)
  rw [monthFirst_succ, monthDays]
  omega

/-- The first month of a year begins with it. -/
theorem monthFirst_twelve_mul (y : Int) : monthFirst (12 * y) = yearStart y := by
  have hy : 12 * y / 12 = y := by omega
  have hm : 12 * y % 12 = 0 := by omega
  rw [monthFirst_eq, hy, hm]
  show _ + ((daysBeforeMonth _ 1 : Nat) : Int) = _
  simp [daysBeforeMonth]

/-! ### The date of a day -/

theorem ofDay_year (day : Int) : (Date.ofDay day).year = yearOf day := rfl

/-- The day of the year of a day, counted from 0, is one of the days of its year. -/
theorem ordinal_bracket (day : Int) : 0 ≤ day - yearStart (yearOf day) ∧
    day - yearStart (yearOf day) < if isLeapYear (yearOf day) then 366 else 365 := by
  have h₁ := yearStart_yearOf_le day
  have h₂ := lt_yearStart_yearOf_succ day
  rw [yearStart_succ, yearLength] at h₂
  omega

theorem ofDay_month_bounds (day : Int) :
    1 ≤ (Date.ofDay day).month ∧ (Date.ofDay day).month ≤ 12 := by
  have h := monthOfOrdinal_bracket (isLeapYear (yearOf day)) (ordinal_bracket day).1
    (ordinal_bracket day).2
  exact ⟨h.1, h.2.1⟩

/-- The number of a month, divided by twelve, is its year. -/
theorem monthIndex_div (day : Int) : monthIndex day / 12 = yearOf day := by
  have h := ofDay_month_bounds day
  rw [monthIndex, ofDay_year]
  omega

/-- The number of a month, modulo twelve, is its place in the year. -/
theorem monthIndex_mod (day : Int) :
    (monthIndex day % 12).toNat + 1 = (Date.ofDay day).month := by
  have h := ofDay_month_bounds day
  rw [monthIndex]
  omega

/-- The first day of the month of a day is that of the month with its number. -/
theorem monthFirst_monthIndex (day : Int) : monthFirst (monthIndex day) = monthStart day := by
  rw [monthFirst, monthStart, monthIndex_div, monthIndex_mod]
  rfl

theorem toDay_ofDay (day : Int) : (Date.ofDay day).toDay = day := by
  have h := monthOfOrdinal_bracket (isLeapYear (yearOf day)) (ordinal_bracket day).1
    (ordinal_bracket day).2
  unfold Date.toDay Date.ofDay
  dsimp only
  omega

/-- The day of the month counts from the first day of the month. -/
theorem ofDay_day (day : Int) : ((Date.ofDay day).day : Int) = day - monthStart day + 1 := by
  have h := toDay_ofDay day
  have hstart : monthStart day = yearStart (Date.ofDay day).year +
      daysBeforeMonth (isLeapYear (Date.ofDay day).year) (Date.ofDay day).month := by
    simp [monthStart, Date.toDay]
  unfold Date.toDay at h
  omega

/-- The days of a month are those from its first one on, as many as the month is long. -/
theorem monthIndex_bracket (day : Int) :
    monthFirst (monthIndex day) ≤ day ∧ day < monthFirst (monthIndex day + 1) := by
  have h := monthOfOrdinal_bracket (isLeapYear (yearOf day)) (ordinal_bracket day).1
    (ordinal_bracket day).2
  have hmonth : (Date.ofDay day).month =
      monthOfOrdinal (isLeapYear (yearOf day)) (day - yearStart (yearOf day)) := rfl
  rw [monthFirst_succ, monthFirst_eq, monthDays, monthIndex_div, monthIndex_mod, hmonth]
  omega

/-- Less than 31 days of a month lie before one of its days, and no more than 31 days are left. -/
theorem monthIndex_near (day : Int) : day - 30 ≤ monthFirst (monthIndex day) ∧
    monthFirst (monthIndex day + 1) ≤ day + 31 := by
  have h := monthIndex_bracket day
  have hlen := monthLength_le (isLeapYear (monthIndex day / 12)) ((monthIndex day % 12).toNat + 1)
  rw [← monthDays] at hlen
  rw [monthFirst_succ] at h ⊢
  omega

/-- A month has begun by a day iff it is not after the month of the day. -/
theorem monthFirst_le_iff (index day : Int) : monthFirst index ≤ day ↔ index ≤ monthIndex day :=
  le_iff_of_bracket monthFirst_strictMono (monthIndex_bracket day).1 (monthIndex_bracket day).2
    index

/-- A day between the first days of two months in a row lies in the first of them. -/
theorem monthIndex_eq_of_bracket {index day : Int} (h₁ : monthFirst index ≤ day)
    (h₂ : day < monthFirst (index + 1)) : monthIndex day = index := by
  have h₃ := (monthFirst_le_iff index day).mp h₁
  have h₄ := mt (monthFirst_le_iff (index + 1) day).mpr (not_le.mpr h₂)
  omega

/-! ### Steps of months -/

/-- A step of `n` months leads to the same day of the month whose number is greater by `n`, or to
the last day of that month. -/
theorem addMonths?_eq (day n : Int) : addMonths? day n =
    if firstYear ≤ (monthIndex day + n) / 12 ∧ (monthIndex day + n) / 12 ≤ lastYear then
      some (monthFirst (monthIndex day + n) +
        (min (Date.ofDay day).day (monthDays (monthIndex day + n)) : Nat) - 1)
    else none := by
  have hindex : 12 * (Date.ofDay day).year + (((Date.ofDay day).month : Int) - 1) + n =
      monthIndex day + n := by
    rw [monthIndex]
    ring
  unfold addMonths?
  simp only [hindex, Bool.and_eq_true, decide_eq_true_eq]
  split_ifs with h
  · rw [monthFirst_eq, monthDays, Date.toDay]
  · rfl

theorem ofDay_day_pos (day : Int) : 1 ≤ (Date.ofDay day).day := by
  have h := ofDay_day day
  have hle := (monthIndex_bracket day).1
  rw [monthFirst_monthIndex] at hle
  omega

/-- A step of `n` months moves the number of the month by `n`. -/
theorem monthIndex_addMonths? {day n d : Int} (h : addMonths? day n = some d) :
    monthIndex d = monthIndex day + n := by
  rw [addMonths?_eq] at h
  split_ifs at h
  obtain rfl := Option.some.inj h
  have h₁ := ofDay_day_pos day
  have h₂ := monthLength_pos (isLeapYear ((monthIndex day + n) / 12))
    (((monthIndex day + n) % 12).toNat + 1)
  rw [← monthDays] at h₂
  -- the day that is reached is neither before its month nor past it
  apply monthIndex_eq_of_bracket
  · omega
  · rw [monthFirst_succ]
    omega

/-- A step of `n` months from the first day of a month leads to the first day of a month. -/
theorem addMonths?_monthFirst (index n : Int) : addMonths? (monthFirst index) n =
    if firstYear ≤ (index + n) / 12 ∧ (index + n) / 12 ≤ lastYear then
      some (monthFirst (index + n))
    else none := by
  have hindex : monthIndex (monthFirst index) = index :=
    monthIndex_eq_of_bracket le_rfl (monthFirst_strictMono (lt_add_one index))
  -- the day of the month is kept, for no month is too short for a first
  have hday : (Date.ofDay (monthFirst index)).day = 1 := by
    have h := ofDay_day (monthFirst index)
    rw [← monthFirst_monthIndex, hindex] at h
    omega
  have hlen := monthLength_pos (isLeapYear ((index + n) / 12)) (((index + n) % 12).toNat + 1)
  rw [← monthDays] at hlen
  rw [addMonths?_eq, hindex, hday, min_eq_left (by omega)]
  simp

/-! ### Spans of months -/

/-- So many months have at least 28 and at most 31 times as many days. -/
theorem monthFirst_add_bounds (index : Int) (n : Nat) :
    monthFirst index + 28 * n ≤ monthFirst (index + n) ∧
      monthFirst (index + n) ≤ monthFirst index + 31 * n := by
  -- month by month, each of 28 days at least and 31 at most
  induction n with
  | zero => simp
  | succ n ih =>
    have h₁ := monthLength_pos (isLeapYear ((index + n) / 12)) (((index + n) % 12).toNat + 1)
    have h₂ := monthLength_le (isLeapYear ((index + n) / 12)) (((index + n) % 12).toNat + 1)
    have hsucc := monthFirst_succ (index + n)
    rw [monthDays] at hsucc
    push_cast
    rw [← add_assoc, hsucc]
    omega

/-- A leap day moves the months of a year by one day at most. -/
theorem daysBeforeMonth_bounds (leap : Bool) {month : Nat} (h : month ≤ 12) :
    daysBeforeMonth false month ≤ daysBeforeMonth leap month ∧
      daysBeforeMonth leap month ≤ daysBeforeMonth false month + 1 := by
  have key : ∀ leap : Bool, ∀ month : Fin 13,
      daysBeforeMonth false month ≤ daysBeforeMonth leap month ∧
        daysBeforeMonth leap month ≤ daysBeforeMonth false month + 1 := by decide
  exact key leap ⟨month, by omega⟩

/-- Four years have 1461 days, but for leap days that one end or a century may lack. -/
theorem monthFirst_add_fourYears (index : Int) :
    monthFirst index + 1459 ≤ monthFirst (index + 48) ∧
      monthFirst (index + 48) ≤ monthFirst index + 1462 := by
  have hyear : (index + 48) / 12 = index / 12 + 4 := by omega
  have hmonth : (index + 48) % 12 = index % 12 := by omega
  have hle : (index % 12).toNat + 1 ≤ 12 := by omega
  have h₁ := daysBeforeMonth_bounds (isLeapYear (index / 12)) hle
  have h₂ := daysBeforeMonth_bounds (isLeapYear (index / 12 + 4)) hle
  rw [monthFirst_eq, monthFirst_eq, hyear, hmonth]
  -- four years have one leap day, or none around most centuries
  unfold yearStart
  omega

/-- Forty-nine months are longer than 1464 days. -/
theorem months_le_of_monthFirst_le {index : Int} {n : Nat}
    (h : monthFirst index ≤ monthFirst (index - n) + 1464) : n ≤ 48 := by
  by_contra hmany
  have hmono := monthFirst_strictMono.monotone (show index - n ≤ index - 49 by omega)
  -- four years and one month more
  have hfour := (monthFirst_add_fourYears (index - 49)).1
  have hone := (monthFirst_add_bounds (index - 49 + 48) 1).1
  rw [show index - 49 + 48 + ((1 : Nat) : Int) = index by omega] at hone
  omega

/-! ### The days of dates -/

/-- A day lies in the calendar iff its year does. -/
theorem inCalendar_iff_year (day : Int) :
    inCalendar day = true ↔ firstYear ≤ yearOf day ∧ yearOf day ≤ lastYear := by
  have h₁ := yearStart_le_iff firstYear day
  have h₂ := yearStart_le_iff (lastYear + 1) day
  rw [inCalendar, Bool.and_eq_true, decide_eq_true_eq, decide_eq_true_eq]
  omega

/-- The day of a date is counted from the first day of its month. -/
theorem toDay_eq (d : Date) (h₁ : 1 ≤ d.month) (h₂ : d.month ≤ 12) :
    d.toDay = monthFirst (12 * d.year + d.month - 1) + d.day - 1 := by
  have hyear : (12 * d.year + (d.month : Int) - 1) / 12 = d.year := by omega
  have hmonth : ((12 * d.year + (d.month : Int) - 1) % 12).toNat + 1 = d.month := by omega
  rw [monthFirst_eq, hyear, hmonth, Date.toDay]

/-- A date with a month of the year and a day of the month is the date of its day. -/
theorem ofDay_toDay {d : Date} (h₁ : 1 ≤ d.month) (h₂ : d.month ≤ 12) (h₃ : 1 ≤ d.day)
    (h₄ : d.day ≤ monthLength (isLeapYear d.year) d.month) : Date.ofDay d.toDay = d := by
  have hday := toDay_eq d h₁ h₂
  have hlength : monthDays (12 * d.year + d.month - 1) =
      monthLength (isLeapYear d.year) d.month := by
    rw [monthDays]
    congr 2 <;> omega
  -- the day lies between the first of its month and the first of the next one
  have hindex : monthIndex d.toDay = 12 * d.year + d.month - 1 := by
    apply monthIndex_eq_of_bracket
    · omega
    · rw [monthFirst_succ]
      omega
  have hyear := monthIndex_div d.toDay
  have hmonth := monthIndex_mod d.toDay
  have hfirst := ofDay_day d.toDay
  rw [← monthFirst_monthIndex] at hfirst
  rw [hindex] at hyear hmonth hfirst
  obtain ⟨year, month, day⟩ := d
  cases hdate : Date.ofDay (Date.toDay ⟨year, month, day⟩) with
  | mk year' month' day' =>
    have hyear' := ofDay_year (Date.toDay ⟨year, month, day⟩)
    rw [hdate] at hyear' hmonth hfirst
    dsimp only at *
    rw [Date.mk.injEq]
    omega

/-- A date is found iff it is the date of a day of the calendar. -/
theorem dayOfYmd?_eq_some_iff {year : Int} {month day : Nat} {n : Int} :
    dayOfYmd? year month day = some n ↔
      inCalendar n = true ∧ Date.ofDay n = ⟨year, month, day⟩ := by
  rw [dayOfYmd?]
  simp only [Bool.and_eq_true, decide_eq_true_eq]
  constructor
  · intro h
    split_ifs at h with hvalid
    obtain rfl := Option.some.inj h
    obtain ⟨⟨⟨⟨⟨hfirst, hlast⟩, h₁⟩, h₂⟩, h₃⟩, h₄⟩ := hvalid
    have hdate : Date.ofDay (Date.toDay ⟨year, month, day⟩) = ⟨year, month, day⟩ :=
      ofDay_toDay h₁ h₂ h₃ h₄
    refine ⟨?_, hdate⟩
    rw [inCalendar_iff_year, ← ofDay_year, hdate]
    exact ⟨hfirst, hlast⟩
  · rintro ⟨hcal, hdate⟩
    rw [inCalendar_iff_year, ← ofDay_year, hdate] at hcal
    have hmonth := ofDay_month_bounds n
    have hday := ofDay_day_pos n
    -- the day of the month is no more than its length, since the next month has not begun
    have hlength : (Date.ofDay n).day ≤ monthLength (isLeapYear year) month := by
      have hbracket := monthIndex_bracket n
      have hlen := congrArg (monthLength · (Date.ofDay n).month)
        (congrArg isLeapYear (monthIndex_div n))
      have hfirst := ofDay_day n
      rw [← monthFirst_monthIndex] at hfirst
      rw [monthFirst_succ, monthDays, monthIndex_div, monthIndex_mod, ← ofDay_year, hdate]
        at hbracket
      rw [hdate] at hfirst ⊢
      dsimp only at *
      omega
    have htoDay := toDay_ofDay n
    rw [hdate] at hmonth hday hlength htoDay
    rw [if_pos ⟨⟨⟨⟨⟨hcal.1, hcal.2⟩, hmonth.1⟩, hmonth.2⟩, hday⟩, hlength⟩, htoDay]

end SiteAnalytics.Calendar
