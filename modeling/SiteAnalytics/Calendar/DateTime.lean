import SiteAnalytics.Calendar.Date

/-!
# Date-times

A `DateTime` is the reading of a clock: a day and a time of day, to the nanosecond. It says nothing
about a time zone; the same type serves for readings in UTC and on a wall. It is stored as the
number of seconds since the reading 1970-01-01 00:00:00 together with the nanoseconds within the
second, so that order and differences are those of numbers.

A leap second is written as a second that lasts two: its nanoseconds run on past `10 ^ 9`. Only
`DateTime.diff` and `DateTime.add?` have to know about it.
-/

namespace SiteAnalytics

/-- Nanoseconds of a second. -/
def nanosPerSecond : Nat := 1000000000

/-- Seconds of a day. -/
def secondsPerDay : Nat := 86400

/-- The reading of a clock. -/
structure DateTime where
  /-- Seconds since the reading 1970-01-01 00:00:00. -/
  second : Int
  /-- Nanoseconds within the second; `10 ^ 9` and more within a leap second. -/
  nano : Nat
  deriving DecidableEq, Repr

namespace DateTime

/-! ### Order -/

instance : LE DateTime :=
  ⟨fun a b => a.second < b.second ∨ (a.second = b.second ∧ a.nano ≤ b.nano)⟩

instance : LT DateTime :=
  ⟨fun a b => a.second < b.second ∨ (a.second = b.second ∧ a.nano < b.nano)⟩

instance (a b : DateTime) : Decidable (a ≤ b) :=
  inferInstanceAs (Decidable (a.second < b.second ∨ (a.second = b.second ∧ a.nano ≤ b.nano)))

instance (a b : DateTime) : Decidable (a < b) :=
  inferInstanceAs (Decidable (a.second < b.second ∨ (a.second = b.second ∧ a.nano < b.nano)))

/-- The earlier of two readings. -/
def earlier (a b : DateTime) : DateTime := if b < a then b else a

/-! ### Parts -/

/-- The number of the day. -/
def day (t : DateTime) : Int := t.second / secondsPerDay

/-- Seconds since midnight. -/
def secondOfDay (t : DateTime) : Nat := (t.second % secondsPerDay).toNat

/-- The date. -/
def date (t : DateTime) : Calendar.Date := Calendar.Date.ofDay t.day

/-- The hour, from 0 to 23. -/
def hour (t : DateTime) : Nat := t.secondOfDay / 3600

/-- The minute, from 0 to 59. -/
def minute (t : DateTime) : Nat := t.secondOfDay / 60 % 60

/-- The second as a clock shows it: 60 within a leap second. -/
def secondOfMinute (t : DateTime) : Nat := t.secondOfDay % 60 + t.nano / nanosPerSecond

/-- The reading lies within a leap second. -/
def inLeapSecond (t : DateTime) : Bool := nanosPerSecond ≤ t.nano

/-- The day of the reading is one of the calendar. -/
def inCalendar (t : DateTime) : Bool := Calendar.inCalendar t.day

/-! ### Building -/

/-- Whole seconds, without a fraction. -/
def ofSecond (second : Int) : DateTime := ⟨second, 0⟩

/-- Midnight of a day. -/
def ofDay (day : Int) : DateTime := ⟨day * secondsPerDay, 0⟩

/-- Midnight of the day of `t`. -/
def midnight (t : DateTime) : DateTime := ofDay t.day

/-- `t` without its fraction of a second. A leap second stays one. -/
def truncate (t : DateTime) : DateTime := { t with nano := t.nano - t.nano % nanosPerSecond }

/-- `t` if its day is one of the calendar. -/
def checked (t : DateTime) : Option DateTime := if t.inCalendar then some t else none

/-! ### Differences and sums -/

/-- Nanoseconds from `b` to `a`. A leap second counts when it lies wholly between the two times of
day. -/
def diff (a b : DateTime) : Int :=
  let leap : Int :=
    if b.secondOfDay < a.secondOfDay && b.inLeapSecond then 1
    else if a.secondOfDay < b.secondOfDay && a.inLeapSecond then -1
    else 0
  (a.second - b.second + leap) * nanosPerSecond + ((a.nano : Int) - b.nano)

/-- The reading with `nanos` nanoseconds since the start of its second, carried over. -/
def carried (second : Int) (nanos : Int) : DateTime :=
  ⟨second + nanos / nanosPerSecond, (nanos % nanosPerSecond).toNat⟩

/-- `delta` nanoseconds later, on the calendar or not. Within a leap second the clock stands for
the extra second: a step that ends inside it moves the fraction only. -/
def shift (t : DateTime) (delta : Int) : DateTime :=
  let seconds := delta.tdiv nanosPerSecond
  let fraction := delta.tmod nanosPerSecond
  if t.inLeapSecond then
    -- forwards out of the leap second, which then counts as the second it is written on
    if 0 < seconds || (0 < fraction && 2 * (nanosPerSecond : Int) - fraction ≤ t.nano) then
      carried t.second (t.nano - nanosPerSecond + delta)
    -- backwards out of it, and it counts as the second that follows
    else if seconds < 0 then carried (t.second + 1) (t.nano - nanosPerSecond + delta)
    else ⟨t.second, (t.nano + fraction).toNat⟩
  else carried t.second (t.nano + delta)

/-- `delta` nanoseconds later, if that is still in the calendar. -/
def add? (t : DateTime) (delta : Int) : Option DateTime := (t.shift delta).checked

/-- `n` seconds later, if that is still in the calendar. -/
def addSeconds? (t : DateTime) (n : Int) : Option DateTime := t.add? (n * nanosPerSecond)

/-- The same time of day on another day. -/
def onDay (t : DateTime) (day : Int) : DateTime :=
  ⟨day * secondsPerDay + t.second % secondsPerDay, t.nano⟩

/-- The same time `n` days later. -/
def addDays? (t : DateTime) (n : Int) : Option DateTime :=
  (Calendar.addDays? t.day n).map t.onDay

/-- The same time and day of the month `n` months later; a day past the end of the month becomes
its last one. -/
def addMonths? (t : DateTime) (n : Int) : Option DateTime :=
  (Calendar.addMonths? t.day n).map t.onDay

/-- The reading of a clock set `offset` seconds ahead, on the calendar or not. A leap second moves
along. -/
def setAhead (t : DateTime) (offset : Int) : DateTime := { t with second := t.second + offset }

/-! ### Spans of time -/

/-- The whole units of `seconds` seconds in a span of nanoseconds, rounded toward zero. -/
def wholeUnits (nanos : Int) (seconds : Nat) : Int :=
  nanos.tdiv ((seconds : Int) * nanosPerSecond)

/-- The whole days of a span of nanoseconds, rounded toward zero. -/
def wholeDays (nanos : Int) : Int := wholeUnits nanos secondsPerDay

end DateTime

end SiteAnalytics
