import SiteAnalytics.Bucket.Staircase
import SiteAnalytics.Calendar.Timestamp

/-!
# Periods

A period names a window relative to now: `today`, `yesterday`, `all`, or a number of hours, days,
weeks, months or years such as `7d`. The unit is the last character, upper and lower case apart
(`M` is a month), and the number is a positive 32-bit word with at most one `+` in front.

Each period has a default bucket: a fixed one for the usual periods, otherwise the finest that fits
the span back from now.
-/

namespace SiteAnalytics

/-- The unit of a relative period. -/
inductive PeriodUnit
  | hour | day | week | month | year
  deriving DecidableEq, Repr

namespace PeriodUnit

/-- The unit with a letter. -/
def ofLetter? : Char → Option PeriodUnit
  | 'h' => some hour
  | 'd' => some day
  | 'w' => some week
  | 'M' => some month
  | 'y' => some year
  | _ => none

/-- The name of a unit. -/
def name : PeriodUnit → String
  | hour => "hour"
  | day => "day"
  | week => "week"
  | month => "month"
  | year => "year"

/-- `amount` units before `t`; `none` before the start of the calendar. -/
def before? (unit : PeriodUnit) (t : DateTime) (amount : Nat) : Option DateTime :=
  match unit with
  | hour => t.addSeconds? (-(3600 * amount : Nat))
  | day => t.addDays? (-(amount : Int))
  | week => t.addDays? (-(7 * amount : Nat))
  | month => t.addMonths? (-(amount : Int))
  | year => t.addMonths? (-(12 * amount : Nat))

/-- The unit in which the buckets of a chart are counted back. Minutes are counted in hours. -/
def ofBucket : Bucket → PeriodUnit
  | .minute | .hour => hour
  | .day => day
  | .month => month
  | .year => year

end PeriodUnit

/-- A window relative to now. -/
inductive Period
  | today
  | yesterday
  /-- Everything since the first event. -/
  | all
  | relative (amount : Nat) (unit : PeriodUnit)
  deriving DecidableEq, Repr

namespace Period

/-! ### Reading -/

/-- Reads a trimmed period. -/
def ofChars? (cs : List Char) : Option Period :=
  if cs = "today".toList then some today
  else if cs = "yesterday".toList then some yesterday
  else if cs = "all".toList then some all
  else
    match cs.getLast? with
    | none => none
    | some letter =>
      match PeriodUnit.ofLetter? letter, Numeral.readNat Numeral.maxU32 cs.dropLast with
      | some unit, .ok amount => if amount = 0 then none else some (relative amount unit)
      | _, _ => none

/-- Reads a period, blanks around it aside. -/
def parse (raw : String) : Except ValidationError Period :=
  match ofChars? (Text.trimChars raw.toList) with
  | some period => .ok period
  | none => .error (.invalidPeriod raw)

/-! ### Default buckets -/

/-- The default bucket of a period. A span that leaves the calendar or fits no tier is charted by
year. -/
def defaultBucket (p : Period) (now : DateTime) : Bucket :=
  match p with
  | relative 1 .hour => .minute
  | today | yesterday => .hour
  | relative 1 .day | relative 7 .day => .hour
  | relative 4 .week => .day
  | relative 3 .month | relative 12 .month | relative 24 .month => .month
  | relative amount unit =>
    match unit.before? now amount with
    | none => .year
    | some start =>
      match Bucket.finest start now with
      | .ok b => b
      | .error _ => .year
  | all => .year

/-- The finest bucket a request can be charted by: that of the explicit range if both ends are
given, otherwise that of the period, otherwise a year. -/
def lowestBucket (period start stop : Option String) (now : DateTime) :
    Except ValidationError Bucket :=
  match start, stop with
  | some start, some stop => do
    let start ← (DateInput.read? start).elim (.error (.invalidDate .start)) .ok
    let stop ← (DateInput.read? stop).elim (.error (.invalidDate .stop)) .ok
    Bucket.finest start stop
  | _, _ =>
    match period with
    | some raw => do return (← parse raw).defaultBucket now
    | none => .ok .year

end Period

end SiteAnalytics
