import SiteAnalytics.Calendar.DateTime

/-!
# Time buckets

A chart groups events by minute, hour, day, month or year. Each of these cuts the calendar into
consecutive buckets: `Bucket.startOf` is the first instant of the bucket that holds a date-time,
`Bucket.next?` steps one unit ahead, and `Bucket.endOf?` is the last second before the next bucket
starts. The steps are those of the calendar, so months and years have their own lengths.
-/

namespace SiteAnalytics

/-- The unit by which events are grouped. -/
inductive Bucket
  | minute | hour | day | month | year
  deriving DecidableEq, Repr

namespace Bucket

/-! ### Names -/

/-- All buckets, finest first. -/
def all : List Bucket := [minute, hour, day, month, year]

/-- The name of a bucket in requests and answers. -/
def name : Bucket → String
  | minute => "minute"
  | hour => "hour"
  | day => "day"
  | month => "month"
  | year => "year"

/-- The bucket with a name. -/
def ofName? (s : String) : Option Bucket := all.find? fun b => b.name == s

/-! ### Snapping -/

/-- The start of the bucket that holds `t`. -/
def startOf (b : Bucket) (t : DateTime) : DateTime :=
  match b with
  | minute => .ofSecond (t.second - t.second % 60)
  | hour => .ofSecond (t.second - t.second % 3600)
  | day => t.midnight
  | month => .ofDay (Calendar.monthStart t.day)
  | year => .ofDay (Calendar.yearStart (Calendar.yearOf t.day))

/-- One unit later; `none` past the end of the calendar. -/
def next? (b : Bucket) (t : DateTime) : Option DateTime :=
  match b with
  | minute => t.addSeconds? 60
  | hour => t.addSeconds? 3600
  | day => t.addDays? 1
  | month => t.addMonths? 1
  | year => t.addMonths? 12

/-- The last second of the bucket that holds `t`; `none` for the last bucket of the calendar. -/
def endOf? (b : Bucket) (t : DateTime) : Option DateTime :=
  (b.next? (b.startOf t)).map fun next => .ofSecond (next.second - 1)

/-- The number of buckets touched by the times from `start` to `stop`, both ends counted. -/
def countBetween (b : Bucket) (start stop : DateTime) : Int :=
  let first := b.startOf start
  let last := b.startOf stop
  let span := last.diff first
  let months (t : DateTime) : Int := 12 * t.date.year + t.date.month
  1 + match b with
    | minute => DateTime.wholeUnits span 60
    | hour => DateTime.wholeUnits span 3600
    | day => DateTime.wholeDays span
    | month => months last - months first
    | year => last.date.year - first.date.year

end Bucket

end SiteAnalytics
