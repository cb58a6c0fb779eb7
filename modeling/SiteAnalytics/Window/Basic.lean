import SiteAnalytics.Json.Value
import SiteAnalytics.Period
import SiteAnalytics.Zone.Basic

/-!
# Time windows

A `Timeframe` is what a request says about its window: an explicit pair of dates, or a period
relative to now, together with a zone and perhaps a bucket. `Timeframe.resolve` turns it into a
`Window`: bounds on the wall clock of the zone and in UTC, paired with the bucket of the chart.

There are two paths.

* An explicit pair is taken as UTC and snapped outwards to whole buckets. The bucket must fit the
  pair as given. Two equal dates stand for their whole day on the wall clock.
* A period is laid out on the wall clock, snapped outwards to whole buckets, and taken to UTC. The
  bucket must fit the window that results. A window that ends within an hour from now ends at the
  true instant, because a repeated hour of the wall clock does not tell which pass is meant.
-/

namespace SiteAnalytics

/-- What a request says about its window. -/
structure Timeframe where
  start : Option String
  stop : Option String
  period : Option String
  timezone : Option String
  bucket : Option Bucket
  /-- For the period `all`: the number of buckets from the first event to now. -/
  allTimeCount : Option Int
  deriving DecidableEq, Repr

/-- A resolved window with the bucket it is snapped to. -/
structure Window where
  localStart : DateTime
  localStop : DateTime
  utcStart : DateTime
  utcStop : DateTime
  bucket : Bucket
  zone : Zone
  deriving DecidableEq, Repr

namespace Window

/-- The start of the window, as the column store reads it. -/
def startText (w : Window) : String := w.utcStart.format Pattern.dateTime

/-- The end of the window, as the column store reads it. -/
def stopText (w : Window) : String := w.utcStop.format Pattern.dateTime

/-- The window as JSON. -/
def toJson (w : Window) : Json :=
  .ofMembers
    [("fromLocal", .string w.localStart.text), ("toLocal", .string w.localStop.text),
      ("fromUTC", .string w.utcStart.text), ("toUTC", .string w.utcStop.text),
      ("timeBucket", .string w.bucket.name), ("timezone", .string w.zone.name)]

/-- The window of the same length that ends one second before this one starts; `none` if it would
begin before the calendar does. -/
def previous? (w : Window) : Option (DateTime × DateTime) := do
  let stop ← w.utcStart.addSeconds? (-1)
  let start ← stop.add? (-(w.utcStop.diff w.utcStart))
  return (start, stop)

end Window

namespace Timeframe

/-! ### Failures -/

/-- A value that is missing because the calendar ends. -/
def inCalendar {α : Type} : Option α → Except WindowError α
  | some a => .ok a
  | none => .error .outOfCalendar

/-- A value whose lack is a fault of the request. -/
def orInvalid {α : Type} (cause : ValidationError) : Option α → Except WindowError α
  | some a => .ok a
  | none => .error (.invalid cause)

/-- A check on the request. -/
def checked {α : Type} : Except ValidationError α → Except WindowError α
  | .ok a => .ok a
  | .error cause => .error (.invalid cause)

/-! ### Explicit pairs -/

/-- The whole day of `day` on the wall clock. -/
def resolveDay (zone : Zone) (bucket : Bucket) (day : DateTime) : Except WindowError Window := do
  let localStart := day.midnight
  let localStop ← orInvalid (.invalidDate .stop) (Bucket.day.endOf? localStart)
  let utcStart ← inCalendar (zone.localToUtc? localStart)
  let utcStop ← inCalendar (zone.localToUtc? localStop)
  return { localStart, localStop, utcStart, utcStop, bucket, zone }

/-- The whole buckets from `start` to `stop`, both in UTC. -/
def resolvePair (zone : Zone) (bucket : Bucket) (start stop : DateTime) :
    Except WindowError Window := do
  let utcStart := bucket.startOf start
  let utcStop ← orInvalid (.invalidDate .stop) (bucket.endOf? stop)
  let localStart ← inCalendar (zone.utcToLocal? utcStart)
  let localStop ← inCalendar (zone.utcToLocal? utcStop)
  return { localStart, localStop, utcStart, utcStop, bucket, zone }

/-- The window of an explicit pair of dates. -/
def resolveExplicit (zone : Zone) (bucket : Option Bucket) (start stop : String) :
    Except WindowError Window := do
  let start ← orInvalid (.invalidDate .start) (DateInput.read? start)
  let stop ← orInvalid (.invalidDate .stop) (DateInput.read? stop)
  if stop < start then throw (.invalid .invertedRange)
  let bucket ←
    match bucket with
    | some b => do
      checked (b.check start stop)
      pure b
    | none => checked (Bucket.finest start stop)
  if start = stop then resolveDay zone bucket start else resolvePair zone bucket start stop

/-! ### Periods -/

/-- The bucket of a period: the one asked for, otherwise the default. All of a project without
events, or with one bucket of them, is charted by hour. -/
def bucketFor (bucket : Option Bucket) (period : Period) (count : Option Int) (now : DateTime) :
    Bucket :=
  match bucket with
  | some b => b
  | none => if period = .all && count.all (· ≤ 1) then .hour else period.defaultBucket now

/-- The window of buckets from that of `start` to that of `now`. -/
def wholeBuckets (bucket : Bucket) (start : Option DateTime) (now : DateTime) :
    Except WindowError (DateTime × DateTime) := do
  let start ← orInvalid .rangeTooLarge start
  let stop ← orInvalid .rangeTooLarge (bucket.endOf? now)
  return (bucket.startOf start, stop)

/-- The bounds of a period on the wall clock, where it is `now`. -/
def localBounds (period : Period) (bucket : Bucket) (count : Option Int) (now : DateTime) :
    Except WindowError (DateTime × DateTime) :=
  match period with
  | .today => .ok (now.midnight, now)
  | .yesterday => do
    let day ← orInvalid .rangeTooLarge (now.addDays? (-1))
    let stop ← orInvalid .rangeTooLarge (Bucket.day.endOf? day)
    return (day.midnight, stop)
  | .all =>
    match count with
    | some n =>
      if 1 < n then
        let units := (n - 1).toNat
        if units ≤ Numeral.maxU32 then
          wholeBuckets bucket ((PeriodUnit.ofBucket bucket).before? now units) now
        else .error (.invalid .rangeTooLarge)
      else lastDay
    | none => lastDay
  | .relative amount unit =>
    -- the bucket of now is one of those asked for, though a single one reaches back by a unit
    let back := if amount = 1 then amount else amount - 1
    wholeBuckets bucket (unit.before? now back) now
where
  /-- The twenty-four hours before now. -/
  lastDay : Except WindowError (DateTime × DateTime) := do
    return (← inCalendar (now.addSeconds? (-86400)), now)

/-- The instant that stands for a reading of the zone's clock. -/
def toUtc (zone : Zone) (wall : DateTime) : Except WindowError DateTime :=
  if zone.isUtc then .ok wall else inCalendar (zone.localToUtc? wall)

/-- The window of a period. -/
def resolvePeriod (zone : Zone) (bucket : Option Bucket) (count : Option Int) (period : Period)
    (now : DateTime) : Except WindowError Window := do
  let nowUtc := now.truncate
  let nowLocal ← if zone.isUtc then pure nowUtc else inCalendar (zone.utcToLocal? nowUtc)
  let bucket := bucketFor bucket period count nowLocal
  let (localStart, localStop) ← localBounds period bucket count nowLocal
  -- close to now the true instant is known, and the wall clock need not be asked
  let ahead := localStop.diff nowLocal
  let utcStop ←
    if 0 ≤ ahead && ahead < 3600 * (nanosPerSecond : Int) then inCalendar (nowUtc.add? ahead)
    else toUtc zone localStop
  let utcStart ← toUtc zone localStart
  checked (bucket.check utcStart utcStop)
  return { localStart, localStop, utcStart, utcStop, bucket, zone }

/-! ### Resolution -/

/-- The window of a timeframe at the instant `now`. An explicit pair takes precedence over a
period. -/
def resolve (q : Timeframe) (now : DateTime) (zones : ZoneSource := .listed) :
    Except WindowError Window :=
  let zone := Zone.parse q.timezone zones
  match q.start, q.stop with
  | some start, some stop => resolveExplicit zone q.bucket start stop
  | _, _ =>
    match q.period with
    | none => .error (.invalid .missingTimeframe)
    | some raw => do
      let period ← checked (Period.parse raw)
      resolvePeriod zone q.bucket q.allTimeCount period now

end Timeframe

end SiteAnalytics
