import SiteAnalytics.Window.Basic

/-!
# Chart axes

The points of a chart are the buckets from that of the first bound to that of the last. Each point
has two labels: one on the wall clock of the request, by which rows are matched, and one in UTC. A
label shows only as much of a date-time as the bucket determines.

The number of points is known before they are laid out, so the walk from bucket to bucket takes it
as its bound. It also ends at the last bucket of the calendar.
-/

namespace SiteAnalytics

/-- The pattern of the labels of a bucket. -/
def Bucket.labelPattern : Bucket → Pattern
  | .minute => Pattern.dateMinute ++ [.mark ':', .mark '0', .mark '0']
  | .hour =>
    Pattern.dateOnly ++
      [.space, .field .hour, .mark ':', .mark '0', .mark '0', .mark ':', .mark '0', .mark '0']
  | .day => Pattern.dateOnly
  | .month => [.field .year, .mark '-', .field .month]
  | .year => [.field .year]

/-- The label of the bucket that starts at `t`. -/
def Bucket.label (b : Bucket) (t : DateTime) : String := t.format b.labelPattern

/-- The points of a chart. -/
structure Axis where
  bucket : Bucket
  /-- The labels on the wall clock, by which rows are matched. -/
  labels : List String
  /-- The labels of the same points in UTC. -/
  utcLabels : List String
  deriving DecidableEq, Repr

namespace Axis

/-- At most `count` bucket starts from `cursor` on, none of them after `last`. -/
def pointsFrom (b : Bucket) (last cursor : DateTime) : Nat → List DateTime
  | 0 => []
  | count + 1 =>
    if last < cursor then []
    else
      cursor ::
        match b.next? cursor with
        | some next => pointsFrom b last next count
        | none => []

/-- The starts of the buckets from that of `start` to that of `stop`. -/
def points (b : Bucket) (start stop : DateTime) : List DateTime :=
  pointsFrom b (b.startOf stop) (b.startOf start) (b.countBetween start stop).toNat

/-- The label in UTC of the point at `t` on the wall clock. -/
def utcLabel? (b : Bucket) (zone : Zone) (t : DateTime) : Option String :=
  if zone.isUtc then some (b.label t) else (zone.localToUtc? t).map b.label

/-- The axis from `start` to `stop`, both on the wall clock of `zone`; `none` if a point lies
outside the calendar in UTC. -/
def generate? (b : Bucket) (start stop : DateTime) (zone : Zone) : Option Axis := do
  let points := points b start stop
  let utcLabels ← points.mapM (utcLabel? b zone)
  return ⟨b, points.map b.label, utcLabels⟩

/-- The axis of a window. -/
def ofWindow? (w : Window) : Option Axis := generate? w.bucket w.localStart w.localStop w.zone

/-- The number of points. -/
def size (a : Axis) : Nat := a.labels.length

/-- The first point with a label. -/
def position? (a : Axis) (label : String) : Option Nat := a.labels.findIdx? (· == label)

end Axis

end SiteAnalytics
