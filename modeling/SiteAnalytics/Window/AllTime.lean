import SiteAnalytics.Window.Basic

/-!
# All-time windows

The period `all` reaches back to the first event of a project. How far that is decides the bucket:
the finest that fits, but never a minute, is taken together with the number of buckets from the
first event to now, both ends counted.

Snapping the window to whole buckets can carry it into the next tier of the staircase. Each
candidate is therefore checked against its own snapped window, and a year is tried last.
-/

namespace SiteAnalytics.Bucket

/-- The buckets tried for a window from `first` to `now`. -/
def allTimeCandidates (first now : DateTime) : Except ValidationError (List Bucket) := do
  let fitting := (← allowed (dayDiff first now)).filter (· != minute)
  -- only minutes may fit a very short window
  return (if fitting.isEmpty then [hour] else fitting) ++ [year]

/-- The first candidate that fits its own snapped window, with its number of buckets. A candidate
whose last bucket has no end in the calendar is passed over; otherwise the error is that of the
last candidate. -/
def firstFitting (first now : DateTime) (lastError : ValidationError) :
    List Bucket → Except ValidationError (Bucket × Int)
  | [] => .error lastError
  | b :: rest =>
    match b.endOf? now with
    | none => firstFitting first now lastError rest
    | some stop =>
      match b.check (b.startOf first) stop with
      | .ok _ => .ok (b, b.countBetween first now)
      | .error e => firstFitting first now e rest

/-- The bucket and the number of buckets for all time since `first`, both times on the wall clock
of the request. A first event after now counts as now. -/
def allTime (first now : DateTime) : Except ValidationError (Bucket × Int) := do
  let first := first.earlier now
  firstFitting first now .rangeTooLarge (← allTimeCandidates first now)

end SiteAnalytics.Bucket
