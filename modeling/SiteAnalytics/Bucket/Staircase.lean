import SiteAnalytics.Error
import SiteAnalytics.Text.Blank

/-!
# Which buckets fit a range

A range of a given number of whole days may be cut only into some buckets: fine ones for short
ranges, coarse ones for long ones. The rule is a staircase of tiers, each with the largest number
of days it covers and its buckets, finest first. Past the last tier no bucket fits.
-/

namespace SiteAnalytics.Bucket

/-- Reads the name of a bucket, blanks around it aside. -/
def parse (raw : String) : Except ValidationError Bucket :=
  let name := Text.trim raw
  match ofName? name with
  | some b => .ok b
  | none => .error (.invalidTimeBucket name)

/-- The tiers: the largest number of days each covers, with the buckets that fit, finest first. -/
def staircase : List (Int × List Bucket) :=
  [(0, [minute, hour]),
    (7, [hour, day, month]),
    (28, [day, month]),
    (366, [month]),
    (732, [month]),
    (1464, [month, year]),
    (99999, [year])]

/-- The whole days between two times, rounded toward zero. -/
def dayDiff (start stop : DateTime) : Int := DateTime.wholeDays (stop.diff start)

/-- The buckets that fit a range of `days` days: those of the first tier that covers it. -/
def allowed (days : Int) : Except ValidationError (List Bucket) :=
  match staircase.find? fun tier => days ≤ tier.1 with
  | some tier => .ok tier.2
  | none => .error .rangeTooLarge

/-- Checks that a bucket fits a range. -/
def check (b : Bucket) (start stop : DateTime) : Except ValidationError Unit := do
  let days := dayDiff start stop
  let fitting ← allowed days
  if fitting.contains b then .ok () else .error (.bucketNotAllowed b days)

/-- The finest bucket that fits a range. -/
def finest (start stop : DateTime) : Except ValidationError Bucket := do
  match ← allowed (dayDiff start stop) with
  | b :: _ => .ok b
  | [] => .error .rangeTooLarge

end SiteAnalytics.Bucket
