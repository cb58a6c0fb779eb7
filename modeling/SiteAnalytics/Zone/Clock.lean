import SiteAnalytics.Calendar.DateTime

/-!
# Wall clocks

A `Clock` gives the UTC offset of a place at every instant: one offset from the beginning of time
and a list of changes. `Clock.utcToLocal?` reads the wall clock at an instant. The way back is not
a function: in a repeated hour a wall clock shows the same reading at two instants, and a skipped
hour is never shown. `Clock.instantsAt` lists the instants of a reading in order, and
`Clock.localToUtc?` picks one: the earlier one of a repeated reading, and for a skipped reading the
instant at which the wall clock shows the reading an hour later.

Both directions have no result when they would leave the calendar.
-/

namespace SiteAnalytics

/-- The UTC offsets of a place over time. -/
structure Clock where
  /-- The offset, in seconds, before the first change. -/
  first : Int
  /-- The instants at which the offset changes, in order, each with the offset from then on. -/
  changes : List (Int × Int)
  deriving DecidableEq, Repr

namespace Clock

/-- The clock that always shows UTC plus `offset`. -/
def constant (offset : Int) : Clock := ⟨offset, []⟩

/-! ### Instants to readings -/

/-- The last offset of `changes` that is in force at the instant, or `current` if none is. -/
def offsetFrom (current : Int) (instant : Int) : List (Int × Int) → Int
  | [] => current
  | (start, offset) :: rest =>
    if start ≤ instant then offsetFrom offset instant rest else current

/-- The UTC offset at an instant, in seconds. -/
def offsetAt (c : Clock) (instant : Int) : Int := offsetFrom c.first instant c.changes

/-- The reading of the wall clock at an instant. -/
def utcToLocal? (c : Clock) (utc : DateTime) : Option DateTime :=
  (utc.setAhead (c.offsetAt utc.second)).checked

/-! ### Readings to instants -/

/-- The instants at which the clock shows a reading, in order, among those at or after `start`
while `offset` and then `changes` are in force. -/
def instantsFrom (start : Option Int) (offset : Int) (reading : Int) :
    List (Int × Int) → List Int
  | [] => if start.all (· ≤ reading - offset) then [reading - offset] else []
  | (next, offset') :: rest =>
    let here :=
      if start.all (· ≤ reading - offset) && reading - offset < next then [reading - offset]
      else []
    here ++ instantsFrom (some next) offset' reading rest

/-- The instants, in order, at which the wall clock shows a reading. -/
def instantsAt (c : Clock) (reading : Int) : List Int :=
  instantsFrom none c.first reading c.changes

/-- The first instant of the calendar at which the wall clock shows a reading. -/
def firstInstant? (c : Clock) (wall : DateTime) : Option DateTime :=
  match (c.instantsAt wall.second).map fun second => { wall with second } with
  | [] => none
  | t :: _ => t.checked

/-- The instant that stands for a reading: the first at which it is shown; for a reading that is
skipped, the first that shows it an hour later; for one that is skipped even then, the reading
itself. -/
def localToUtc? (c : Clock) (wall : DateTime) : Option DateTime :=
  match c.firstInstant? wall with
  | some t => some t
  | none =>
    match wall.addSeconds? 3600 with
    | none => none
    | some later => some ((c.firstInstant? later).getD wall)

end Clock

end SiteAnalytics
