import SiteAnalytics.Axis.Basic
import SiteAnalytics.Axis.Key
import SiteAnalytics.Dict

/-!
# Series over an axis

A `SeriesSet` holds named series with one slot for every point of an axis. Slots start out with
a zero. `put` writes the slot of a row's bucket and drops rows whose bucket is not on the
axis; `carryForward` turns sparse running totals into dense ones.

A slot knows beside the value it shows whether a row was put there. Filling a gap changes only what
is shown, so the gap stays one, and an earlier filling never feeds a later one.
-/

namespace SiteAnalytics

/-- One point of a series. -/
structure Slot (α : Type) where
  /-- The value the series shows here. -/
  shown : α
  /-- A row was put here. -/
  written : Bool
  deriving DecidableEq, Repr

/-- Named series over an axis. -/
structure SeriesSet (α : Type) where
  axis : Axis
  /-- The value of a slot without rows. -/
  zero : α
  series : Dict (List (Slot α))

namespace SeriesSet

variable {α : Type}

/-- No series yet. -/
def ofAxis (a : Axis) (zero : α) : SeriesSet α := ⟨a, zero, ∅⟩

/-- A series without rows. -/
def blank (s : SeriesSet α) : List (Slot α) := List.replicate s.axis.size ⟨s.zero, false⟩

/-- The slots of a series, which is created when it is not there. -/
def slots (s : SeriesSet α) (name : String) : List (Slot α) :=
  (s.series.get? name).getD s.blank

/-- The set with the series `name`, without rows unless it is there already. -/
def withSeries (s : SeriesSet α) (name : String) : SeriesSet α :=
  { s with series := s.series.insert name (s.slots name) }

/-- The set with all the series `names`. -/
def withAll (s : SeriesSet α) (names : List String) : SeriesSet α :=
  names.foldl withSeries s

/-- Writes `value` at the bucket `key` of the series `name`. Gives the new set, and whether the
bucket is on the axis; if it is not, nothing changes. -/
def put (s : SeriesSet α) (key : BucketKey) (name : String) (value : α) :
    SeriesSet α × Bool :=
  match s.axis.position? key.label with
  | some i =>
    ({ s with series := s.series.insert name ((s.slots name).set i ⟨value, true⟩) }, true)
  | none => (s, false)

/-- Shows, at every slot without a row, the value of the last slot before it that has one; `last`
is that value so far. Slots before the first row stay as they are. -/
def fill (last : Option α) : List (Slot α) → List (Slot α)
  | [] => []
  | slot :: rest =>
    if slot.written then slot :: fill (some slot.shown) rest
    else { slot with shown := last.getD slot.shown } :: fill last rest

/-- Fills the gaps of the series in `names`, or of all of them. -/
def carryForward (s : SeriesSet α) (names : Option (List String)) : SeriesSet α :=
  { s with
    series := s.series.mapValues fun name slots =>
      if names.all (·.contains name) then fill none slots else slots }

/-- The values of every series. -/
def values (s : SeriesSet α) : Dict (List α) :=
  s.series.mapValues fun _ slots => slots.map Slot.shown

end SeriesSet

end SiteAnalytics
