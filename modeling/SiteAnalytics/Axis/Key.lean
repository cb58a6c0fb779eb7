import SiteAnalytics.Bucket.Basic
import SiteAnalytics.Json.Decode
import SiteAnalytics.Text.Numeral

/-!
# Bucket keys

The column store groups rows by calendar fields: the year always, and as many finer fields as the
bucket has. A `BucketKey` holds those of one row, and `BucketKey.label` writes them in the form of
the axis label of that bucket. A field counts only if all coarser ones are there.
-/

namespace SiteAnalytics

/-- The calendar fields by which a row is grouped. -/
structure BucketKey where
  year : Int
  month : Option Nat
  day : Option Nat
  hour : Option Nat
  minute : Option Nat
  deriving DecidableEq, Repr

namespace BucketKey

/-! ### Reading -/

/-- The fields of a key. -/
def fields : List String := ["year", "month", "day", "hour", "minute"]

/-- Reads a key. Only the year must be there. -/
def ofJson? (j : Json) : Option BucketKey := do
  let field ← j.record? fields
  let part (name : String) : Option (Option Nat) :=
    (field name).defaulted (Json.option? Json.nat32?) none
  let year ← (field "year").required Json.int32?
  return ⟨year, ← part "month", ← part "day", ← part "hour", ← part "minute"⟩

/-! ### Labels -/

/-- The fields of a key that are there without a gap, year first, as text. -/
def labelChars (k : BucketKey) : List Char :=
  let year := Numeral.paddedInt 4 k.year
  let two := Numeral.padded 2
  match k.month, k.day, k.hour, k.minute with
  | some month, some day, some hour, some minute =>
    year ++ '-' :: two month ++ '-' :: two day ++ ' ' :: two hour ++ ':' :: two minute ++
      ":00".toList
  | some month, some day, some hour, none =>
    year ++ '-' :: two month ++ '-' :: two day ++ ' ' :: two hour ++ ":00:00".toList
  | some month, some day, none, _ => year ++ '-' :: two month ++ '-' :: two day
  | some month, none, _, _ => year ++ '-' :: two month
  | none, _, _, _ => year

/-- The label of the bucket with this key. -/
def label (k : BucketKey) : String := String.ofList k.labelChars

/-- The key of the bucket that holds `t`. -/
def ofDateTime (b : Bucket) (t : DateTime) : BucketKey :=
  let date := t.date
  match b with
  | .year => ⟨date.year, none, none, none, none⟩
  | .month => ⟨date.year, some date.month, none, none, none⟩
  | .day => ⟨date.year, some date.month, some date.day, none, none⟩
  | .hour => ⟨date.year, some date.month, some date.day, some t.hour, none⟩
  | .minute => ⟨date.year, some date.month, some date.day, some t.hour, some t.minute⟩

end BucketKey

end SiteAnalytics
