import SiteAnalytics.Text.Blank
import SiteAnalytics.Zone.Listed

/-!
# Time zones

A `Zone` is a named wall clock. Requests name their zone by text. The clock of the name is that of a
`ZoneSource`, and a name that is not known there falls back to `Etc/GMT`, so that there is always a
zone to work in. Names are case sensitive, and an alias keeps its own name.

Zones that carry one of the names of UTC are marked, and no source is asked for them: their wall
clock shows UTC, so local and UTC readings need no conversion.
-/

namespace SiteAnalytics

/-- A named wall clock. -/
structure Zone where
  name : String
  clock : Clock
  /-- The zone is UTC under one of its names. -/
  isUtc : Bool
  deriving DecidableEq, Repr

namespace Zone

/-- The names of UTC. -/
def utcNames : List String :=
  ["Etc/GMT", "Etc/GMT0", "Etc/GMT+0", "Etc/GMT-0", "Etc/UTC", "Etc/UCT", "Etc/Universal",
    "Etc/Zulu", "Etc/Greenwich", "GMT", "GMT0", "GMT+0", "GMT-0", "UTC", "UCT", "Universal",
    "Zulu", "Greenwich"]

/-- The zone that stands in for an unknown one. -/
def fallback : Zone := ⟨"Etc/GMT", .constant 0, true⟩

/-- The zone with a name, if it is known. -/
def named? (zones : ZoneSource) (name : String) : Option Zone :=
  if utcNames.contains name then some ⟨name, .constant 0, true⟩
  else (zones.clock? name).map fun clock => ⟨name, clock, false⟩

/-- The zone a request names, blanks around the name aside; the fallback if it names none that is
known. -/
def parse (raw : Option String) (zones : ZoneSource := .listed) : Zone :=
  match raw.bind Text.trimmed? with
  | none => fallback
  | some name => (named? zones name).getD fallback

/-- The reading of the zone's clock at an instant. -/
def utcToLocal? (z : Zone) (utc : DateTime) : Option DateTime := z.clock.utcToLocal? utc

/-- The instant that stands for a reading of the zone's clock. -/
def localToUtc? (z : Zone) (wall : DateTime) : Option DateTime := z.clock.localToUtc? wall

end Zone

end SiteAnalytics
