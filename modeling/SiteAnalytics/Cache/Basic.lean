import SiteAnalytics.Dict
import SiteAnalytics.Text.Wildcard

/-!
# Expiring cache

A cache maps keys to values for a limited time. An entry set at time `t` for a span `ttl` can be
seen at every time before `t + ttl`, and not at `t + ttl` itself. Times and spans are numbers of
milliseconds on a clock that never goes back.

Entries that have expired are removed when they are met, and all of them on every write and count.
When an entry is removed cannot be told from the answers.
-/

namespace SiteAnalytics

/-- An entry of a cache. -/
structure CacheEntry where
  value : String
  /-- The first time at which the entry cannot be seen. -/
  expires : Nat
  deriving DecidableEq, Repr

/-- Keys with their values and the times at which they expire. -/
structure Cache where
  entries : Dict CacheEntry

namespace Cache

/-- A cache without entries. -/
def empty : Cache := ⟨∅⟩

/-- The cache without the entries that have expired. -/
def sweep (c : Cache) (now : Nat) : Cache := ⟨c.entries.filter fun _ e => now < e.expires⟩

/-- The value of a key, and the cache without it if it has expired. -/
def get (c : Cache) (now : Nat) (key : String) : Option String × Cache :=
  match c.entries.get? key with
  | none => (none, c)
  | some e => if now < e.expires then (some e.value, c) else (none, ⟨c.entries.erase key⟩)

/-- The cache with a value for `key` that can be seen for the span `ttl`. -/
def set (c : Cache) (now : Nat) (key value : String) (ttl : Nat) : Cache :=
  ⟨(c.sweep now).entries.insert key ⟨value, now + ttl⟩⟩

/-- The number of keys that fit a wildcard pattern. -/
def count (c : Cache) (now : Nat) (pattern : String) : Nat × Cache :=
  let c := c.sweep now
  ((c.entries.filter fun key _ => Wildcard.fits pattern key).size, c)

end Cache

end SiteAnalytics
