import SiteAnalytics.Cache.Basic

/-!
# Cache programs

What is done with a cache is written down as a program: a tree of single accesses, each of which
decides by its answer how to go on. A program says nothing about time or about other users of the
cache. `CacheProgram.run` makes all accesses at one time on a cache of one's own, while
`CacheProgram.step` makes the next one only, so that several programs can take turns.
-/

namespace SiteAnalytics

/-- Accesses to a cache with a result. -/
inductive CacheProgram (α : Type) where
  | done (a : α)
  /-- Looks a key up. -/
  | get (key : String) (next : Option String → CacheProgram α)
  /-- Sets a key for a span. -/
  | set (key value : String) (ttl : Nat) (next : CacheProgram α)
  /-- Counts the keys that fit a pattern. -/
  | count (pattern : String) (next : Nat → CacheProgram α)

namespace CacheProgram

variable {α β : Type}

/-- Goes on with another program after the first. -/
def bind : CacheProgram α → (α → CacheProgram β) → CacheProgram β
  | done a, f => f a
  | get key next, f => get key fun found => (next found).bind f
  | set key value ttl next, f => set key value ttl (next.bind f)
  | count pattern next, f => count pattern fun n => (next n).bind f

instance : Monad CacheProgram where
  pure := done
  bind := bind

/-- The value of a key. -/
def lookup (key : String) : CacheProgram (Option String) := get key done

/-- Sets a key for a span. -/
def store (key value : String) (ttl : Nat) : CacheProgram Unit := set key value ttl (done ())

/-- The number of keys that fit a pattern. -/
def countKeys (pattern : String) : CacheProgram Nat := count pattern done

/-- Makes the next access at time `now`. -/
def step (now : Nat) (c : Cache) : CacheProgram α → CacheProgram α × Cache
  | done a => (done a, c)
  | get key next =>
    let (found, c) := c.get now key
    (next found, c)
  | set key value ttl next => (next, c.set now key value ttl)
  | count pattern next =>
    let (n, c) := c.count now pattern
    (next n, c)

/-- Makes all accesses at time `now`. -/
def run (now : Nat) (c : Cache) : CacheProgram α → α × Cache
  | done a => (a, c)
  | get key next =>
    let (found, c) := c.get now key
    (next found).run now c
  | set key value ttl next => next.run now (c.set now key value ttl)
  | count pattern next =>
    let (n, c) := c.count now pattern
    (next n).run now c

end CacheProgram

/-- A cache that can be reached or not. -/
inductive CacheService
  | up (c : Cache)
  /-- Every access fails for this reason. -/
  | down (reason : String)

/-- Runs a program on a cache service. Without any access nothing can fail. -/
def CacheService.run {α : Type} (s : CacheService) (now : Nat) (p : CacheProgram α) :
    Except String α × CacheService :=
  match s with
  | up c =>
    let (a, c) := p.run now c
    (.ok a, up c)
  | down reason =>
    match p with
    | .done a => (.ok a, s)
    | _ => (.error reason, s)

end SiteAnalytics
