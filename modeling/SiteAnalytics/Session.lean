import SiteAnalytics.Cache.Program
import SiteAnalytics.Calendar.DateTime
import SiteAnalytics.Config
import SiteAnalytics.Digest.Sha256
import SiteAnalytics.Number.Count
import SiteAnalytics.Text.Bytes

/-!
# Sessions

Visitors are told apart by a digest of project, address and browser. It is salted, and the salt is
replaced from time to time, so that nobody can be followed for long. The cache holds all the rest:

* `salt`: the salt in use;
* `ses:<id>`: the visitor was seen, so is not new;
* `hb:<pid>:<id>`: the visitor is live;
* `sd:<pid>:<id>`: the second at which the session started. It is set anew on every sign of life, so
  that a session ends when none comes for a while.
-/

namespace SiteAnalytics.Session

/-! ### Identity -/

/-- The id of a visitor: half of the digest, in hexadecimal. -/
def hash (pid address agent salt : String) : String :=
  let message :=
    Text.bytes salt ++ Text.bytes pid ++ Text.bytes address ++ Text.bytes agent
  Text.hex ((Sha256.digest message).take 16)

/-- The salt in use. If there is none, `fresh` becomes it. -/
def salt (fresh : String) (ttl : Nat) : CacheProgram String := do
  match ← CacheProgram.lookup "salt" with
  | some salt => return salt
  | none => do
    CacheProgram.store "salt" fresh ttl
    return fresh

/-- Whether the visitor is new. From now on it is not. -/
def firstSeen (hash : String) (ttl : Nat) : CacheProgram Bool := do
  let key := "ses:" ++ hash
  match ← CacheProgram.lookup key with
  | some _ => return false
  | none => do
    CacheProgram.store key "1" ttl
    return true

/-! ### Presence -/

/-- The key of a visitor who is live. -/
def heartbeatKey (pid id : String) : String := "hb:" ++ pid ++ ":" ++ id

/-- The key of the start of a session. -/
def startKey (pid id : String) : String := "sd:" ++ pid ++ ":" ++ id

/-- Marks a visitor as live. -/
def heartbeat (pid id : String) (ttl : Nat) : CacheProgram Unit :=
  CacheProgram.store (heartbeatKey pid id) "1" ttl

/-- The number of live visitors of a project. -/
def live (pid : String) : CacheProgram Nat := CacheProgram.countKeys (heartbeatKey pid "*")

/-- The start that the cache holds for a session at the second `now`. Text that is no number, or a
start in the future, begins the session anew. -/
def startAt (found : Option String) (now : Int) : Int :=
  ((found.bind fun raw => Numeral.readInt64? raw.toList).filter (· ≤ now)).getD now

/-- The seconds since the session started, which it does now if it was over. -/
def duration (pid id : String) (now : DateTime) (ttl : Nat) : CacheProgram Nat := do
  let key := startKey pid id
  let start := startAt (← CacheProgram.lookup key) now.second
  CacheProgram.store key (String.ofList (Numeral.intChars start)) ttl
  return (Count.sub now.second start).toNat

/-! ### Visits -/

/-- What is known about a visit. -/
structure Visit where
  /-- The id of the visitor. -/
  id : String
  /-- The visitor is new. -/
  isNew : Bool
  deriving DecidableEq, Repr

/-- A number of seconds as a span of the cache. -/
def span (seconds : Nat) : Nat := 1000 * seconds

/-- Records a visit at the time `now`. If a salt is needed, it is `fresh`. -/
def track (config : Config) (fresh pid address agent : String) (now : DateTime) :
    CacheProgram Visit := do
  let salt ← salt fresh (span config.saltSpan)
  let id := hash pid address agent salt
  let isNew ← firstSeen id (span config.uniqueSpan)
  let _ ← duration pid id now (span config.sessionSpan)
  return ⟨id, isNew⟩

/-- Records that a visitor is still there. Gives the seconds since the session started. -/
def beat (config : Config) (pid id : String) (now : DateTime) : CacheProgram Nat := do
  heartbeat pid id (span config.heartbeatSpan)
  duration pid id now (span config.sessionSpan)

end SiteAnalytics.Session
