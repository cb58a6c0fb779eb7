import SiteAnalytics.Proofs.Cache.Mark
import SiteAnalytics.Session

/-!
# Calls on sessions

What can be asked of the sessions, as programs on the cache (`SessionCall.program`), and the keys
that they use.  Keys of different kinds are different, whatever ids they are made of, because their
first two characters are (`keyKind`).  Hence a program keeps all keys but its own.
-/

namespace SiteAnalytics.Session

/-! ### Keys -/

/-- The key under which it is noted that a visitor was seen. -/
def seenKey (id : String) : String := "ses:" ++ id

/-- The first two characters, which tell the kinds of keys apart. -/
def keyKind (key : String) : List Char := key.toList.take 2

@[simp] theorem keyKind_salt : keyKind "salt" = ['s', 'a'] := by decide

/-- Marks of visitors who were seen have their own kind of key. -/
@[simp] theorem keyKind_seenKey (id : String) : keyKind (seenKey id) = ['s', 'e'] := by
  simp [keyKind, seenKey]

@[simp] theorem keyKind_heartbeatKey (pid id : String) :
    keyKind (heartbeatKey pid id) = ['h', 'b'] := by
  simp [keyKind, heartbeatKey]

@[simp] theorem keyKind_startKey (pid id : String) : keyKind (startKey pid id) = ['s', 'd'] := by
  simp [keyKind, startKey]

theorem ne_of_keyKind {key key' : String} (h : keyKind key ≠ keyKind key') : key ≠ key' :=
  fun heq => h (congrArg keyKind heq)

/-- Different visitors have different marks. -/
theorem seenKey_inj {id id' : String} : seenKey id = seenKey id' ↔ id = id' := by
  constructor
  · intro h
    have hchars := congrArg String.toList h
    simpa [seenKey, String.toList_inj] using hchars
  · rintro rfl
    rfl

open CacheProgram

/-- The salt is settled once and then read. -/
theorem salt_eq_settle (fresh : String) (ttl : Nat) :
    salt fresh ttl = settle "salt" fresh ttl fun found => found.getD fresh := by
  show CacheProgram.get "salt" _ = CacheProgram.get "salt" _
  congr
  funext found
  -- what was found is the salt, otherwise the fresh one
  cases found <;> rfl

/-- A first visit is settled once and then no longer one. -/
theorem firstSeen_eq_settle (id : String) (ttl : Nat) :
    firstSeen id ttl = settle (seenKey id) "1" ttl Option.isNone := by
  show CacheProgram.get (seenKey id) _ = CacheProgram.get (seenKey id) _
  congr
  funext found
  cases found <;> rfl

/-! ### Which keys are kept -/

section

variable {key : String}

theorem keeps_salt (h : key ≠ "salt") (fresh : String) (ttl : Nat) :
    (salt fresh ttl).Keeps key := by
  rw [salt_eq_settle]
  exact keeps_settle h _ _ _

theorem keeps_firstSeen {id : String} (h : key ≠ seenKey id) (ttl : Nat) :
    (firstSeen id ttl).Keeps key := by
  rw [firstSeen_eq_settle]
  exact keeps_settle h _ _ _

theorem keeps_heartbeat {pid id : String} (h : key ≠ heartbeatKey pid id) (ttl : Nat) :
    (heartbeat pid id ttl).Keeps key :=
  ⟨h, trivial⟩

theorem keeps_duration {pid id : String} (h : key ≠ startKey pid id) (now : DateTime) (ttl : Nat) :
    (duration pid id now ttl).Keeps key :=
  fun _ => ⟨h, trivial⟩

/-- A sign of life changes its heartbeat and its start, and no other key. -/
theorem keeps_beat {pid id : String} (hheartbeat : key ≠ heartbeatKey pid id)
    (hstart : key ≠ startKey pid id) (config : Config) (now : DateTime) :
    (beat config pid id now).Keeps key :=
  (keeps_heartbeat hheartbeat _).bind fun _ => keeps_duration hstart _ _

theorem keeps_live (pid : String) : (live pid).Keeps key := fun _ => trivial

end

/-! ### Calls -/

/-- A call on the sessions. -/
inductive SessionCall
  /-- A visit. If a salt is needed, it is `fresh`. -/
  | track (fresh pid address agent : String) (now : DateTime)
  /-- A sign of life. -/
  | beat (pid id : String) (now : DateTime)
  /-- The question how many visitors are live. -/
  | live (pid : String)

/-- What a call is answered with. -/
inductive SessionAnswer
  | visit (v : Visit)
  | seconds (n : Nat)
  | visitors (n : Nat)
  deriving DecidableEq, Repr

namespace SessionCall

/-- What a call does with the cache. -/
def program (config : Config) : SessionCall → CacheProgram SessionAnswer
  | track fresh pid address agent now =>
    return .visit (← Session.track config fresh pid address agent now)
  | beat pid id now => return .seconds (← Session.beat config pid id now)
  | live pid => return .visitors (← Session.live pid)

/-- The cache after a call. -/
def after (config : Config) (s : TimedCache) (call : SessionCall) : TimedCache :=
  ((call.program config).runOn s).2

/-- The cache after calls that are made one after the other. -/
def afterAll (config : Config) (s : TimedCache) (calls : List SessionCall) : TimedCache :=
  calls.foldl (fun s call => call.after config s) s

end SessionCall

end SiteAnalytics.Session
