import SiteAnalytics.Proofs.Cache.Clock
import SiteAnalytics.Proofs.Calendar.Instant
import SiteAnalytics.Proofs.Session.Call
import SiteAnalytics.Proofs.Text.Numeral

/-!
# How long a session has lasted

A sign of life is answered with the seconds since the session started.  All that the cache holds of
a session is the second of its start, as text, and this for a limited span; so when a session
started is decided by the whole history of the signs of life (`sessionStart`), although no sign
knows of more than one text.

The invariant is that the cache shows the start of the last session for a span after the last sign,
and nothing before the first one (`Noted`).  A sign of life renews it (`Noted.sign`), and whatever
sets other keys leaves it as it is (`Noted.other`).  The cache has a clock of its own, which runs
along with the calendar: `tick` is the number of nanoseconds in a unit of it.
-/

namespace SiteAnalytics.Session

/-! ### Histories -/

/-- A sign of life of a visitor. -/
structure Sign where
  /-- When it came, on the clock of the cache. -/
  time : Nat
  /-- When it came, on the calendar. -/
  now : DateTime

/-- The two clocks have gone on by the same amount, and not back. -/
structure Sign.InStep (tick : Nat) (a b : Sign) : Prop where
  now_le : a.now ≤ b.now
  diff_eq : b.now.diff a.now = tick * ((b.time : Int) - a.time)

/-- What is done with a cache at a time. -/
inductive Turn : Type 1
  /-- A sign of life of the visitor in question. -/
  | sign (s : Sign)
  /-- Anything else. Accesses that are made at different times are as many turns. -/
  | other {α : Type} (time : Nat) (p : CacheProgram α)

namespace Turn

def time : Turn → Nat
  | sign s => s.time
  | other time _ => time

def sign? : Turn → Option Sign
  | sign s => some s
  | other _ _ => none

/-- Nothing but a sign of life sets `key`. -/
def Keeps (key : String) : Turn → Prop
  | sign _ => True
  | other _ p => p.Keeps key

end Turn

/-- The signs of life in a history. -/
def signs (history : List Turn) : List Sign := history.filterMap Turn.sign?

theorem signs_sign (s : Sign) (rest : List Turn) : signs (.sign s :: rest) = s :: signs rest := rfl

/-- The signs of life in a history, each with the seconds that it is answered with. -/
def durations (pid id : String) (ttl : Nat) (c : Cache) : List Turn → List (Sign × Nat)
  | [] => []
  | .sign s :: rest =>
    let (seconds, c) := (duration pid id s.now ttl).run s.time c
    (s, seconds) :: durations pid id ttl c rest
  | .other time p :: rest => durations pid id ttl (p.run time c).2 rest

theorem map_fst_durations (pid id : String) (ttl : Nat) (c : Cache) (history : List Turn) :
    (durations pid id ttl c history).map Prod.fst = signs history := by
  induction history generalizing c with
  | nil => rfl
  | cons turn rest ih =>
    cases turn with
    | sign s => exact congrArg (s :: ·) (ih _)
    | other time p => exact ih _

/-! ### Starts of sessions -/

/-- When the session of the time `now` started, given the earlier signs of life, the latest of which
comes first. A session starts with the first sign, and with every sign that comes `span` nanoseconds
or more after the one before it. -/
def sessionStart (span : Int) (now : DateTime) : List DateTime → DateTime
  | [] => now
  | previous :: earlier =>
    if now.diff previous < span then sessionStart span previous earlier else now

theorem sessionStart_mem (span : Int) (now : DateTime) (earlier : List DateTime) :
    sessionStart span now earlier ∈ now :: earlier := by
  induction earlier generalizing now with
  | nil => exact List.mem_singleton_self now
  | cons previous earlier ih =>
    rw [sessionStart]
    split_ifs
    · exact List.mem_cons_of_mem now (ih previous)
    · exact List.mem_cons_self

theorem second_sessionStart_le {span : Int} {now : DateTime} {earlier : List DateTime}
    (h : (now :: earlier).IsChain fun later previous => previous ≤ later) :
    (sessionStart span now earlier).second ≤ now.second := by
  induction earlier generalizing now with
  | nil => exact le_rfl
  | cons previous earlier ih =>
    obtain ⟨hle, hrest⟩ := List.isChain_cons_cons.mp h
    rw [sessionStart]
    split_ifs
    · exact (ih hrest).trans (DateTime.second_le_of_le hle)
    · exact le_rfl

/-! ### A single sign of life -/

/-- A date-time of the calendar is within the range of its text. -/
theorem readInt64?_second {t : DateTime} (h : t.inCalendar = true) :
    Numeral.readInt64? (Numeral.intChars t.second) = some t.second := by
  obtain ⟨hstart, hstop⟩ := DateTime.inCalendar_iff.mp h
  have h₁ : -(Numeral.maxI64 + 1 : Nat) ≤ DateTime.calendarStart := by decide +kernel
  have h₂ : DateTime.calendarStop ≤ Numeral.maxI64 := by decide +kernel
  exact Numeral.readInt64?_intChars (h₁.trans hstart) (hstop.le.trans h₂)

/-- So is the difference of two. -/
theorem sub_second {t start : DateTime} (ht : t.inCalendar = true)
    (hstart : start.inCalendar = true) :
    Count.sub t.second start.second = t.second - start.second := by
  have h₁ := DateTime.inCalendar_iff.mp ht
  have h₂ := DateTime.inCalendar_iff.mp hstart
  have h₃ : DateTime.calendarStop - DateTime.calendarStart < 9223372036854775808 := by
    decide +kernel
  apply Count.wrap_eq_self
  unfold Count.InRange
  omega

/-- A sign of life is answered from the start that was found, and this is set anew. -/
theorem run_duration (pid id : String) (s : Sign) (ttl : Nat) (c : Cache) :
    let start := startAt ((c.shown? s.time (startKey pid id)).map CacheEntry.value) s.now.second
    ((duration pid id s.now ttl).run s.time c).1 = (Count.sub s.now.second start).toNat ∧
      ∀ t, s.time ≤ t → ((duration pid id s.now ttl).run s.time c).2.shown? t (startKey pid id) =
        (some ⟨String.ofList (Numeral.intChars start), s.time + ttl⟩ : Option CacheEntry).filter
          fun e => t < e.expires := by
  rw [← Cache.get_fst]
  refine ⟨rfl, fun t ht => ?_⟩
  exact (Cache.shown?_set _ ht _ _ _ _).trans (if_pos rfl)

/-! ### The invariant -/

/-- The entry that signs of life leave behind. The latest of them comes first. -/
def startEntry (tick ttl : Nat) : List Sign → Option CacheEntry
  | [] => none
  | s :: earlier =>
    let start := sessionStart (tick * ttl) s.now (earlier.map Sign.now)
    some ⟨String.ofList (Numeral.intChars start.second), s.time + ttl⟩

/-- What the cache shows from `time` on, after the signs of life `past`, the latest of which comes
first. -/
structure Noted (key : String) (tick ttl : Nat) (c : Cache) (time : Nat) (past : List Sign) :
    Prop where
  shown : ∀ t, time ≤ t → c.shown? t key = (startEntry tick ttl past).filter fun e => t < e.expires
  inStep : past.IsChain fun later previous => previous.InStep tick later
  inCalendar : ∀ s ∈ past, s.now.inCalendar = true

namespace Noted

variable {key pid id : String} {tick ttl time : Nat} {c : Cache} {past : List Sign} {s : Sign}

theorem nil (h : c.entries.get? key = none) (tick ttl time : Nat) :
    Noted key tick ttl c time [] where
  shown t _ := by rw [Cache.shown?, h]; rfl
  inStep := .nil
  inCalendar s hs := by simp at hs

theorem other {α : Type} (h : Noted key tick ttl c time past) {later : Nat} (htime : time ≤ later)
    {p : CacheProgram α} (hp : p.Keeps key) : Noted key tick ttl (p.run later c).2 later past where
  shown t ht := by
    rw [hp.shown?_run c ht]
    exact h.shown t (htime.trans ht)
  inStep := h.inStep
  inCalendar := h.inCalendar

/-- The session started on the calendar, and not after its last sign of life. -/
theorem start_of_cons (h : Noted key tick ttl c time (s :: past)) (span : Int) :
    let start := sessionStart span s.now (past.map Sign.now)
    start.inCalendar = true ∧ start.second ≤ s.now.second := by
  intro start
  constructor
  · have hmem : start ∈ (s :: past).map Sign.now := sessionStart_mem span _ _
    obtain ⟨p, hp, hnow⟩ := List.mem_map.mp hmem
    exact hnow ▸ h.inCalendar p hp
  · apply second_sessionStart_le
    show ((s :: past).map Sign.now).IsChain _
    rw [List.isChain_map]
    exact h.inStep.imp fun _ _ hstep => hstep.now_le

section

variable (h : Noted (startKey pid id) tick ttl c time past) (htick : 0 < tick)
  (htime : time ≤ s.time) (hstep : ∀ p ∈ past.head?, p.InStep tick s)
include h htick htime hstep

/-- The start that is found is that of the session. -/
theorem startAt_eq :
    startAt ((c.shown? s.time (startKey pid id)).map CacheEntry.value) s.now.second =
      (sessionStart (tick * ttl) s.now (past.map Sign.now)).second := by
  rw [h.shown _ htime]
  cases past with
  | nil => rfl
  | cons p earlier =>
    obtain ⟨hle, hdiff⟩ := hstep p rfl
    -- both clocks agree whether the span is over
    have hlasts : s.now.diff p.now < tick * ttl ↔ s.time < p.time + ttl := by
      rw [hdiff, mul_lt_mul_iff_right₀ (by exact_mod_cast htick)]
      omega
    rw [startEntry, List.map_cons, sessionStart, Option.filter_some]
    simp only [decide_eq_true_eq, hlasts]
    split_ifs
    · obtain ⟨hcal, hstart⟩ := h.start_of_cons (tick * ttl)
      have hle := hstart.trans (DateTime.second_le_of_le hle)
      simp [startAt, readInt64?_second hcal, Option.filter_some, hle]
    · rfl

variable (hcal : s.now.inCalendar = true)
include hcal

theorem sign :
    Noted (startKey pid id) tick ttl ((duration pid id s.now ttl).run s.time c).2 s.time
      (s :: past) where
  shown t ht := by
    rw [(run_duration pid id s ttl c).2 t ht, h.startAt_eq htick htime hstep]
    rfl
  inStep := List.isChain_cons.mpr ⟨hstep, h.inStep⟩
  inCalendar := List.forall_mem_cons.mpr ⟨hcal, h.inCalendar⟩

theorem answer_eq :
    (((duration pid id s.now ttl).run s.time c).1 : Int) =
      s.now.second - (sessionStart (tick * ttl) s.now (past.map Sign.now)).second := by
  obtain ⟨hstart, hle⟩ := (h.sign htick htime hstep hcal).start_of_cons (tick * ttl)
  rw [(run_duration pid id s ttl c).1, h.startAt_eq htick htime hstep, sub_second hcal hstart]
  omega

end

end Noted

/-! ### Histories of signs -/

/-- Every sign of life in a history is answered by the signs before it. -/
theorem Noted.durations_eq {pid id : String} {tick ttl time : Nat} {c : Cache} {past : List Sign}
    {history : List Turn} (h : Noted (startKey pid id) tick ttl c time past) (htick : 0 < tick)
    (hclock : history.Pairwise fun a b => a.time ≤ b.time)
    (htime : ∀ turn ∈ history, time ≤ turn.time)
    (hkeep : ∀ turn ∈ history, turn.Keeps (startKey pid id))
    (hlink : ∀ p ∈ past.head?, ∀ s ∈ (signs history).head?, p.InStep tick s)
    (hstep : (signs history).IsChain (Sign.InStep tick))
    (hcal : ∀ s ∈ signs history, s.now.inCalendar = true) {before after : List (Sign × Nat)}
    {s : Sign} {n : Nat} (hsplit : durations pid id ttl c history = before ++ (s, n) :: after) :
    (n : Int) = s.now.second -
      (sessionStart (tick * ttl) s.now
        ((before.map fun answer => answer.1.now).reverse ++ past.map Sign.now)).second := by
  -- the signs move from `before` to `past`, one with each answer
  induction history generalizing c time past before with
  | nil => simp [durations] at hsplit
  | cons turn rest ih =>
    obtain ⟨hnext, hrest⟩ := List.pairwise_cons.mp hclock
    obtain ⟨hnow, -⟩ := List.forall_mem_cons.mp htime
    obtain ⟨hkept, hkeepRest⟩ := List.forall_mem_cons.mp hkeep
    cases turn with
    | other later p =>
      exact ih (h.other hnow hkept) hrest hnext hkeepRest hlink hstep hcal hsplit
    | sign s' =>
      rw [signs_sign] at hlink hstep hcal
      obtain ⟨hfirst, hstepRest⟩ := List.isChain_cons.mp hstep
      obtain ⟨hcal', hcalRest⟩ := List.forall_mem_cons.mp hcal
      have hlink' : ∀ p ∈ past.head?, p.InStep tick s' := fun p hp => hlink p hp s' rfl
      cases before with
      | nil =>
        obtain ⟨rfl, rfl⟩ := Prod.mk.inj (List.cons.inj hsplit).1
        exact h.answer_eq htick hnow hlink' hcal'
      | cons first before =>
        obtain ⟨rfl, hafter⟩ := List.cons.inj hsplit
        have hlinkRest : ∀ p ∈ (s' :: past).head?, ∀ s ∈ (signs rest).head?, p.InStep tick s := by
          simpa using hfirst
        have hanswer := ih (h.sign htick hnow hlink' hcal') hrest hnext hkeepRest hlinkRest
          hstepRest hcalRest hafter
        simpa using hanswer

/-- **How long a session has lasted.** Take any history of a cache that holds no start of the
session at first, and in which only the signs of life of the visitor set it.  The clock of the cache
does not go back, and from one sign to the next it goes on by the same amount as the calendar.  Then
every sign is answered, with the seconds from the start of the session to the sign: the session
starts with the first sign and with every sign that comes the whole span or more after the one
before it. -/
theorem durations_since_sessionStart {pid id : String} {tick ttl : Nat} {c : Cache}
    {history : List Turn} (htick : 0 < tick) (hfresh : c.entries.get? (startKey pid id) = none)
    (hclock : history.Pairwise fun a b => a.time ≤ b.time)
    (hkeep : ∀ turn ∈ history, turn.Keeps (startKey pid id))
    (hstep : (signs history).IsChain (Sign.InStep tick))
    (hcal : ∀ s ∈ signs history, s.now.inCalendar = true) :
    (durations pid id ttl c history).map Prod.fst = signs history ∧
      ∀ (before : List (Sign × Nat)) (s : Sign) (n : Nat) (after : List (Sign × Nat)),
        durations pid id ttl c history = before ++ (s, n) :: after →
          (n : Int) = s.now.second - (sessionStart (tick * ttl) s.now
            (before.map fun answer => answer.1.now).reverse).second := by
  refine ⟨map_fst_durations pid id ttl c history, fun before s n after hsplit => ?_⟩
  have hanswer := (Noted.nil hfresh tick ttl 0).durations_eq htick hclock
    (fun _ _ => Nat.zero_le _) hkeep (by simp) hstep hcal hsplit
  rwa [List.map_nil, List.append_nil] at hanswer

/-- Four signs of life, with other uses of the cache in between. The second comes a millisecond
before the span of one second is over, and the third when it just is. -/
theorem durations_since_sessionStart_exactSpan :
    let history : List Turn := [
      .sign ⟨0, ⟨100, 900000000⟩⟩, .other 500 (heartbeat "shop" "v1" 60000),
      .sign ⟨999, ⟨101, 899000000⟩⟩, .other 1200 (live "shop"),
      .other 1500 (duration "shop" "v2" ⟨101, 0⟩ 1000),
      .sign ⟨1999, ⟨102, 899000000⟩⟩, .sign ⟨2500, ⟨103, 400000000⟩⟩]
    let answers := durations "shop" "v1" 1000 .empty history
    (Cache.empty.entries.get? (startKey "shop" "v1") = none ∧
      history.Pairwise (fun a b => a.time ≤ b.time) ∧
      (∀ turn ∈ history, turn.Keeps (startKey "shop" "v1")) ∧
      (signs history).IsChain (Sign.InStep 1000000) ∧
      ∀ s ∈ signs history, s.now.inCalendar = true) ∧
    answers.map Prod.snd = [0, 1, 0, 1] ∧
    answers.map Prod.fst = signs history ∧
    ∀ (before : List (Sign × Nat)) (s : Sign) (n : Nat) (after : List (Sign × Nat)),
      answers = before ++ (s, n) :: after →
        (n : Int) = s.now.second - (sessionStart ((1000000 : Nat) * (1000 : Nat)) s.now
          (before.map fun answer => answer.1.now).reverse).second := by
  intro history answers
  have hfresh : Cache.empty.entries.get? (startKey "shop" "v1") = none := rfl
  have hclock : history.Pairwise (fun a b => a.time ≤ b.time) := by
    simp [history, Turn.time]
  have hkeep : ∀ turn ∈ history, turn.Keeps (startKey "shop" "v1") := by
    have hheartbeat : (heartbeat "shop" "v1" 60000).Keeps (startKey "shop" "v1") :=
      keeps_heartbeat (ne_of_keyKind (by simp)) 60000
    have hother : (duration "shop" "v2" ⟨101, 0⟩ 1000).Keeps (startKey "shop" "v1") :=
      keeps_duration (by decide) ⟨101, 0⟩ 1000
    simp [history, Turn.Keeps, hheartbeat, hother, keeps_live]
  have hstep : (signs history).IsChain (Sign.InStep 1000000) := by
    have hfirst : Sign.InStep 1000000 ⟨0, ⟨100, 900000000⟩⟩ ⟨999, ⟨101, 899000000⟩⟩ :=
      ⟨by decide, by decide⟩
    have hsecond : Sign.InStep 1000000 ⟨999, ⟨101, 899000000⟩⟩ ⟨1999, ⟨102, 899000000⟩⟩ :=
      ⟨by decide, by decide⟩
    have hthird : Sign.InStep 1000000 ⟨1999, ⟨102, 899000000⟩⟩ ⟨2500, ⟨103, 400000000⟩⟩ :=
      ⟨by decide, by decide⟩
    exact .cons_cons hfirst (.cons_cons hsecond (.cons_cons hthird (.singleton _)))
  have hcal : ∀ s ∈ signs history, s.now.inCalendar = true := by decide +kernel
  exact ⟨⟨hfresh, hclock, hkeep, hstep, hcal⟩, by decide +kernel,
    durations_since_sessionStart (by decide) hfresh hclock hkeep hstep hcal⟩

end SiteAnalytics.Session
