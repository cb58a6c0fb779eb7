import SiteAnalytics.Proofs.Bucket.Staircase
import SiteAnalytics.Window.Basic

/-!
# What a resolved window is made of

A timeframe has a window in one of three ways: as an explicit pair of different times, as a pair of
equal times, or as a period (`resolveIn_eq_ok_iff`).  For each of them one lemma lists all that the
window is made of, with the checks that it has passed: `resolvePair_eq_ok_iff`,
`resolveDay_eq_ok_iff` and `resolvePeriod_eq_ok_iff`.  Everything about resolved windows follows
from these, and nothing else has to unfold the resolution.

The zone is a parameter here; `resolve` takes the one that the timeframe names.
-/

namespace SiteAnalytics.Timeframe

open DateTime

/-! ### Failures -/

theorem bind_eq_ok_iff {ε α β : Type} {x : Except ε α} {f : α → Except ε β} {b : β} :
    x >>= f = .ok b ↔ ∃ a, x = .ok a ∧ f a = .ok b := by
  cases x <;> simp [bind, Except.bind]

theorem pure_eq_ok_iff {ε α : Type} {a b : α} : (pure a : Except ε α) = .ok b ↔ a = b := by
  simp [pure, Except.pure]

theorem inCalendar_eq_ok_iff {α : Type} {o : Option α} {a : α} :
    inCalendar o = .ok a ↔ o = some a := by
  cases o <;> simp [inCalendar]

theorem orInvalid_eq_ok_iff {α : Type} {cause : ValidationError} {o : Option α} {a : α} :
    orInvalid cause o = .ok a ↔ o = some a := by
  cases o <;> simp [orInvalid]

theorem checked_eq_ok_iff {α : Type} {x : Except ValidationError α} {a : α} :
    checked x = .ok a ↔ x = .ok a := by
  cases x <;> simp [checked]

/-! ### Explicit pairs -/

/-- A day is laid out on the wall clock, from midnight to its last second, and then taken to UTC. -/
theorem resolveDay_eq_ok_iff {zone : Zone} {b : Bucket} {day : DateTime} {w : Window} :
    resolveDay zone b day = .ok w ↔ w.bucket = b ∧ w.zone = zone ∧
      w.localStart = day.midnight ∧ Bucket.day.endOf? w.localStart = some w.localStop ∧
      zone.localToUtc? w.localStart = some w.utcStart ∧
      zone.localToUtc? w.localStop = some w.utcStop := by
  unfold resolveDay
  simp only [bind_eq_ok_iff, orInvalid_eq_ok_iff, inCalendar_eq_ok_iff, pure_eq_ok_iff]
  constructor
  · rintro ⟨localStop, hstop, utcStart, hstart, utcStop, hend, rfl⟩
    exact ⟨rfl, rfl, rfl, hstop, hstart, hend⟩
  · rintro ⟨rfl, rfl, hday, hstop, hstart, hend⟩
    rw [hday] at hstop hstart
    refine ⟨w.localStop, hstop, w.utcStart, hstart, w.utcStop, hend, ?_⟩
    rw [← hday]

/-- A pair is snapped in UTC, and then both ends are read on the wall clock. -/
theorem resolvePair_eq_ok_iff {zone : Zone} {b : Bucket} {start stop : DateTime} {w : Window} :
    resolvePair zone b start stop = .ok w ↔ w.bucket = b ∧ w.zone = zone ∧
      w.utcStart = b.startOf start ∧ b.endOf? stop = some w.utcStop ∧
      zone.utcToLocal? w.utcStart = some w.localStart ∧
      zone.utcToLocal? w.utcStop = some w.localStop := by
  unfold resolvePair
  simp only [bind_eq_ok_iff, orInvalid_eq_ok_iff, inCalendar_eq_ok_iff, pure_eq_ok_iff]
  constructor
  · rintro ⟨utcStop, hstop, localStart, hstart, localStop, hend, rfl⟩
    exact ⟨rfl, rfl, rfl, hstop, hstart, hend⟩
  · rintro ⟨rfl, rfl, hsnap, hstop, hstart, hend⟩
    rw [hsnap] at hstart
    refine ⟨w.utcStop, hstop, w.localStart, hstart, w.localStop, hend, ?_⟩
    rw [← hsnap]

/-- The bucket of an explicit pair: the one asked for, if it fits the pair, otherwise the finest. -/
def pairBucket (bucket : Option Bucket) (start stop : DateTime) : Except ValidationError Bucket :=
  match bucket with
  | some b => (b.check start stop).map fun _ => b
  | none => Bucket.finest start stop

/-- The bucket of an explicit pair suits the pair as it is given. -/
theorem suits_of_pairBucket {bucket : Option Bucket} {start stop : DateTime} {b : Bucket}
    (h : pairBucket bucket start stop = .ok b) : b.Suits (Bucket.dayDiff start stop) := by
  cases bucket with
  -- a bucket that was asked for has been checked
  | some b' =>
    rw [← Bucket.check_eq_ok_iff]
    cases hcheck : b'.check start stop with
    | error e => simp [pairBucket, hcheck, Except.map] at h
    | ok u =>
      simp only [pairBucket, hcheck, Except.map, Except.ok.injEq] at h
      rw [← h, hcheck]
  -- otherwise it is the first of those that are allowed
  | none =>
    rw [← Bucket.mem_allowed_iff]
    simp only [pairBucket, Bucket.finest, bind_eq_ok_iff] at h
    obtain ⟨fitting, hfitting, hfirst⟩ := h
    cases fitting with
    | nil => contradiction
    | cons c rest =>
      obtain rfl := Except.ok.inj hfirst
      exact ⟨c :: rest, hfitting, List.mem_cons_self⟩

/-- A bucket that was asked for is taken iff it suits the pair. -/
theorem pairBucket_some_eq_ok_iff {b : Bucket} {start stop : DateTime} :
    pairBucket (some b) start stop = .ok b ↔ b.Suits (Bucket.dayDiff start stop) := by
  rw [← Bucket.check_eq_ok_iff, pairBucket]
  cases b.check start stop <;> simp [Except.map]

/-- A pair is checked before its bucket is chosen, whether one was asked for or not. -/
theorem resolveExplicit_eq (zone : Zone) (bucket : Option Bucket) (start stop : String) :
    resolveExplicit zone bucket start stop = (do
      let s ← orInvalid (.invalidDate .start) (DateInput.read? start)
      let e ← orInvalid (.invalidDate .stop) (DateInput.read? stop)
      if e < s then .error (.invalid .invertedRange)
      else do
        let b ← checked (pairBucket bucket s e)
        if s = e then resolveDay zone b s else resolvePair zone b s e) := by
  unfold resolveExplicit
  refine congrArg _ (funext fun s => congrArg _ (funext fun e => ?_))
  by_cases hlt : e < s
  · rw [if_pos hlt, if_pos hlt]
    rfl
  · rw [if_neg hlt, if_neg hlt]
    cases bucket with
    | some b =>
      dsimp only [pairBucket]
      cases b.check s e <;> rfl
    | none => rfl

/-- A pair has a window iff both times can be read, are in order and have a bucket. -/
theorem resolveExplicit_eq_ok_iff {zone : Zone} {bucket : Option Bucket} {start stop : String}
    {w : Window} : resolveExplicit zone bucket start stop = .ok w ↔
      ∃ s e, DateInput.read? start = some s ∧ DateInput.read? stop = some e ∧ ¬e < s ∧
        pairBucket bucket s e = .ok w.bucket ∧
        (if s = e then resolveDay zone w.bucket s else resolvePair zone w.bucket s e) = .ok w := by
  -- whichever way the window is found, its bucket is the one it was found for
  have hbucket {s e : DateTime} {b : Bucket}
      (h : (if s = e then resolveDay zone b s else resolvePair zone b s e) = .ok w) :
      w.bucket = b := by
    split_ifs at h
    · exact (resolveDay_eq_ok_iff.mp h).1
    · exact (resolvePair_eq_ok_iff.mp h).1
  rw [resolveExplicit_eq]
  simp only [bind_eq_ok_iff, orInvalid_eq_ok_iff]
  constructor
  · rintro ⟨s, hs, e, he, h⟩
    by_cases hlt : e < s
    · rw [if_pos hlt] at h
      contradiction
    · rw [if_neg hlt, bind_eq_ok_iff] at h
      obtain ⟨b, hb, h⟩ := h
      obtain rfl := hbucket h
      exact ⟨s, e, hs, he, hlt, checked_eq_ok_iff.mp hb, h⟩
  · rintro ⟨s, e, hs, he, hlt, hb, h⟩
    refine ⟨s, hs, e, he, ?_⟩
    rw [if_neg hlt, bind_eq_ok_iff]
    exact ⟨w.bucket, checked_eq_ok_iff.mpr hb, h⟩

/-! ### Periods -/

/-- What the clock of the zone shows now. -/
def localNow (zone : Zone) (nowUtc : DateTime) : Except WindowError DateTime :=
  if zone.isUtc then .ok nowUtc else inCalendar (zone.utcToLocal? nowUtc)

/-- The end of a period in UTC: counted from now if it is less than an hour ahead, otherwise the
instant that stands for the reading. -/
def stopInstant (zone : Zone) (nowUtc nowLocal localStop : DateTime) :
    Except WindowError DateTime :=
  let ahead := localStop.diff nowLocal
  if 0 ≤ ahead && ahead < 3600 * (nanosPerSecond : Int) then inCalendar (nowUtc.add? ahead)
  else toUtc zone localStop

theorem resolvePeriod_eq (zone : Zone) (bucket : Option Bucket) (count : Option Int)
    (period : Period) (now : DateTime) : resolvePeriod zone bucket count period now = (do
      let nowLocal ← localNow zone now.truncate
      let b := bucketFor bucket period count nowLocal
      let (localStart, localStop) ← localBounds period b count nowLocal
      let utcStop ← stopInstant zone now.truncate nowLocal localStop
      let utcStart ← toUtc zone localStart
      checked (b.check utcStart utcStop)
      return { localStart, localStop, utcStart, utcStop, bucket := b, zone }) := by
  unfold resolvePeriod localNow stopInstant
  simp only [pure_bind]
  split_ifs with hutc
  · simp only [bind, Except.bind]
    cases localBounds period (bucketFor bucket period count now.truncate) count now.truncate with
    | error e => rfl
    | ok bounds => dsimp only; split_ifs <;> rfl
  · refine congrArg _ (funext fun nowLocal => ?_)
    refine congrArg _ (funext fun bounds => ?_)
    split_ifs <;> rfl

/-- A period is laid out from the reading of the clock now, and its bucket is checked at the end. -/
theorem resolvePeriod_eq_ok_iff {zone : Zone} {bucket : Option Bucket} {count : Option Int}
    {period : Period} {now : DateTime} {w : Window} :
    resolvePeriod zone bucket count period now = .ok w ↔
      ∃ nowLocal, localNow zone now.truncate = .ok nowLocal ∧
        w.bucket = bucketFor bucket period count nowLocal ∧ w.zone = zone ∧
        localBounds period w.bucket count nowLocal = .ok (w.localStart, w.localStop) ∧
        stopInstant zone now.truncate nowLocal w.localStop = .ok w.utcStop ∧
        toUtc zone w.localStart = .ok w.utcStart ∧
        w.bucket.Suits (Bucket.dayDiff w.utcStart w.utcStop) := by
  rw [resolvePeriod_eq]
  simp only [bind_eq_ok_iff, checked_eq_ok_iff, pure_eq_ok_iff]
  refine exists_congr fun nowLocal => and_congr_right fun _ => ?_
  constructor
  · rintro ⟨⟨localStart, localStop⟩, hbounds, utcStop, hstop, utcStart, hstart, ⟨⟩, hcheck, rfl⟩
    exact ⟨rfl, rfl, hbounds, hstop, hstart, Bucket.check_eq_ok_iff.mp hcheck⟩
  · rintro ⟨hbucket, rfl, hbounds, hstop, hstart, hsuits⟩
    rw [← hbucket]
    exact ⟨_, hbounds, _, hstop, _, hstart, (), Bucket.check_eq_ok_iff.mpr hsuits, rfl⟩

/-! ### Resolution -/

/-- The timeframe is an explicit pair, read as two times. -/
def IsPair (q : Timeframe) (start stop : DateTime) : Prop :=
  ∃ s e, q.start = some s ∧ q.stop = some e ∧ DateInput.read? s = some start ∧
    DateInput.read? e = some stop

/-- The timeframe is a period and no explicit pair. -/
def IsPeriod (q : Timeframe) (period : Period) : Prop :=
  (q.start = none ∨ q.stop = none) ∧ ∃ raw, q.period = some raw ∧ Period.parse raw = .ok period

/-- The window of a timeframe in a zone. -/
def resolveIn (zone : Zone) (q : Timeframe) (now : DateTime) : Except WindowError Window :=
  match q.start, q.stop with
  | some start, some stop => resolveExplicit zone q.bucket start stop
  | _, _ =>
    match q.period with
    | none => .error (.invalid .missingTimeframe)
    | some raw => do
      let period ← checked (Period.parse raw)
      resolvePeriod zone q.bucket q.allTimeCount period now

/-- A timeframe is resolved in the zone that it names. -/
theorem resolve_eq_resolveIn (q : Timeframe) (now : DateTime) (zones : ZoneSource) :
    q.resolve now zones = q.resolveIn (Zone.parse q.timezone zones) now := rfl

/-- Without an explicit pair the period decides. -/
theorem resolveIn_of_isPeriod {zone : Zone} {q : Timeframe} {period : Period}
    (h : q.IsPeriod period) (now : DateTime) :
    q.resolveIn zone now = resolvePeriod zone q.bucket q.allTimeCount period now := by
  obtain ⟨hpair, raw, hraw, hparse⟩ := h
  unfold resolveIn
  split
  · rename_i hstart hstop
    rw [hstart, hstop] at hpair
    simp at hpair
  · rw [hraw]
    dsimp only
    rw [hparse]
    rfl

/-- A window is that of an explicit pair or that of a period. -/
theorem resolveIn_eq_ok_iff {zone : Zone} {q : Timeframe} {now : DateTime} {w : Window} :
    q.resolveIn zone now = .ok w ↔
      (∃ start stop, q.IsPair start stop ∧ ¬stop < start ∧
        pairBucket q.bucket start stop = .ok w.bucket ∧
        (if start = stop then resolveDay zone w.bucket start
          else resolvePair zone w.bucket start stop) = .ok w) ∨
      (∃ period, q.IsPeriod period ∧
        resolvePeriod zone q.bucket q.allTimeCount period now = .ok w) := by
  constructor
  · intro h
    unfold resolveIn at h
    split at h
    · rename_i s e hs he
      obtain ⟨start, stop, hstart, hstop, hrest⟩ := resolveExplicit_eq_ok_iff.mp h
      exact .inl ⟨start, stop, ⟨s, e, hs, he, hstart, hstop⟩, hrest⟩
    · -- one of the two ends is missing
      rename_i hnone
      split at h
      · contradiction
      · rename_i raw hraw
        obtain ⟨period, hparse, h⟩ := bind_eq_ok_iff.mp h
        refine .inr ⟨period, ⟨?_, raw, hraw, checked_eq_ok_iff.mp hparse⟩, h⟩
        cases hs : q.start with
        | none => exact .inl rfl
        | some s =>
          cases he : q.stop with
          | none => exact .inr rfl
          | some e => exact (hnone s e hs he).elim
  · rintro (⟨start, stop, ⟨s, e, hs, he, hstart, hstop⟩, hrest⟩ | ⟨period, hperiod, h⟩)
    · unfold resolveIn
      rw [hs, he]
      exact resolveExplicit_eq_ok_iff.mpr ⟨start, stop, hstart, hstop, hrest⟩
    · rw [resolveIn_of_isPeriod hperiod, h]

/-- A window is laid out in the zone that it is resolved in. -/
theorem zone_of_resolveIn {zone : Zone} {q : Timeframe} {now : DateTime} {w : Window}
    (h : q.resolveIn zone now = .ok w) : w.zone = zone := by
  obtain ⟨start, stop, -, -, -, h⟩ | ⟨_, -, h⟩ := resolveIn_eq_ok_iff.mp h
  · -- each of the three ways puts the zone into its window
    split_ifs at h
    · exact (resolveDay_eq_ok_iff.mp h).2.1
    · exact (resolvePair_eq_ok_iff.mp h).2.1
  · obtain ⟨-, -, -, hzone, -⟩ := resolvePeriod_eq_ok_iff.mp h
    exact hzone

/-- The window of an explicit pair. -/
theorem of_resolveIn_of_isPair {zone : Zone} {q : Timeframe} {start stop now : DateTime}
    {w : Window} (hpair : q.IsPair start stop) (h : q.resolveIn zone now = .ok w) :
    ¬stop < start ∧ pairBucket q.bucket start stop = .ok w.bucket ∧
      (if start = stop then resolveDay zone w.bucket start
        else resolvePair zone w.bucket start stop) = .ok w := by
  obtain ⟨s, e, hs, he, hstart, hstop⟩ := hpair
  obtain ⟨start', stop', ⟨s', e', hs', he', hstart', hstop'⟩, hrest⟩ | ⟨_, ⟨hnone, -⟩, -⟩ :=
    resolveIn_eq_ok_iff.mp h
  · -- both are read from the same texts
    obtain rfl := Option.some.inj (hs.symm.trans hs')
    obtain rfl := Option.some.inj (he.symm.trans he')
    obtain rfl := Option.some.inj (hstart.symm.trans hstart')
    obtain rfl := Option.some.inj (hstop.symm.trans hstop')
    exact hrest
  · rw [hs, he] at hnone
    simp at hnone

end SiteAnalytics.Timeframe
