import SiteAnalytics.Cache.Program
import SiteAnalytics.Proofs.Cache.Memory
import Mathlib.Logic.Function.Basic

/-!
# Clients that take turns

Several clients share a cache, each with a program of its own (`Clients`).  A schedule says who
makes the next access, and when; every interleaving of the programs is the run of some schedule.

What can be said about such a run is read off its log.  The accesses of one client are a path
through its program (`path_run`), whatever the others do.  And as long as no value that was set for
a key expires, who looks the key up finds something exactly if somebody has set it before
(`answer_of_get`).
-/

namespace SiteAnalytics

variable {ι α β : Type}

/-! ### Paths through a program -/

namespace CacheProgram

/-- The next access of a program. -/
def call? : CacheProgram α → Option CacheCall
  | done _ => none
  | get key _ => some (.get key)
  | set key value ttl _ => some (.set key value ttl)
  | count pattern _ => some (.count pattern)

/-- The result of a program that is done. -/
def result? : CacheProgram α → Option α
  | done a => some a
  | _ => none

theorem result?_eq_some_iff {p : CacheProgram α} {a : α} : p.result? = some a ↔ p = done a := by
  cases p <;> simp [result?]

/-- `p.Path l q`: with the answers in `l`, the program `p` makes the accesses in `l`, and `q` is
what is left of it. -/
inductive Path : CacheProgram α → List (CacheCall × CacheAnswer) → CacheProgram α → Prop
  | nil {p : CacheProgram α} : Path p [] p
  | get {key : String} {next : Option String → CacheProgram α} {found : Option String}
      {l : List (CacheCall × CacheAnswer)} {q : CacheProgram α} (rest : Path (next found) l q) :
      Path (get key next) ((.get key, .found found) :: l) q
  | set {key value : String} {ttl : Nat} {next : CacheProgram α}
      {l : List (CacheCall × CacheAnswer)} {q : CacheProgram α} (rest : Path next l q) :
      Path (set key value ttl next) ((.set key value ttl, .stored) :: l) q
  | count {pattern : String} {next : Nat → CacheProgram α} {n : Nat}
      {l : List (CacheCall × CacheAnswer)} {q : CacheProgram α} (rest : Path (next n) l q) :
      Path (count pattern next) ((.count pattern, .counted n) :: l) q

theorem Path.append {p q r : CacheProgram α} {l l' : List (CacheCall × CacheAnswer)}
    (h : p.Path l q) (h' : q.Path l' r) : p.Path (l ++ l') r := by
  induction h with
  | nil => exact h'
  | get _ ih => exact .get (ih h')
  | set _ ih => exact .set (ih h')
  | count _ ih => exact .count (ih h')

/-- The next access with its answer is a path. -/
theorem path_step (now : Nat) (c : Cache) (p : CacheProgram α) :
    p.Path (p.call?.map fun call => (call, (c.answer now call).1)).toList (p.step now c).1 := by
  cases p with
  | done a => exact .nil
  | get key next => exact .get .nil
  | set key value ttl next => exact .set .nil
  | count pattern next => exact .count .nil

/-- What the next access does to the cache. -/
theorem step_snd (now : Nat) (c : Cache) (p : CacheProgram α) :
    (p.step now c).2 = (p.call?.map fun call => (c.answer now call).2).getD c := by
  cases p <;> rfl

/-- A path to the end of two programs goes to the end of the first one first. -/
theorem exists_path_of_bind {p : CacheProgram α} {f : α → CacheProgram β} {b : β}
    {l : List (CacheCall × CacheAnswer)} (h : (p >>= f).Path l (done b)) :
    ∃ l₁ a l₂, l = l₁ ++ l₂ ∧ p.Path l₁ (done a) ∧ (f a).Path l₂ (done b) := by
  change (p.bind f).Path l (done b) at h
  induction p generalizing l with
  | done a => exact ⟨[], a, l, rfl, .nil, h⟩
  | get key next ih =>
    cases h with
    | get rest =>
      obtain ⟨l₁, a, l₂, rfl, h₁, h₂⟩ := ih _ rest
      exact ⟨_ :: l₁, a, l₂, rfl, .get h₁, h₂⟩
  | set key value ttl next ih =>
    cases h with
    | set rest =>
      obtain ⟨l₁, a, l₂, rfl, h₁, h₂⟩ := ih rest
      exact ⟨_ :: l₁, a, l₂, rfl, .set h₁, h₂⟩
  | count pattern next ih =>
    cases h with
    | count rest =>
      obtain ⟨l₁, a, l₂, rfl, h₁, h₂⟩ := ih _ rest
      exact ⟨_ :: l₁, a, l₂, rfl, .count h₁, h₂⟩

/-- The program makes at most `n` accesses. -/
def Within : Nat → CacheProgram α → Prop
  | _, done _ => True
  | 0, _ => False
  | n + 1, get _ next => ∀ found, (next found).Within n
  | n + 1, set _ _ _ next => next.Within n
  | n + 1, count _ next => ∀ answer, (next answer).Within n

theorem Within.step {n : Nat} {p : CacheProgram α} (h : p.Within n) (now : Nat) (c : Cache) :
    (p.step now c).1.Within (n - 1) := by
  cases p with
  | done a =>
    show (done a).Within (n - 1)
    cases n - 1 <;> exact trivial
  | get key next =>
    cases n with
    | zero => exact h.elim
    | succ n => exact h _
  | set key value ttl next =>
    cases n with
    | zero => exact h.elim
    | succ n => exact h
  | count pattern next =>
    cases n with
    | zero => exact h.elim
    | succ n => exact h _

theorem Within.exists_result {p : CacheProgram α} (h : p.Within 0) : ∃ a, p.result? = some a := by
  cases p with
  | done a => exact ⟨a, rfl⟩
  | get key next => exact h.elim
  | set key value ttl next => exact h.elim
  | count pattern next => exact h.elim

end CacheProgram

/-! ### Runs -/

/-- A cache with its clients. -/
structure Clients (ι α : Type) where
  cache : Cache
  /-- What each client still has to do. -/
  programs : ι → CacheProgram α

/-- An access that was made. -/
structure Access (ι : Type) where
  time : Nat
  client : ι
  call : CacheCall
  answer : CacheAnswer

/-- The access sets `key` to `value`. -/
def Access.Sets (a : Access ι) (key value : String) : Prop := ∃ ttl, a.call = .set key value ttl

/-- The client looks the key up at a time when nobody has set it. -/
def LooksBeforeSet (log : List (Access ι)) (key : String) (i : ι) : Prop :=
  ∃ before a after, log = before ++ a :: after ∧ a.client = i ∧ a.call = .get key ∧
    ∀ b ∈ before, ∀ value, ¬ b.Sets key value

/-! ### What a cache shows of its log -/

namespace Cache

/-- From `now` on and before `stop`, the key shows one of the values that it has been set to, if it
has been set. -/
def Shows (c : Cache) (now stop : Nat) (key : String) (past : List (Access ι)) : Prop :=
  ∀ t, now ≤ t → t < stop →
    (∀ e, c.shown? t key = some e → ∃ a ∈ past, a.Sets key e.value) ∧
      (c.shown? t key = none → ∀ a ∈ past, ∀ value, ¬ a.Sets key value)

theorem shows_empty (now stop : Nat) (key : String) :
    empty.Shows now stop key ([] : List (Access ι)) := by
  intro t _ _
  simp

namespace Shows

variable {c : Cache} {now later stop : Nat} {key : String} {past : List (Access ι)}

theorem of_le (h : c.Shows now stop key past) (hnow : now ≤ later) :
    c.Shows later stop key past :=
  fun t ht => h t (Nat.le_trans hnow ht)

/-- What the key is found with. -/
theorem get (h : c.Shows now stop key past) (hstop : now < stop) :
    (∀ value, (c.get now key).1 = some value → ∃ b ∈ past, b.Sets key value) ∧
      ((c.get now key).1 = none → ∀ b ∈ past, ∀ value, ¬ b.Sets key value) := by
  obtain ⟨hsome, hnone⟩ := h now (Nat.le_refl _) hstop
  rw [c.get_fst]
  constructor
  · intro value hvalue
    obtain ⟨e, hshown, rfl⟩ := Option.map_eq_some_iff.mp hvalue
    exact hsome e hshown
  · intro hvalue
    exact hnone (Option.map_eq_none_iff.mp hvalue)

/-- Nothing changes if the cache shows the same and the key is not set. -/
theorem concat (h : c.Shows now stop key past) (hnow : now ≤ later) {c' : Cache}
    (hshown : ∀ t, later ≤ t → c'.shown? t key = c.shown? t key) {a : Access ι}
    (ha : ∀ value, ¬ a.Sets key value) : c'.Shows later stop key (past ++ [a]) := by
  intro t ht hstop
  obtain ⟨hsome, hnone⟩ := h t (Nat.le_trans hnow ht) hstop
  rw [hshown t ht]
  constructor
  · intro e he
    obtain ⟨b, hb, hsets⟩ := hsome e he
    exact ⟨b, List.mem_append_left _ hb, hsets⟩
  · intro he b hb
    rcases List.mem_append.mp hb with hb | hb
    · exact hnone he b hb
    · rw [List.mem_singleton.mp hb]
      exact ha

/-- An access keeps it, unless it sets the key for too short. -/
theorem answer (h : c.Shows now stop key past) (hnow : now ≤ later) (i : ι) (call : CacheCall)
    (hlong : ∀ value ttl, call = .set key value ttl → stop ≤ later + ttl) :
    (c.answer later call).2.Shows later stop key
      (past ++ [⟨later, i, call, (c.answer later call).1⟩]) := by
  cases call with
  | get key' =>
    apply h.concat hnow fun t ht => c.shown?_get ht key' key
    rintro _ ⟨_, hset⟩
    contradiction
  | count pattern =>
    apply h.concat hnow fun t ht => c.shown?_count ht pattern key
    rintro _ ⟨_, hset⟩
    contradiction
  | set key' value ttl =>
    by_cases hkey : key = key'
    · subst hkey
      intro t ht hstop
      have hlasts : t < later + ttl := Nat.lt_of_lt_of_le hstop (hlong value ttl rfl)
      have hshown : (c.answer later (.set key value ttl)).2.shown? t key =
          some ⟨value, later + ttl⟩ := by
        show (c.set later key value ttl).shown? t key = _
        rw [c.shown?_set ht, if_pos rfl, Option.filter_some, if_pos (decide_eq_true hlasts)]
      rw [hshown]
      constructor
      · rintro _ ⟨rfl⟩
        exact ⟨_, List.mem_append_right _ List.mem_cons_self, ttl, rfl⟩
      · intro hnone
        contradiction
    · apply h.concat hnow fun t ht => (c.shown?_set ht key' value ttl key).trans (if_neg hkey)
      rintro _ ⟨_, ⟨rfl⟩⟩
      exact hkey rfl

end Shows

end Cache

namespace Clients

variable [DecidableEq ι]

/-- The client `i` makes its next access at time `now`. -/
def turn (s : Clients ι α) (now : Nat) (i : ι) : Clients ι α :=
  ⟨((s.programs i).step now s.cache).2,
    Function.update s.programs i ((s.programs i).step now s.cache).1⟩

/-- The access that the client `i` makes at time `now`. -/
def access? (s : Clients ι α) (now : Nat) (i : ι) : Option (Access ι) :=
  (s.programs i).call?.map fun call => ⟨now, i, call, (s.cache.answer now call).1⟩

/-- The clients make accesses in turn. -/
def run (s : Clients ι α) : List (Nat × ι) → Clients ι α
  | [] => s
  | (now, i) :: rest => (s.turn now i).run rest

/-- The accesses that are made. -/
def log (s : Clients ι α) : List (Nat × ι) → List (Access ι)
  | [] => []
  | (now, i) :: rest => (s.access? now i).toList ++ (s.turn now i).log rest

/-- What a client did. -/
def own (log : List (Access ι)) (i : ι) : List (CacheCall × CacheAnswer) :=
  (log.filter (·.client = i)).map fun a => (a.call, a.answer)

section

variable {s : Clients ι α} {now : Nat} {i j : ι}

theorem programs_turn_self :
    (s.turn now i).programs i = ((s.programs i).step now s.cache).1 :=
  Function.update_self ..

theorem programs_turn_of_ne (h : i ≠ j) : (s.turn now j).programs i = s.programs i :=
  Function.update_of_ne h ..

theorem mem_own_iff {log : List (Access ι)} {call : CacheCall} {answer : CacheAnswer} :
    (call, answer) ∈ own log i ↔
      ∃ a ∈ log, a.client = i ∧ a.call = call ∧ a.answer = answer := by
  simp only [own, List.mem_map, List.mem_filter, decide_eq_true_eq, Prod.mk.injEq, and_assoc]

theorem own_append (log log' : List (Access ι)) :
    own (log ++ log') i = own log i ++ own log' i := by
  rw [own, List.filter_append, List.map_append, own, own]

theorem own_access?_self : own (s.access? now i).toList i =
    ((s.programs i).call?.map fun call => (call, (s.cache.answer now call).1)).toList := by
  rw [access?]
  cases (s.programs i).call? <;> simp [own]

theorem own_access?_of_ne (h : i ≠ j) : own (s.access? now j).toList i = [] := by
  rw [access?]
  cases (s.programs j).call? <;> simp [own, h.symm]

end

/-! ### One client -/

/-- Every client follows its own program. -/
theorem path_run (s : Clients ι α) (schedule : List (Nat × ι)) (i : ι) :
    (s.programs i).Path (own (s.log schedule) i) ((s.run schedule).programs i) := by
  induction schedule generalizing s with
  | nil => exact .nil
  | cons next rest ih =>
    obtain ⟨now, j⟩ := next
    have hrest := ih (s.turn now j)
    rw [log, own_append, run]
    by_cases hj : i = j
    · subst hj
      rw [programs_turn_self] at hrest
      rw [own_access?_self]
      exact ((s.programs i).path_step now s.cache).append hrest
    · rw [programs_turn_of_ne hj] at hrest
      rw [own_access?_of_ne hj]
      exact hrest

/-- A client that has had its turns is done. -/
theorem exists_result_of_within {s : Clients ι α} {schedule : List (Nat × ι)} {i : ι} {n : Nat}
    (h : (s.programs i).Within n) (hturns : n ≤ schedule.countP (·.2 = i)) :
    ∃ a, ((s.run schedule).programs i).result? = some a := by
  induction schedule generalizing s n with
  | nil =>
    obtain rfl : n = 0 := Nat.le_zero.mp hturns
    exact h.exists_result
  | cons next rest ih =>
    obtain ⟨now, j⟩ := next
    by_cases hj : i = j
    · subst hj
      rw [List.countP_cons_of_pos (by simp)] at hturns
      refine ih (n := n - 1) ?_ (by omega)
      rw [programs_turn_self]
      exact h.step now s.cache
    · rw [List.countP_cons_of_neg (by simpa using Ne.symm hj)] at hturns
      exact ih (by rwa [programs_turn_of_ne hj]) hturns

/-! ### All clients -/

section

variable {s : Clients ι α} {now later stop : Nat} {key : String} {past : List (Access ι)}

/-- A turn keeps what the cache shows of the log. -/
theorem shows_turn (h : s.cache.Shows now stop key past) (hnow : now ≤ later) (i : ι)
    (hlong : ∀ a ∈ s.access? later i, ∀ value ttl, a.call = .set key value ttl →
      stop ≤ a.time + ttl) :
    (s.turn later i).cache.Shows later stop key (past ++ (s.access? later i).toList) := by
  rw [turn, CacheProgram.step_snd, access?]
  rw [access?] at hlong
  cases hcall : (s.programs i).call? with
  | none =>
    rw [Option.map_none, Option.map_none, Option.toList_none, List.append_nil]
    exact h.of_le hnow
  | some call =>
    rw [hcall] at hlong
    exact h.answer hnow i call (hlong _ rfl)

/-- **Who finds a key set.** As long as no value that is set for a key expires, a client that looks
the key up finds a value that somebody has set before, or nothing if nobody has. -/
theorem answer_of_get (h : s.cache.Shows now stop key past) {schedule : List (Nat × ι)}
    (hsorted : schedule.Pairwise fun x y => x.1 ≤ y.1)
    (htimes : ∀ turn ∈ schedule, now ≤ turn.1 ∧ turn.1 < stop)
    (hlong : ∀ a ∈ s.log schedule, ∀ value ttl, a.call = .set key value ttl → stop ≤ a.time + ttl)
    {before after : List (Access ι)} {a : Access ι} (hlog : s.log schedule = before ++ a :: after)
    (hcall : a.call = .get key) :
    ∃ found, a.answer = .found found ∧
      (∀ value, found = some value → ∃ b ∈ past ++ before, b.Sets key value) ∧
      (found = none → ∀ b ∈ past ++ before, ∀ value, ¬ b.Sets key value) := by
  -- `past` is the log up to here; a turn adds at most one access to it
  induction schedule generalizing s now past before with
  | nil => simp [log] at hlog
  | cons next rest ih =>
    obtain ⟨later, i⟩ := next
    obtain ⟨hlater, hstop⟩ := htimes _ List.mem_cons_self
    obtain ⟨hfirst, hsorted⟩ := List.pairwise_cons.mp hsorted
    rw [log] at hlog hlong
    have hturn := shows_turn h hlater i fun a ha =>
      hlong a (List.mem_append_left _ (Option.mem_toList.mpr ha))
    have hrest {before : List (Access ι)}
        (hlog : (s.turn later i).log rest = before ++ a :: after) := ih hturn hsorted
      (fun turn hmem => ⟨hfirst turn hmem, (htimes turn (List.mem_cons_of_mem _ hmem)).2⟩)
      (fun a ha => hlong a (List.mem_append_right _ ha)) hlog
    cases haccess : s.access? later i with
    | none =>
      rw [haccess] at hlog hrest
      rw [Option.toList_none, List.append_nil] at hrest
      exact hrest hlog
    | some b =>
      rw [haccess, Option.toList_some] at hlog hrest
      cases before with
      | nil =>
        obtain rfl := (List.cons.inj hlog).1
        rw [access?, Option.map_eq_some_iff] at haccess
        obtain ⟨call, -, rfl⟩ := haccess
        obtain rfl : call = .get key := hcall
        rw [List.append_nil]
        exact ⟨(s.cache.get later key).1, rfl, (h.of_le hlater).get hstop⟩
      | cons b' before =>
        obtain ⟨rfl, htail⟩ := List.cons.inj hlog
        rw [List.append_cons]
        exact hrest htail

/-- A client that looks a key up once finds nothing exactly if it does so before the key is set, and
otherwise a value that was set. -/
theorem looksBeforeSet_iff (hempty : s.cache = .empty) {schedule : List (Nat × ι)}
    (hsorted : schedule.Pairwise fun x y => x.1 ≤ y.1)
    (htimes : ∀ turn ∈ schedule, now ≤ turn.1 ∧ turn.1 < stop)
    (hlong : ∀ a ∈ s.log schedule, ∀ value ttl, a.call = .set key value ttl → stop ≤ a.time + ttl)
    {i : ι} {found : Option String}
    (hfound : ∀ answer, (.get key, answer) ∈ own (s.log schedule) i ↔ answer = .found found) :
    (LooksBeforeSet (s.log schedule) key i ↔ found = none) ∧
      ∀ value, found = some value → ∃ b ∈ s.log schedule, b.Sets key value := by
  have hget {before after : List (Access ι)} {a : Access ι}
      (hlog : s.log schedule = before ++ a :: after) (hclient : a.client = i)
      (hcall : a.call = .get key) :
      (∀ value, found = some value → ∃ b ∈ before, b.Sets key value) ∧
        (found = none → ∀ b ∈ before, ∀ value, ¬ b.Sets key value) := by
    have hshows : s.cache.Shows now stop key ([] : List (Access ι)) := by
      rw [hempty]
      exact Cache.shows_empty now stop key
    obtain ⟨found', hanswer, hset⟩ := answer_of_get hshows hsorted htimes hlong hlog hcall
    have ha : a ∈ s.log schedule := by simp [hlog]
    have hsame := (hfound _).mp (mem_own_iff.mpr ⟨a, ha, hclient, hcall, hanswer⟩)
    obtain rfl := CacheAnswer.found.inj hsame
    exact hset
  -- the look-up that was made
  obtain ⟨a, ha, hclient, hcall, -⟩ := mem_own_iff.mp ((hfound _).mpr rfl)
  obtain ⟨before, after, hlog⟩ := List.append_of_mem ha
  refine ⟨⟨?_, fun hnone => ?_⟩, fun value hvalue => ?_⟩
  · rintro ⟨before', b, after', hlog', hclient', hcall', hset⟩
    by_contra hne
    obtain ⟨value, hvalue⟩ := Option.ne_none_iff_exists'.mp hne
    obtain ⟨c, hc, hsets⟩ := (hget hlog' hclient' hcall').1 value hvalue
    exact hset c hc value hsets
  · exact ⟨before, a, after, hlog, hclient, hcall, (hget hlog hclient hcall).2 hnone⟩
  · obtain ⟨b, hb, hsets⟩ := (hget hlog hclient hcall).1 value hvalue
    exact ⟨b, by rw [hlog]; exact List.mem_append_left _ hb, hsets⟩

end

/-- Accesses are made at times of the schedule. -/
theorem exists_mem_schedule {s : Clients ι α} {schedule : List (Nat × ι)} {a : Access ι}
    (h : a ∈ s.log schedule) : ∃ turn ∈ schedule, turn.1 = a.time := by
  induction schedule generalizing s with
  | nil => simp [log] at h
  | cons next rest ih =>
    obtain ⟨now, i⟩ := next
    rw [log, List.mem_append] at h
    rcases h with h | h
    · rw [Option.mem_toList, access?, Option.map_eq_some_iff] at h
      obtain ⟨call, -, rfl⟩ := h
      exact ⟨_, List.mem_cons_self, rfl⟩
    · obtain ⟨turn, hmem, htime⟩ := ih h
      exact ⟨turn, List.mem_cons_of_mem _ hmem, htime⟩

end Clients

end SiteAnalytics
