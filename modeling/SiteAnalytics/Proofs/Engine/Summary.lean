import SiteAnalytics.Proofs.Dict
import SiteAnalytics.Proofs.Engine.Refusal
import SiteAnalytics.Proofs.Store.Join
import SiteAnalytics.Proofs.Summary

/-!
# Summaries of several projects

A summary is made of one comparison for each project, and no project needs another one's.  On a
steady store there is thus a fixed comparison for every project, or a failure (`Compares`), and the
summary of some projects has their comparisons and nothing else, or fails if one of them has none
(`SummaryEnds.eq_ok_iff`).  This is so in whatever order the projects are named, how often, and in
whatever order their queries get to the store.
-/

namespace SiteAnalytics.Engine

open StoreTask

variable (e : Engine) (now : DateTime) (r : Request)

/-! ### One after the other, and at the same time -/

/-- The comparison for a project, with its id. -/
def namedSummary (filter : CompiledFilter) (pid : String) :
    StoreTask (String × PeriodComparison) :=
  e.summaryOf now r filter pid >>= fun c => pure (pid, c)

theorem onlyReads_namedSummary (filter : CompiledFilter) (pid : String) :
    (e.namedSummary now r filter pid).OnlyReads :=
  (e.orderly_summaryOf now r filter pid).onlyReads.bind fun _ => onlyReads_pure _

/-- One project after the other is one of the orders in which they can be asked for. -/
theorem joins_summariesOf (s : ColumnStore) (log : List StoreRequest) (filter : CompiledFilter)
    (pids : List String) :
    Joins s log (pids.map (e.namedSummary now r filter))
      ((e.summariesOf now r filter pids).runOn s log).1 := by
  -- the projects that are done stand before the others
  suffices hrest : ∀ entries log, Joins s log
      ((entries.map fun entry => result (.ok entry)) ++ pids.map (e.namedSummary now r filter))
      (((e.summariesOf now r filter pids).runOn s log).1.map (entries ++ ·)) by
    have hall := hrest [] log
    cases hrun : ((e.summariesOf now r filter pids).runOn s log).1 with
    | error err => rwa [hrun] at hall
    | ok entries => rwa [hrun] at hall
  induction pids with
  | nil =>
    intro entries log
    rw [summariesOf, runOn_pure, List.map_nil, List.append_nil, Except.map, List.append_nil]
    exact .done entries
  | cons pid rest ih =>
    intro entries log
    refine joins_carryOut ?_
    rw [namedSummary, runOn_bind_pure, summariesOf, runOn_bind]
    cases (e.summaryOf now r filter pid).runOn s log with
    | mk outcome log' =>
      cases outcome with
      | error err => exact .failed err
      | ok c =>
        have hnext := ih (entries ++ [(pid, c)]) log'
        rw [List.map_append, List.append_assoc] at hnext
        dsimp only
        rw [runOn_bind_pure]
        cases hrun : ((e.summariesOf now r filter rest).runOn s log').1 with
        | error err => rwa [hrun] at hnext
        | ok more =>
          rw [hrun, Except.map, List.append_assoc] at hnext
          exact hnext

/-- With what a summary can end that asks for all its projects at the same time, on a store that was
asked `log` before. -/
def SummaryEnds (s : ColumnStore) (log : List StoreRequest) (pids : List String)
    (outcome : Except EngineError (Dict PeriodComparison)) : Prop :=
  match Filter.compile r.filters .traffic false with
  | .error cause => outcome = .error (.validation cause)
  | .ok filter => ∃ joined, Joins s log (pids.map (e.namedSummary now r filter)) joined ∧
      outcome = joined.map Dict.ofList

/-- What a summary is answered with, on a store that was asked `log` before. -/
def summaryAnswer (s : ColumnStore) (log : List StoreRequest) (pids : List String) :
    Except EngineError (Dict PeriodComparison) :=
  ((e.summary now r pids).runOn s log).1

theorem summaryEnds_summaryAnswer (s : ColumnStore) (log : List StoreRequest)
    (pids : List String) : e.SummaryEnds now r s log pids (e.summaryAnswer now r s log pids) := by
  rw [SummaryEnds, summaryAnswer, summary]
  cases hfilter : Filter.compile r.filters .traffic false with
  | error cause =>
    rw [runOn_bind_of_error (runOn_of_error rfl)]
    rfl
  | ok filter =>
    rw [runOn_bind_of_ok (runOn_of_ok rfl), runOn_bind_pure]
    exact ⟨_, e.joins_summariesOf now r s log filter pids, rfl⟩

/-! ### The comparison of a project -/

/-- The comparison of a project in every summary of it. -/
def Compares (s : ColumnStore) (pid : String) (c : PeriodComparison) : Prop :=
  ∃ filter, Filter.compile r.filters .traffic false = .ok filter ∧
    ((e.summaryOf now r filter pid).runOn s []).1 = .ok c

/-- The rows that the store has for the comparison of a project. -/
def HasRows (s : ColumnStore) (filter : CompiledFilter) (pid : String) (rows : List SummaryRow) :
    Prop :=
  ∃ p w, e.registry.project? pid = some p ∧
    ((e.window now { r with pid } p (MetricKind.traffic.table filter)).runOn s []).1 = .ok w ∧
    (r.isAllTime = false → w.previous?.isSome) ∧
    ReadsAs SummaryRow.ofJson?
      (s.query [] (.summary pid w filter (if r.isAllTime then none else w.previous?))) rows

variable {e now r} {s : ColumnStore} {log : List StoreRequest} {pids : List String}

theorem Compares.unique {pid : String} {c c' : PeriodComparison} (h : e.Compares now r s pid c)
    (h' : e.Compares now r s pid c') : c = c' := by
  obtain ⟨filter, hfilter, hrun⟩ := h
  obtain ⟨filter', hfilter', hrun'⟩ := h'
  obtain rfl : filter = filter' := Except.ok.inj (hfilter.symm.trans hfilter')
  exact Except.ok.inj (hrun.symm.trans hrun')

theorem runOn_previousWindow_eq_ok {w : Window} {allTime : Bool}
    {previous : Option (DateTime × DateTime)} {log' : List StoreRequest}
    (h : (previousWindow w allTime).runOn s log = (.ok previous, log')) :
    (allTime = false → w.previous?.isSome) ∧
      (if allTime then none else w.previous?) = previous := by
  cases allTime with
  | true =>
    obtain rfl := Except.ok.inj (congrArg Prod.fst h)
    exact ⟨nofun, rfl⟩
  | false =>
    cases hprevious : w.previous? with
    | none =>
      rw [previousWindow, hprevious] at h
      cases h
    | some bounds =>
      rw [previousWindow, hprevious] at h
      obtain rfl := Except.ok.inj (congrArg Prod.fst h)
      exact ⟨fun _ => rfl, rfl⟩

/-- A comparison is made of the rows that the store has for it. -/
theorem Compares.exists_rows (hs : s.Steady) {pid : String} {c : PeriodComparison}
    (h : e.Compares now r s pid c) :
    ∃ filter rows, Filter.compile r.filters .traffic false = .ok filter ∧
      e.HasRows now r s filter pid rows ∧
      c = .ofRows rows filter.customEvents r.isAllTime := by
  obtain ⟨filter, hfilter, hrun⟩ := h
  rw [summaryOf] at hrun
  obtain ⟨p, log, hproject, hrun⟩ := runOn_bind_eq_ok_iff.mp hrun
  obtain ⟨w, log', hwindow, hrun⟩ := runOn_bind_eq_ok_iff.mp hrun
  obtain ⟨previous, log'', hprevious, hrun⟩ := runOn_bind_eq_ok_iff.mp hrun
  obtain ⟨rows, _, hrows, hc⟩ := runOn_bind_eq_ok_iff.mp hrun
  obtain ⟨hp, rfl⟩ : e.registry.project? pid = some p ∧ [] = log := by
    rw [project, runOn_orElse, Prod.mk.injEq] at hproject
    cases hp : e.registry.project? pid <;> simp_all
  obtain ⟨hlegal, rfl⟩ := runOn_previousWindow_eq_ok hprevious
  refine ⟨filter, rows, hfilter, ⟨p, w, hp, by rw [hwindow], hlegal, ?_⟩, (Except.ok.inj hc).symm⟩
  rw [hs [] log'', ← ofAnswer_eq_ok_iff]
  exact congrArg Prod.fst hrows

/-- Results under names are good if the results are, and the names stay what they are. -/
theorem map_named_eq_map_ok {α : Type} {f : String → Except EngineError α}
    {entries : List (String × α)}
    (h : (pids.map fun pid => (f pid).map (pid, ·)) = entries.map .ok) :
    entries.map Prod.fst = pids ∧ ∀ entry ∈ entries, f entry.1 = .ok entry.2 := by
  induction pids generalizing entries with
  | nil => simp_all
  | cons pid rest ih =>
    cases entries with
    | nil => contradiction
    | cons entry entries =>
      rw [List.map_cons, List.map_cons, List.cons.injEq] at h
      obtain ⟨hhead, hrest⟩ := h
      obtain ⟨hnames, hresults⟩ := ih hrest
      cases hresult : f pid with
      | error err => rw [hresult] at hhead; contradiction
      | ok c =>
        rw [hresult] at hhead
        obtain rfl := Except.ok.inj hhead
        exact ⟨congrArg (pid :: ·) hnames, List.forall_mem_cons.mpr ⟨hresult, hresults⟩⟩

/-- How a summary ends on a steady store: with the comparisons of its projects, or because one of
them has none. -/
theorem SummaryEnds.cases (hs : s.Steady) {outcome : Except EngineError (Dict PeriodComparison)}
    (h : e.SummaryEnds now r s log pids outcome) (hpids : pids ≠ []) :
    (∃ entries, outcome = .ok (Dict.ofList entries) ∧ entries.map Prod.fst = pids ∧
      ∀ entry ∈ entries, e.Compares now r s entry.1 entry.2) ∨
    ∃ err, outcome = .error err ∧ ∃ pid ∈ pids, ∀ c, ¬e.Compares now r s pid c := by
  rw [SummaryEnds] at h
  cases hfilter : Filter.compile r.filters .traffic false with
  | error cause =>
    rw [hfilter] at h
    obtain ⟨pid, hpid⟩ := List.exists_mem_of_ne_nil pids hpids
    refine .inr ⟨_, h, pid, hpid, ?_⟩
    rintro c ⟨filter, hfilter', -⟩
    rw [hfilter] at hfilter'
    contradiction
  | ok filter =>
    rw [hfilter] at h
    obtain ⟨joined, hjoined, rfl⟩ := h
    have hresults := hjoined.isOutcome hs
      (List.forall_mem_map.mpr fun pid _ => e.onlyReads_namedSummary now r filter pid) []
    rw [List.map_map] at hresults
    have hnamed : (fun t => (runOn s [] t).1) ∘ e.namedSummary now r filter = fun pid =>
        ((e.summaryOf now r filter pid).runOn s []).1.map (pid, ·) := by
      funext pid
      rw [Function.comp_apply, namedSummary, runOn_bind_pure]
    rw [hnamed] at hresults
    cases joined with
    | ok entries =>
      obtain ⟨hnames, hentries⟩ := map_named_eq_map_ok hresults
      exact .inl ⟨entries, rfl, hnames, fun entry hentry =>
        ⟨filter, hfilter, hentries entry hentry⟩⟩
    | error err =>
      obtain ⟨pid, hpid, herr⟩ := List.mem_map.mp hresults
      refine .inr ⟨err, rfl, pid, hpid, ?_⟩
      rintro c ⟨filter', hfilter', hrun⟩
      obtain rfl : filter = filter' := Except.ok.inj (hfilter.symm.trans hfilter')
      rw [hrun] at herr
      contradiction

/-- In comparisons of projects there is found what is compared for each. -/
theorem get?_ofList_iff_compares {entries : List (String × PeriodComparison)}
    (hentries : ∀ entry ∈ entries, e.Compares now r s entry.1 entry.2) {pid : String}
    {c : PeriodComparison} : (Dict.ofList entries).get? pid = some c ↔
      pid ∈ entries.map Prod.fst ∧ e.Compares now r s pid c := by
  have hfound {c : PeriodComparison} (hget : (Dict.ofList entries).get? pid = some c) :
      pid ∈ entries.map Prod.fst ∧ e.Compares now r s pid c := by
    have hmem := Dict.mem_of_mem_entries_ofList (Dict.get?_eq_some_iff_mem.mp hget)
    exact ⟨List.mem_map_of_mem hmem, hentries _ hmem⟩
  refine ⟨hfound, fun ⟨hpid, hc⟩ => ?_⟩
  obtain ⟨c', hget⟩ := Dict.mem_keys_iff.mp (Dict.mem_keys_ofList_iff.mpr hpid)
  rw [hget, (hfound hget).2.unique hc]

/-- A summary is good if every project has a comparison, and it is then made of these. -/
theorem SummaryEnds.eq_ok_iff (hs : s.Steady) {outcome : Except EngineError (Dict PeriodComparison)}
    (h : e.SummaryEnds now r s log pids outcome) (hpids : pids ≠ []) {d : Dict PeriodComparison} :
    outcome = .ok d ↔ (∀ pid ∈ pids, ∃ c, e.Compares now r s pid c) ∧
      ∀ pid c, d.get? pid = some c ↔ pid ∈ pids ∧ e.Compares now r s pid c := by
  obtain ⟨entries, rfl, rfl, hentries⟩ | ⟨err, rfl, pid, hpid, hnone⟩ := h.cases hs hpids
  · rw [Except.ok.injEq]
    constructor
    · rintro rfl
      refine ⟨fun pid hpid => ?_, fun pid c => get?_ofList_iff_compares hentries⟩
      obtain ⟨entry, hentry, rfl⟩ := List.mem_map.mp hpid
      exact ⟨entry.2, hentries entry hentry⟩
    · rintro ⟨-, hd⟩
      exact Dict.ext_get? fun pid => Option.ext fun c =>
        (get?_ofList_iff_compares hentries).trans (hd pid c).symm
  · constructor
    · intro h
      contradiction
    · rintro ⟨hall, -⟩
      obtain ⟨c, hc⟩ := hall pid hpid
      exact absurd hc (hnone c)

/-- A summary is good if and only if every project has a comparison. -/
theorem SummaryEnds.exists_ok_iff (hs : s.Steady)
    {outcome : Except EngineError (Dict PeriodComparison)}
    (h : e.SummaryEnds now r s log pids outcome) (hpids : pids ≠ []) :
    (∃ d, outcome = .ok d) ↔ ∀ pid ∈ pids, ∃ c, e.Compares now r s pid c := by
  constructor
  · rintro ⟨d, hd⟩
    exact ((h.eq_ok_iff hs hpids).mp hd).1
  · intro hall
    obtain ⟨entries, hentries, -⟩ | ⟨-, -, pid, hpid, hnone⟩ := h.cases hs hpids
    · exact ⟨_, hentries⟩
    · obtain ⟨c, hc⟩ := hall pid hpid
      exact absurd hc (hnone c)

/-! ### The summary of a single project -/

theorem summaryAnswer_single (hs : s.Steady) {pid : String} {c : PeriodComparison}
    (hc : e.Compares now r s pid c) :
    e.summaryAnswer now r s log [pid] = .ok (Dict.ofList [(pid, c)]) := by
  have hends := e.summaryEnds_summaryAnswer now r s log [pid]
  have hentry : ∀ entry ∈ [(pid, c)], e.Compares now r s entry.1 entry.2 := by simpa using hc
  exact (hends.eq_ok_iff hs (List.cons_ne_nil _ _)).mpr
    ⟨by simpa using ⟨c, hc⟩, fun pid' c' => get?_ofList_iff_compares hentry⟩

/-- **A summary is made of the summaries of its projects.** On a steady store it is good if those of
the single projects are, and has their comparisons and no others, in whatever order the projects are
named, how often, and in whatever order the store is asked for them. A comparison is made of the
rows that the store has for it: of the first one with the tag of the current window and the first
one with the tag of the previous window, unless all time is asked for, which is compared with
nothing. Rows with other tags do not matter, and neither does the order of rows with different
tags. -/
theorem summary_of_singles (e : Engine) (now : DateTime) (r : Request) {s : ColumnStore}
    (hs : s.Steady) {pids : List String} (hpids : pids ≠ []) (log log' : List StoreRequest) :
    ((∃ d, e.summaryAnswer now r s log pids = .ok d) ↔
      ∀ pid ∈ pids, ∃ d, e.summaryAnswer now r s log' [pid] = .ok d) ∧
    (∀ d, e.summaryAnswer now r s log pids = .ok d →
      (∀ pid, pid ∈ d.keys ↔ pid ∈ pids) ∧
      ∀ pid ∈ pids, ∃ c, d.get? pid = some c ∧
        e.summaryAnswer now r s log' [pid] = .ok (Dict.ofList [(pid, c)]) ∧
        ∃ filter rows, Filter.compile r.filters .traffic false = .ok filter ∧
          e.HasRows now r s filter pid rows ∧
          c = .ofRows rows filter.customEvents r.isAllTime) ∧
    (∀ pids', (∀ pid, pid ∈ pids' ↔ pid ∈ pids) → ∀ d,
      (e.summaryAnswer now r s log' pids' = .ok d ↔ e.summaryAnswer now r s log pids = .ok d) ∧
      ∀ outcome, e.SummaryEnds now r s log' pids' outcome →
        (outcome = .ok d ↔ e.summaryAnswer now r s log pids = .ok d)) ∧
    ∀ rows customEvents allTime,
      PeriodComparison.ofRows rows customEvents allTime =
        .compare (.ofRow (rows.find? fun row => row.tag == 1) customEvents)
          (if allTime then .zero
            else .ofRow (rows.find? fun row => row.tag == 2) customEvents) ∧
      ∀ rows', (∀ tag ∈ [1, 2], (rows'.filter fun row => row.tag == tag) =
          rows.filter fun row => row.tag == tag) →
        PeriodComparison.ofRows rows' customEvents allTime =
          PeriodComparison.ofRows rows customEvents allTime := by
  have hends := e.summaryEnds_summaryAnswer now r s log pids
  have hsame : ∀ pids', (∀ pid, pid ∈ pids' ↔ pid ∈ pids) → ∀ d outcome,
      e.SummaryEnds now r s log' pids' outcome →
        (outcome = .ok d ↔ e.summaryAnswer now r s log pids = .ok d) := by
    intro pids' hmem d outcome houtcome
    have hpids' : pids' ≠ [] := by
      obtain ⟨pid, hpid⟩ := List.exists_mem_of_ne_nil pids hpids
      exact List.ne_nil_of_mem ((hmem pid).mpr hpid)
    rw [houtcome.eq_ok_iff hs hpids', hends.eq_ok_iff hs hpids]
    simp only [hmem]
  refine ⟨?_, fun d hd => ?_, fun pids' hmem d => ⟨?_, fun outcome => hsame pids' hmem d outcome⟩,
    fun rows customEvents allTime => ⟨?_, fun rows' hrows => ?_⟩⟩
  · rw [hends.exists_ok_iff hs hpids]
    refine forall₂_congr fun pid _ => ?_
    have hsingle := e.summaryEnds_summaryAnswer now r s log' [pid]
    rw [hsingle.exists_ok_iff hs (List.cons_ne_nil _ _)]
    simp
  · obtain ⟨hall, hget⟩ := (hends.eq_ok_iff hs hpids).mp hd
    refine ⟨fun pid => ?_, fun pid hpid => ?_⟩
    · simp only [Dict.mem_keys_iff, hget, exists_and_left]
      exact and_iff_left_of_imp (hall pid)
    · obtain ⟨c, hc⟩ := hall pid hpid
      exact ⟨c, (hget pid c).mpr ⟨hpid, hc⟩, summaryAnswer_single hs hc, hc.exists_rows hs⟩
  · exact hsame pids' hmem d _ (e.summaryEnds_summaryAnswer now r s log' pids')
  · exact PeriodComparison.ofRows_eq rows customEvents allTime
  · exact PeriodComparison.ofRows_congr (hrows 1 (by simp)) (hrows 2 (by simp)) customEvents allTime

/-- Two projects, in disorder and with one of them named twice; a third one is not known. Of the
four rows of the first project two count. -/
theorem summary_of_singles_twoProjects :
    let e : Engine :=
      ⟨.standard, (Registry.empty.addProject (.bare "a")).addProject (.bare "b"), .listed⟩
    let r : Request := ⟨"", some "7d", none, none, none, none, none⟩
    let now := DateTime.ofSecond 1710510330
    let row (tag views : Int) : Json :=
      .ofMembers [("sortOrder", .int tag), ("all", .int views), ("unique", .int 1)]
    let s : ColumnStore :=
      { query := fun _ q => .ok (match q.params.get? "pid" with
          | some (.text "a") => [row 2 5, row 7 9, row 1 8, row 1 0]
          | _ => [])
        execute := fun _ _ => .ok () }
    let rows : List SummaryRow :=
      [⟨2, 5, 1, none⟩, ⟨7, 9, 1, none⟩, ⟨1, 8, 1, none⟩, ⟨1, 0, 1, none⟩]
    s.Steady ∧
      (∃ d, e.summaryAnswer now r s [] ["b", "a", "b"] = .ok d ∧
        e.summaryAnswer now r s [] ["a", "b"] = .ok d ∧
        ∀ pid, pid ∈ d.keys ↔ pid ∈ ["a", "b"]) ∧
      (¬∃ d, e.summaryAnswer now r s [] ["a", "c"] = .ok d) ∧
      (PeriodComparison.ofRows rows false false).viewsChange = 3 := by
  intro e r now row s rows
  have hs : s.Steady := fun _ _ _ => rfl
  have hgood {pid : String} (h : (e.summaryAnswer now r s [] [pid]).isOk = true) :
      ∃ d, e.summaryAnswer now r s [] [pid] = .ok d := by
    cases hanswer : e.summaryAnswer now r s [] [pid] with
    | ok d => exact ⟨d, rfl⟩
    | error err => rw [hanswer] at h; contradiction
  have ha : ∃ d, e.summaryAnswer now r s [] ["a"] = .ok d := hgood (by decide +kernel)
  have hb : ∃ d, e.summaryAnswer now r s [] ["b"] = .ok d := hgood (by decide +kernel)
  have hc : (e.summaryAnswer now r s [] ["c"]).isOk = false := by decide +kernel
  have hmem : ∀ pid, pid ∈ ["a", "b"] ↔ pid ∈ ["b", "a", "b"] := by simp
  obtain ⟨hok, hentries, hsame, hrows⟩ :=
    summary_of_singles e now r hs (List.cons_ne_nil "b" ["a", "b"]) [] []
  obtain ⟨d, hd⟩ := hok.mpr (by simp [ha, hb])
  have hkeys := (hentries d hd).1
  refine ⟨hs, ⟨d, hd, (hsame _ hmem d).1.mpr hd, fun pid => (hkeys pid).trans (hmem pid).symm⟩,
    ?_, ?_⟩
  · rw [(summary_of_singles e now r hs (List.cons_ne_nil "a" ["c"]) [] []).1]
    intro hall
    obtain ⟨d', hd'⟩ := hall "c" (by simp)
    rw [hd'] at hc
    contradiction
  · rw [(hrows rows false false).1]
    rfl

end SiteAnalytics.Engine
