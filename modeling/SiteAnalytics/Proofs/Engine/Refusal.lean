import Mathlib.Data.List.Basic
import SiteAnalytics.Proofs.Engine.Operation

/-!
# Refused requests

Operations on the events of a project go through three stages: checks that need no store, the window
of the request, and the data.  Only the first two can refuse the request, and of these only the
window can ask the store, namely for the first event of the project if the request is for all time.
A request that is refused has therefore not been seen by the store, apart from that one query
(`Operation.asked_of_isRefusal`).

`Orderly` says this of a task, and that the task gives no command.  It holds of a check followed by
an orderly task (`Orderly.of_check`) and of a window followed by what only fetches
(`orderly_window_bind`), and every operation is made of these two.
-/

namespace SiteAnalytics

open StoreTask

variable {α β : Type}

/-! ### Stages of a task -/

/-- The task asks the store nothing. -/
def StoreTask.AsksNothing (t : StoreTask α) : Prop := t.Ensures fun asked _ => asked = []

theorem StoreTask.asksNothing_of {ε : Type} [Coe ε EngineError] (r : Except ε α) :
    (of r).AsksNothing :=
  ensures_result rfl

/-- A look-up outside the store asks nothing. -/
theorem StoreTask.asksNothing_orElse (e : EngineError) (o : Option α) : (orElse e o).AsksNothing :=
  ensures_orElse rfl

theorem Request.isAllTime_iff (r : Request) : r.isAllTime = true ↔
    (r.start = none ∨ r.stop = none) ∧ ∃ raw ∈ r.period, Text.trim raw = "all" := by
  cases r with
  | mk pid period start stop timezone bucket filters =>
    cases period <;> cases start <;> cases stop <;> simp [isAllTime]

/-- What the store may have been asked when a request is refused. -/
def Request.Unseen (r : Request) (asked : List StoreRequest) : Prop :=
  asked = [] ∨ r.isAllTime = true ∧ ∃ table, asked = [.query (.firstEvent r.pid table)]

/-- The task gives no command, and if it refuses the request `r`, it has not asked for data. -/
def StoreTask.Orderly (r : Request) (t : StoreTask α) : Prop :=
  t.Ensures fun asked result =>
    (∀ q, .execute q ∉ asked) ∧ ∀ e, result = .error e → e.IsRefusal → r.Unseen asked

/-- An orderly task gives no command. -/
theorem StoreTask.Orderly.onlyReads {r : Request} {t : StoreTask α} (ht : t.Orderly r) :
    t.OnlyReads :=
  ht.mono fun _ _ h => h.1

/-- Checks come before everything else. -/
theorem StoreTask.Orderly.of_check {r : Request} {t : StoreTask α} {f : α → StoreTask β}
    (ht : t.AsksNothing) (hf : ∀ a, (f a).Orderly r) : (t >>= f).Orderly r := by
  -- the check fails without a query, or it leaves the log as it was
  refine Ensures.bind ht ?_ ?_
  · rintro asked e rfl
    exact ⟨nofun, fun _ _ _ => .inl rfl⟩
  · rintro asked a rfl
    exact hf a

namespace Engine

variable (e : Engine) (now : DateTime) (r : Request)

theorem asksNothing_project (pid : String) : (e.project pid).AsksNothing :=
  asksNothing_orElse _ _

/-- The first event is asked for if the request is for all time. -/
theorem ensures_timeframe (p : Project) (table : EventTable) :
    (e.timeframe now r p table).Ensures fun asked _ =>
      asked = [] ∨ r.isAllTime = true ∧ asked = [.query (.firstEvent r.pid table)] := by
  rw [timeframe]
  -- the first event is only needed for all time
  split
  · rename_i hall
    have hfetch : (fetch FirstEventRow.ofJson? (Query.firstEvent r.pid table)).Ensures
        fun asked _ => asked = [.query (.firstEvent r.pid table)] :=
      ensures_fetch (fun _ => rfl) fun _ => rfl
    refine hfetch.bind ?_ ?_
    · rintro asked _ rfl
      exact .inr ⟨hall, rfl⟩
    · rintro asked rows rfl
      split
      · exact ensures_result (.inr ⟨hall, rfl⟩)
      · exact ensures_pure (.inr ⟨hall, rfl⟩)
  · exact ensures_pure (.inl rfl)

/-- The window asks no more than its timeframe. -/
theorem ensures_window (p : Project) (table : EventTable) :
    (e.window now r p table).Ensures fun asked _ =>
      asked = [] ∨ r.isAllTime = true ∧ asked = [.query (.firstEvent r.pid table)] := by
  refine Ensures.bind (e.ensures_timeframe now r p table) (fun _ _ h => h) ?_
  intro asked frame hasked
  refine ensures_result ?_
  rwa [List.append_nil]

/-- After the window nothing is refused. -/
theorem orderly_window_bind (p : Project) (table : EventTable) {f : Window → StoreTask α}
    (hf : ∀ w, (f w).Fetches) : (e.window now r p table >>= f).Orderly r := by
  -- the window may be refused after its query; what follows only fetches
  refine Ensures.bind (e.ensures_window now r p table) ?_ ?_
  · rintro asked err (rfl | ⟨hall, rfl⟩)
    · exact ⟨nofun, fun _ _ _ => .inl rfl⟩
    · exact ⟨by simp, fun _ _ _ => .inr ⟨hall, table, rfl⟩⟩
  · intro asked w hasked
    refine (hf w).mono fun more result hmore => ⟨?_, ?_⟩
    · obtain rfl | ⟨-, rfl⟩ := hasked
      · exact hmore.1
      · simpa using hmore.1
    · exact fun err herr hrefusal => absurd hrefusal (hmore.2 err herr)

/-! ### Data -/

theorem fetches_chartSeries (kind : MetricKind) (options : ChartOptions) (axis : Axis)
    (q : Query) : (chartSeries kind options axis q).Fetches := by
  rw [chartSeries]
  split
  · exact (fetches_fetch _ q).bind fun _ => fetches_pure _
  · exact (fetches_fetch _ q).bind fun _ => fetches_pure _

/-- Breakdowns are fetched one after the other, and so they only fetch. -/
theorem fetches_breakdownsBy (pid : String) (kind : MetricKind) (w : Window)
    (filter : CompiledFilter) (columns : List String) :
    (breakdownsBy pid kind w filter columns).Fetches := by
  induction columns with
  | nil => exact fetches_pure _
  | cons column rest ih =>
    exact (fetches_fetch _ _).bind fun _ => ih.bind fun _ => fetches_pure _

/-- The window before may leave the calendar, which is no refusal. -/
theorem fetches_previousWindow (w : Window) (allTime : Bool) :
    (previousWindow w allTime).Fetches := by
  rw [previousWindow]
  split
  · exact fetches_pure _
  · exact (fetches_orElse id _).bind fun _ => fetches_pure _

/-! ### Operations -/

/-- A chart is a check of project and filters, a window and a query. -/
theorem orderly_chart (kind : MetricKind) (options : ChartOptions) :
    (e.chart now r kind options).Orderly r := by
  refine .of_check (e.asksNothing_project r.pid) fun p => ?_
  refine .of_check (asksNothing_of _) fun filter => ?_
  refine e.orderly_window_bind now r p _ fun w => ?_
  refine (fetches_orElse id _).bind fun axis => ?_
  exact (fetches_chartSeries kind options axis _).bind fun _ => fetches_pure _

/-- A funnel has its steps checked first, and has no filters. -/
theorem orderly_funnel (steps : List String) : (e.funnel now r steps).Orderly r := by
  refine .of_check (asksNothing_of _) fun _ => ?_
  refine .of_check (e.asksNothing_project r.pid) fun p => ?_
  refine e.orderly_window_bind now r p _ fun w => ?_
  exact (fetches_fetch _ _).bind fun _ => fetches_pure _

/-- A saved funnel is looked up and then runs as a funnel. -/
theorem orderly_savedFunnel (id : String) : (e.savedFunnel now r id).Orderly r :=
  .of_check (asksNothing_orElse _ _) fun saved => e.orderly_funnel now r saved.steps

theorem orderly_userFlow : (e.userFlow now r).Orderly r := by
  refine .of_check (e.asksNothing_project r.pid) fun p => ?_
  refine .of_check (asksNothing_of _) fun filter => ?_
  refine e.orderly_window_bind now r p _ fun w => ?_
  exact (fetches_fetch _ _).bind fun _ => fetches_pure _

/-- Breakdowns have their columns checked first. -/
theorem orderly_breakdown (kind : MetricKind) (columns : Option (List String)) :
    (e.breakdown now r kind columns).Orderly r := by
  refine .of_check (asksNothing_of _) fun columns => ?_
  refine .of_check (e.asksNothing_project r.pid) fun p => ?_
  refine .of_check (asksNothing_of _) fun filter => ?_
  refine e.orderly_window_bind now r p _ fun w => ?_
  exact (fetches_breakdownsBy r.pid kind w filter columns).bind fun _ => fetches_pure _

theorem orderly_errors (options : ErrorListOptions) :
    (e.errors now r options).Orderly r := by
  refine .of_check (e.asksNothing_project r.pid) fun p => ?_
  refine .of_check (asksNothing_of _) fun filter => ?_
  exact e.orderly_window_bind now r p _ fun w => fetches_fetch _ _

theorem orderly_eventMeta (event : String) : (e.eventMeta now r event).Orderly r := by
  refine .of_check (e.asksNothing_project r.pid) fun p => ?_
  refine .of_check (asksNothing_of _) fun filter => ?_
  exact e.orderly_window_bind now r p _ fun w => fetches_fetchOrNothing _ _

/-- A single summary is about a project of its own. -/
theorem orderly_summaryOf (filter : CompiledFilter) (pid : String) :
    (e.summaryOf now r filter pid).Orderly { r with pid } := by
  refine .of_check (e.asksNothing_project pid) fun p => ?_
  refine e.orderly_window_bind now { r with pid } p _ fun w => ?_
  refine (fetches_previousWindow w _).bind fun previous => ?_
  exact (fetches_fetch _ _).bind fun _ => fetches_pure _

end Engine

namespace Operation

/-- Every operation on the events of one project is orderly. -/
theorem orderly_task (e : Engine) (now : DateTime) {o : Operation} {r : Request}
    (ho : o.request? = some r) : (o.task e now).Orderly r := by
  cases o <;> (first | contradiction | obtain rfl := Option.some.inj ho)
  case chart r kind options => exact e.orderly_chart now r kind options
  case funnel r steps => exact e.orderly_funnel now r steps
  case savedFunnel r id => exact e.orderly_savedFunnel now r id
  case userFlow r => exact e.orderly_userFlow now r
  case breakdown r kind columns => exact e.orderly_breakdown now r kind columns
  case errors r options => exact e.orderly_errors now r options
  case eventMeta r event => exact e.orderly_eventMeta now r event

/-- **Invalid requests never reach the data.** If an operation on the events of one project refuses
its request, whether as invalid or because something it names does not exist, the column store has
been asked nothing, or it has been asked for the first event of that project, and this only if the
request is for all time: for the period `all`, blanks around it aside, without both ends of an
explicit pair. -/
theorem asked_of_isRefusal (e : Engine) (now : DateTime) {o : Operation} {r : Request}
    (ho : o.request? = some r) (s : ColumnStore) (log : List StoreRequest) {err : EngineError}
    (hrun : ((o.task e now).runOn s log).1 = .error err) (hrefusal : err.IsRefusal) :
    ((o.task e now).runOn s log).2 = log ∨
      ((r.start = none ∨ r.stop = none) ∧ ∃ raw ∈ r.period, Text.trim raw = "all") ∧
        ∃ table, ((o.task e now).runOn s log).2 = log ++ [.query (.firstEvent r.pid table)] := by
  -- every run keeps to what its task ensures
  obtain ⟨asked, hlog, hasked⟩ := orderly_task e now ho s log
  obtain rfl | ⟨hall, table, rfl⟩ := hasked.2 err hrun hrefusal
  · exact .inl (by rw [hlog, List.append_nil])
  · exact .inr ⟨r.isAllTime_iff.mp hall, table, hlog⟩

/-- All time of a project whose first event lies centuries back is too long to be charted. That is
known only after the one query. -/
theorem asked_of_isRefusal_tooLong :
    let e : Engine := ⟨.standard, Registry.empty.addProject (.bare "abcdefghijkl"), .listed⟩
    let r : Request := ⟨"abcdefghijkl", some " all", none, some "2024-03-01", none, none, none⟩
    let o := errors r .standard
    let s : ColumnStore :=
      { query := fun _ _ => .ok [.object [("first_event", .string "1600-01-01 00:00:00")]]
        execute := fun _ _ => .ok () }
    let run := (o.task e (DateTime.ofSecond 1710510330)).runOn s []
    o.request? = some r ∧ run.1 = .error (.validation .rangeTooLarge) ∧
      ∃ table, run.2 = [.query (.firstEvent "abcdefghijkl" table)] := by
  intro e r o s run
  have hrun : ((e.errors (DateTime.ofSecond 1710510330) r .standard).runOn s []).1 =
      .error (.validation .rangeTooLarge) := by
    decide +kernel
  have hasked : run.2.isEmpty = false := by decide +kernel
  refine ⟨rfl, hrun, ?_⟩
  obtain hlog | ⟨-, table, hlog⟩ :=
    asked_of_isRefusal e (DateTime.ofSecond 1710510330) (o := o) rfl s [] hrun trivial
  · have hnil : run.2 = [] := hlog
    rw [hnil] at hasked
    contradiction
  · exact ⟨table, hlog⟩

end Operation

end SiteAnalytics
