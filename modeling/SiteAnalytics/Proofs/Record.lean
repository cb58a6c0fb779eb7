import SiteAnalytics.Flow
import SiteAnalytics.Project
import SiteAnalytics.Proofs.Json.Record
import SiteAnalytics.Query.Breakdown
import SiteAnalytics.Query.Errors
import SiteAnalytics.Query.EventMeta
import SiteAnalytics.Request

/-!
# Records are read back

Each kind of records that is both written and read has its names of fields in two places, in the
writer and in the reader, and defaults for what is missing in the reader alone.  The two fit: a
record is read back from its text, in whatever order that lists the members, with nothing lost and
nothing filled in (`records_readBack`).  Texts may have any characters and lists any length; a
number must fit the word it is kept in, which is 64 bits wide and signed for a count and 32 bits
wide without a sign for a level or a place in a list.
-/

namespace SiteAnalytics

open Json (ReadsBack decodeRecord? readsBack_of_members canonical_int64 canonical_nat32 int64?_int
  nat32?_nat)

/-! ### Names -/

/-- Each bucket is found by its name, and so are the other choices below. -/
theorem Bucket.ofName?_name (b : Bucket) : ofName? b.name = some b := by
  cases b <;> decide

theorem RenderMode.ofName?_name (m : RenderMode) : ofName? m.name = some m := by
  cases m <;> decide

theorem PerfMeasure.ofName?_name (m : PerfMeasure) : ofName? m.name = some m := by
  cases m <;> decide

theorem ErrorStatus.ofName?_name (s : ErrorStatus) : ofName? s.name = some s := by
  cases s <;> decide

/-! ### Projects and requests -/

theorem Project.readsBack (p : Project) : ReadsBack fields toJson ofJson? p := by
  -- first every member is canonical, then the reader finds each under its name
  refine readsBack_of_members rfl rfl (by decide) ?_ fun hfields => ?_
  · simp
  · simp [ofJson?, hfields, Dict.lookup_cons]

theorem SavedFunnel.readsBack (f : SavedFunnel) : ReadsBack fields toJson ofJson? f := by
  refine readsBack_of_members rfl rfl (by decide) ?_ fun hfields => ?_
  · simp
  · simp [ofJson?, hfields, Dict.lookup_cons]

/-- A request is read back with all that it leaves out. -/
theorem Request.readsBack (r : Request) : ReadsBack fields toJson ofJson? r := by
  -- the bucket is the one field that is written by its name and may be missing
  have hbucket : Json.option? (Json.name? Bucket.ofName? Json.isNull)
      (Json.option (fun b => .string b.name) r.bucket) = some r.bucket :=
    Json.option?_option rfl Bucket.ofName?_name r.bucket
  refine readsBack_of_members rfl rfl (by decide) ?_ fun hfields => ?_
  · simp [Json.canonical_option]
  · simp [ofJson?, ofJsonWith?, hfields, Dict.lookup_cons, hbucket]

theorem Clause.readsBack (c : Clause) : ReadsBack fields toJson ofJson? c := by
  refine readsBack_of_members rfl rfl (by decide) ?_ fun hfields => ?_
  · simp
  · simp [ofJson?, hfields, Dict.lookup_cons]

/-! ### Rows of the column store -/

theorem FlowEdge.readsBack {e : FlowEdge} (h : Count.InRange e.value) :
    ReadsBack fields toJson ofJson? e := by
  refine readsBack_of_members rfl rfl (by decide) ?_ fun hfields => ?_
  · simp [canonical_int64 h]
  · simp [ofJson?, hfields, Dict.lookup_cons, int64?_int h]

theorem FunnelLevel.readsBack {l : FunnelLevel} (hlevel : l.level < 2 ^ 32)
    (hsessions : Count.InRange l.sessions) : ReadsBack fields toJson ofJson? l := by
  refine readsBack_of_members rfl rfl (by decide) ?_ fun hfields => ?_
  · simp [canonical_nat32 hlevel, canonical_int64 hsessions]
  · simp [ofJson?, hfields, Dict.lookup_cons, nat32?_nat hlevel, int64?_int hsessions]

theorem BreakdownEntry.readsBack {e : BreakdownEntry} (h : Count.InRange e.count) :
    ReadsBack fields toJson ofJson? e := by
  refine readsBack_of_members rfl rfl (by decide) ?_ fun hfields => ?_
  · simp [canonical_int64 h]
  · simp [ofJson?, hfields, Dict.lookup_cons, int64?_int h]

theorem ErrorListing.readsBack {e : ErrorListing} (h : Count.InRange e.count) :
    ReadsBack fields toJson ofJson? e := by
  -- the status is written by its name
  have hstatus : ErrorStatus.ofJson? (.string e.status.name) = some e.status :=
    ErrorStatus.ofName?_name e.status
  refine readsBack_of_members rfl rfl (by decide) ?_ fun hfields => ?_
  · simp [canonical_int64 h]
  · simp [ofJson?, hfields, Dict.lookup_cons, int64?_int h, hstatus]

theorem EventMetaRow.readsBack {r : EventMetaRow} (h : Count.InRange r.count) :
    ReadsBack fields toJson ofJson? r := by
  refine readsBack_of_members rfl rfl (by decide) ?_ fun hfields => ?_
  · simp [canonical_int64 h]
  · simp [ofJson?, hfields, Dict.lookup_cons, int64?_int h]

/-! ### Options -/

theorem ChartOptions.readsBack (o : ChartOptions) : ReadsBack fields toJson ofJson? o := by
  -- mode and measure are written by their names
  have hmode : RenderMode.ofJson? (.string o.mode.name) = some o.mode :=
    RenderMode.ofName?_name o.mode
  have hmeasure : PerfMeasure.ofJson? (.string o.measure.name) = some o.measure :=
    PerfMeasure.ofName?_name o.measure
  refine readsBack_of_members rfl rfl (by decide) ?_ fun hfields => ?_
  · simp
  · simp [ofJson?, hfields, Dict.lookup_cons, hmode, hmeasure]

theorem ErrorListOptions.readsBack {o : ErrorListOptions} (htake : o.take < 2 ^ 32)
    (hskip : o.skip < 2 ^ 32) : ReadsBack fields toJson ofJson? o := by
  refine readsBack_of_members rfl rfl (by decide) ?_ fun hfields => ?_
  · simp [canonical_nat32 htake, canonical_nat32 hskip]
  · simp [ofJson?, hfields, Dict.lookup_cons, nat32?_nat htake, nat32?_nat hskip]

/-! ### All records -/

/-- Whatever a record holds, it is read back from its text. -/
theorem records_readBack :
    (∀ p, ReadsBack Project.fields Project.toJson Project.ofJson? p) ∧
    (∀ f, ReadsBack SavedFunnel.fields SavedFunnel.toJson SavedFunnel.ofJson? f) ∧
    (∀ r, ReadsBack Request.fields Request.toJson Request.ofJson? r) ∧
    (∀ c, ReadsBack Clause.fields Clause.toJson Clause.ofJson? c) ∧
    (∀ e : FlowEdge, Count.InRange e.value →
      ReadsBack FlowEdge.fields FlowEdge.toJson FlowEdge.ofJson? e) ∧
    (∀ l : FunnelLevel, l.level < 2 ^ 32 → Count.InRange l.sessions →
      ReadsBack FunnelLevel.fields FunnelLevel.toJson FunnelLevel.ofJson? l) ∧
    (∀ e : BreakdownEntry, Count.InRange e.count →
      ReadsBack BreakdownEntry.fields BreakdownEntry.toJson BreakdownEntry.ofJson? e) ∧
    (∀ e : ErrorListing, Count.InRange e.count →
      ReadsBack ErrorListing.fields ErrorListing.toJson ErrorListing.ofJson? e) ∧
    (∀ r : EventMetaRow, Count.InRange r.count →
      ReadsBack EventMetaRow.fields EventMetaRow.toJson EventMetaRow.ofJson? r) ∧
    (∀ o, ReadsBack ChartOptions.fields ChartOptions.toJson ChartOptions.ofJson? o) ∧
    (∀ o : ErrorListOptions, o.take < 2 ^ 32 → o.skip < 2 ^ 32 →
      ReadsBack ErrorListOptions.fields ErrorListOptions.toJson ErrorListOptions.ofJson? o) :=
  ⟨Project.readsBack, SavedFunnel.readsBack, Request.readsBack, Clause.readsBack,
    fun _ => FlowEdge.readsBack, fun _ => FunnelLevel.readsBack,
    fun _ => BreakdownEntry.readsBack, fun _ => ErrorListing.readsBack,
    fun _ => EventMetaRow.readsBack, ChartOptions.readsBack, fun _ => ErrorListOptions.readsBack⟩

/-- The deepest level a word can hold, with a count as far below zero as there is one. -/
def deepestLevel : FunnelLevel := ⟨4294967295, -9223372036854775808⟩

/-- A listing with characters that are escaped, no file and the greatest count. -/
def escapedListing : ErrorListing :=
  { eid := "\u0000", name := "\"\\", message := "𝄞\n", filename := none
    count := 9223372036854775807, lastSeen := "", status := .resolved }

/-- A level with its members in the order of its fields, which is not that of their names, and a
listing as it is rendered. -/
theorem records_readBack_extremes :
    decodeRecord? FunnelLevel.fields FunnelLevel.ofJson?
        "\x7b\"level\":4294967295,\"c\":-9223372036854775808\x7d" = some deepestLevel ∧
    decodeRecord? ErrorListing.fields ErrorListing.ofJson? escapedListing.toJson.render =
      some escapedListing := by
  obtain ⟨-, -, -, -, -, hlevel, -, hlisting, -⟩ := records_readBack
  constructor
  · obtain ⟨entries, hjson, hread⟩ := hlevel deepestLevel (by decide) (by decide)
    obtain rfl := Json.object.inj hjson
    have htext : (Json.object
        [("level", .nat 4294967295), ("c", .int (-9223372036854775808))]).render =
          "\x7b\"level\":4294967295,\"c\":-9223372036854775808\x7d" := by decide
    rw [← htext]
    -- the writer lists the count first, the text the level
    exact hread _ (.swap _ _ [])
  · obtain ⟨entries, hjson, hread⟩ := hlisting escapedListing (by decide)
    rw [hjson]
    exact hread entries (.refl _)

end SiteAnalytics
