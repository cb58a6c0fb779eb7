import SiteAnalytics.Proofs.Filter.Group
import SiteAnalytics.Proofs.Json.RoundTrip
import SiteAnalytics.Proofs.Text.Blank

/-!
# Reported filters as filters of a request

A response reports the clauses that were compiled.  Fed back as the filters of a request, they are
the same clauses again (`Clause.parseList_render`): a reported clause has at most one value, so that
it expands into itself.  None of them is refused or left out the second time, and a compiled filter
depends on the clauses that were kept alone; so it is the same as well, which is `compile_reported`.
-/

namespace SiteAnalytics

namespace Clause

/-! ### Reading a clause -/

/-- The members of a clause are listed in order as they are. -/
theorem toJson_eq (c : Clause) :
    c.toJson = .object [("column", .string c.column), ("filter", .option .string c.value),
      ("isExclusive", .bool c.exclusive)] := by
  have hfilter : "column" < "filter" := by decide
  have hexclusive : "filter" < "isExclusive" := by decide
  rw [toJson, Json.ofMembers, Dict.entries_ofList]
  refine .cons ?_ (.cons ?_ (List.pairwise_singleton _ _))
  · exact List.forall_mem_cons.mpr
      ⟨hfilter, List.forall_mem_singleton.mpr (String.lt_trans hfilter hexclusive)⟩
  · exact List.forall_mem_singleton.mpr hexclusive

theorem canonical_toJson (depth : Nat) (c : Clause) : Json.Canonical (depth + 1) c.toJson := by
  apply Json.canonical_ofMembers
  rw [List.forall_mem_cons, List.forall_mem_cons, List.forall_mem_singleton]
  exact ⟨.string _, Json.canonical_option fun s _ => .string s, .bool _⟩

/-- A clause expands into itself. -/
theorem expand?_toJson (c : Clause) : expand? c.toJson = some [c] := by
  obtain ⟨column, value, exclusive⟩ := c
  rw [toJson_eq]
  cases value <;> rfl

theorem expandAll?_map_toJson (clauses : List Clause) :
    expandAll? (clauses.map toJson) = some clauses := by
  induction clauses with
  | nil => rfl
  | cons c rest ih => rw [List.map_cons, expandAll?, expand?_toJson, ih]; rfl

/-! ### Reading a list of clauses -/

/-- The text of a list has brackets at its ends, and nothing to trim. -/
theorem trimmed?_render_list {α : Type} (f : α → Json) (as : List α) :
    Text.trimmed? (Json.list f as).render = some (Json.list f as).render := by
  have hfirst : (Json.list f as).render.toList = '[' :: (Json.itemChars (as.map f) ++ [']']) := by
    rw [Json.render, String.toList_ofList]
    rfl
  have hlast : (Json.list f as).render.toList = ('[' :: Json.itemChars (as.map f)) ++ [']'] :=
    hfirst
  exact Text.trimmed?_eq hfirst rfl hlast rfl

/-- Clauses are read again from their text. -/
theorem parseList_render (clauses : List Clause) :
    parseList (some (Json.list toJson clauses).render) = .ok clauses := by
  have hcanonical : Json.Canonical Json.maxDepth (Json.list toJson clauses) :=
    Json.canonical_list fun c _ => canonical_toJson _ c
  unfold parseList
  rw [Option.bind_some, trimmed?_render_list]
  simp only [Json.parse?_render hcanonical]
  rw [Json.list, listOf, expandAll?_map_toJson]

end Clause

namespace Filter

/-- **Reported clauses can be fed back.** The clauses that are reported are those of the request
that are not left out.  Read from their text they are the same clauses, and they compile to the same
filter. -/
theorem compile_reported {raw : Option String} {kind : MetricKind} {ignoreEvents : Bool}
    {f : CompiledFilter} (h : compile raw kind ignoreEvents = .ok f) :
    (∃ clauses, Clause.parseList raw = .ok clauses ∧
      f.clauses = clauses.filter fun c => !isIgnored ignoreEvents c) ∧
    Clause.parseList (some (Json.list Clause.toJson f.clauses).render) = .ok f.clauses ∧
    compile (some (Json.list Clause.toJson f.clauses).render) kind ignoreEvents = .ok f := by
  obtain ⟨clauses, hparse, hallowed, rfl⟩ := of_compile_eq_ok h
  have hkept : ∀ c ∈ clauses.filter (fun c => !isIgnored ignoreEvents c), IsAllowed kind c.column :=
    fun c hc => hallowed c (List.mem_of_mem_filter hc)
  have hagain : compile (some (Json.list Clause.toJson
      (clauses.filter fun c => !isIgnored ignoreEvents c)).render) kind ignoreEvents =
      .ok (compileClauses kind ((clauses.filter fun c => !isIgnored ignoreEvents c).filter
        fun c => !isIgnored ignoreEvents c)) :=
    compile_eq_ok (Clause.parseList_render _) hkept
  -- what was left out the first time is not there the second time
  simp only [List.filter_filter, Bool.and_self] at hagain
  exact ⟨⟨clauses, hparse, rfl⟩, Clause.parseList_render _, hagain⟩

/-- Two pages with a control character and quotes in their names, an event, and a referrer that is
not null. -/
def mixedFilter : String :=
  "[\x7b\"column\": \"pg\", \"filter\": [\"/a\\u0001\", \"/\\\"\u00fc\\\"\"]\x7d, " ++
    "\x7b\"column\": \"ev\", \"filter\": \"signup\"\x7d, " ++
    "\x7b\"column\": \"ref\", \"isExclusive\": true\x7d]"

/-- The clauses of `mixedFilter` that a query for pageviews reports. -/
def mixedClauses : List Clause :=
  [⟨"pg", some "/a\x01", false⟩, ⟨"pg", some "/\"\u00fc\"", false⟩, ⟨"ref", none, true⟩]

theorem parseList_mixedFilter : Clause.parseList (some mixedFilter) =
    .ok (mixedClauses.insertIdx 2 ⟨"ev", some "signup", false⟩) := by
  decide +kernel

theorem compile_reported_mixedFilter :
    let f := compileClauses .traffic mixedClauses
    compile (some mixedFilter) .traffic true = .ok f ∧
      Clause.parseList (some (Json.list Clause.toJson f.clauses).render) = .ok f.clauses ∧
      compile (some (Json.list Clause.toJson f.clauses).render) .traffic true = .ok f := by
  have hselect : select .traffic true (mixedClauses.insertIdx 2 ⟨"ev", some "signup", false⟩) =
      .ok mixedClauses := by decide +kernel
  have hcompile : compile (some mixedFilter) .traffic true =
      .ok (compileClauses .traffic mixedClauses) := compile_of_select parseList_mixedFilter hselect
  obtain ⟨-, hagain⟩ := compile_reported hcompile
  exact ⟨hcompile, hagain⟩

end Filter

end SiteAnalytics
