import SiteAnalytics.Filter.Clause
import SiteAnalytics.Proofs.Json.Written
import SiteAnalytics.Proofs.Text.Blank

/-!
# Which texts are filters

The filters of a request are an array, and each element stands for clauses on one column.
`Describes` is the shape of an element, said of the text and not of its meaning: an object with a
column, a value or several, and a flag, of which the last two may be missing, or else the array of
these fields in their order.  The main result, `parseList_iff_lists`, is that just these lists are
read, clause by clause, while text that is no JSON filters nothing.

The elements are meant to be objects.  That arrays are read as well is not (`parseList_nested`).
-/

namespace SiteAnalytics.Clause

open Json

/-! ### Elements of a list -/

/-- The values asked for, with none for null: one for each text in an array, or else one. -/
inductive Asks : Option Written → List (Option String) → Prop
  | missing : Asks none [none]
  | null : Asks (some .null) [none]
  | text (s : String) : Asks (some (.string (some s))) [some s]
  | texts {items : List Written} (ss : List String) :
    items = ss.map (fun s => .string (some s)) → Asks (some (.array items)) (ss.map some)

/-- Whether the clauses are exclusions. -/
inductive Flags : Option Written → Bool → Prop
  | missing : Flags none false
  | flag (b : Bool) : Flags (some (.bool b)) b

/-- What is written for the column, for the values and for the flag makes these clauses. -/
inductive Fills : Option Written → Option Written → Option Written → List Clause → Prop
  | intro {filter flag : Option Written} (column : String) {values : List (Option String)}
    {exclusive : Bool} : Asks filter values → Flags flag exclusive →
      Fills (some (.string (some column))) filter flag
        (values.map fun value => ⟨column, value, exclusive⟩)

/-- The element of a list stands for these clauses. -/
inductive Describes : Written → List Clause → Prop
  /-- An object with the fields by name. Other members say nothing, the last of a name counts. -/
  | object {members : List (Option String × Written)} {clauses : List Clause} :
    Fills (Written.member? "column" members) (Written.member? "filter" members)
        (Written.member? "isExclusive" members) clauses →
      Describes (.object members) clauses
  /-- An array with the fields in order. -/
  | array {items : List Written} {clauses : List Clause} :
    items.length ≤ 3 → Fills items[0]? items[1]? items[2]? clauses →
      Describes (.array items) clauses

/-- The array stands for the clauses of its elements, one element after the other. -/
def Lists (w : Written) (clauses : List Clause) : Prop :=
  ∃ items parts, w = .array items ∧ List.Forall₂ Describes items parts ∧ clauses = parts.flatten

/-! ### Reading an element -/

/-- The values asked for. -/
def Values.asked : Values → List (Option String)
  | absent => [none]
  | one s => [some s]
  | many ss => ss.map some

variable {depth : Nat}

theorem ofJson?_iff_asks {w : Written} {j : Json} (h : w.valueAt? depth = some j)
    {values : List (Option String)} :
    (∃ v, Values.ofJson? j = some v ∧ values = v.asked) ↔ Asks (some w) values := by
  -- null, a text and an array have a reader each, and nothing else has one
  cases Written.means_of_valueAt? h with
  | null =>
    constructor
    · rintro ⟨v, ⟨⟩, rfl⟩
      exact .null
    · rintro ⟨⟩
      exact ⟨.absent, rfl, rfl⟩
  | string s =>
    constructor
    · rintro ⟨v, ⟨⟩, rfl⟩
      exact .text s
    · rintro ⟨⟩
      exact ⟨.one s, rfl, rfl⟩
  | array hitems =>
    constructor
    · rintro ⟨v, hv, rfl⟩
      obtain ⟨ss, hss, rfl⟩ := Option.map_eq_some_iff.mp hv
      exact .texts ss ((Written.mapM_string?_eq_some_iff hitems).mp hss)
    · rintro (_ | _ | _ | ⟨ss, hss⟩)
      refine ⟨.many ss, ?_, rfl⟩
      rw [Values.ofJson?, (Written.mapM_string?_eq_some_iff hitems).mpr hss, Option.map_some]
  | _ =>
    constructor
    · rintro ⟨v, hv, -⟩
      contradiction
    · rintro ⟨⟩

theorem defaulted_iff_asks {w : Option Written} {found : Found} (h : found.OfWritten depth w)
    {values : List (Option String)} :
    (∃ v, found.defaulted Values.ofJson? .absent = some v ∧ values = v.asked) ↔
      Asks w values := by
  cases h with
  | value hvalue => exact ofJson?_iff_asks hvalue
  | _ =>
    constructor
    · rintro ⟨v, ⟨⟩, rfl⟩
      exact .missing
    · rintro ⟨⟩
      exact ⟨.absent, rfl, rfl⟩

theorem defaulted_iff_flags {w : Option Written} {found : Found} (h : found.OfWritten depth w)
    {exclusive : Bool} :
    found.defaulted Json.bool? false = some exclusive ↔ Flags w exclusive := by
  cases h with
  | value hvalue =>
    rw [Found.defaulted, Written.bool?_eq_some_iff hvalue]
    constructor
    · rintro rfl
      exact .flag exclusive
    · rintro ⟨⟩
      rfl
  | _ =>
    constructor
    · rintro ⟨⟩
      exact .missing
    · rintro ⟨⟩
      rfl

theorem required_iff {w : Option Written} {found : Found} (h : found.OfWritten depth w)
    {column : String} :
    found.required Json.string? = some column ↔ w = some (.string (some column)) := by
  cases h with
  | value hvalue => rw [Found.required, Written.string?_eq_some_iff hvalue, Option.some_inj]
  | _ => simp [Found.required]

/-- The clauses of an element are those that its fields make. -/
theorem expand?_iff_fills {j : Json} {field : String → Found}
    (hrecord : j.record? fields = some field) {column filter flag : Option Written}
    (hcolumn : (field "column").OfWritten depth column)
    (hfilter : (field "filter").OfWritten depth filter)
    (hflag : (field "isExclusive").OfWritten depth flag) {clauses : List Clause} :
    expand? j = some clauses ↔ Fills column filter flag clauses := by
  simp only [expand?, hrecord, Option.bind_eq_bind, Option.bind_some, Option.bind_eq_some_iff,
    Option.pure_def, Option.some_inj]
  constructor
  · rintro ⟨name, hname, v, hv, exclusive, hexclusive, rfl⟩
    obtain rfl := (required_iff hcolumn).mp hname
    have hfills := Fills.intro name ((defaulted_iff_asks hfilter).mp ⟨v, hv, rfl⟩)
      ((defaulted_iff_flags hflag).mp hexclusive)
    -- no value, one value and several are written as clauses alike
    cases v <;> simpa [Values.asked, Function.comp_def] using hfills
  · rintro ⟨name, hasks, hflags⟩
    obtain ⟨v, hv, rfl⟩ := (defaulted_iff_asks hfilter).mpr hasks
    refine ⟨name, (required_iff hcolumn).mpr rfl, v, hv, _,
      (defaulted_iff_flags hflag).mpr hflags, ?_⟩
    cases v <;> simp [Values.asked]

/-- The clauses of an element are those that it describes. -/
theorem expand?_iff_describes {w : Written} {j : Json} (h : w.valueAt? depth = some j)
    {clauses : List Clause} : expand? j = some clauses ↔ Describes w clauses := by
  cases Written.means_of_valueAt? h with
  -- in an object the fields are found by name, in an array by place
  | object hmembers =>
    have hfield := Found.ofWritten_member? hmembers
    rw [expand?_iff_fills rfl (hfield "column") (hfield "filter") (hfield "isExclusive")]
    constructor
    · exact .object
    · rintro ⟨h⟩
      exact h
  | @array depth items js hitems =>
    have hfield {i : Nat} {name : String} (hname : fields[i]? = some name) :=
      Found.ofWritten_getElem? hitems (by decide) hname
    by_cases hlength : items.length ≤ 3
    · have hrecord : (Json.array js).record? fields =
          some fun name => ((fields.zip js).lookup name).elim .beyond .value := by
        rw [record?, ← hitems.length_eq]
        exact if_pos hlength
      rw [expand?_iff_fills hrecord (hfield (i := 0) rfl) (hfield (i := 1) rfl)
        (hfield (i := 2) rfl)]
      constructor
      · exact .array hlength
      · rintro (_ | ⟨-, h⟩)
        exact h
    · have hrecord : (Json.array js).record? fields = none := by
        rw [record?, ← hitems.length_eq]
        exact if_neg hlength
      simp only [expand?, hrecord, Option.bind_eq_bind, Option.bind_none, reduceCtorEq, false_iff]
      -- an array with more items than fields is no clause
      rintro (_ | ⟨h, -⟩)
      exact hlength h
  | _ =>
    constructor
    · intro hnone
      contradiction
    · rintro ⟨⟩

/-! ### Reading a list -/

/-- A list is read if each of its elements is. -/
theorem expandAll?_eq_some_iff {js : List Json} {clauses : List Clause} :
    expandAll? js = some clauses ↔
      ∃ parts, List.Forall₂ (fun j part => expand? j = some part) js parts ∧
        clauses = parts.flatten := by
  -- element by element: each has its clauses, and one without them spoils the list
  induction js generalizing clauses with
  | nil => simp [expandAll?, eq_comm]
  | cons j rest ih =>
    rw [expandAll?]
    constructor
    · intro h
      split at h
      · rename_i part more hpart hmore
        obtain rfl := Option.some.inj h
        obtain ⟨parts, hparts, rfl⟩ := ih.mp hmore
        exact ⟨part :: parts, .cons hpart hparts, rfl⟩
      · contradiction
    · rintro ⟨_, ⟨⟩ | ⟨hpart, hparts⟩, rfl⟩
      rw [hpart, ih.mpr ⟨_, hparts, rfl⟩]
      rfl

theorem forall₂_expand?_iff {items : List Written} {js : List Json}
    (h : Written.ItemsMean depth items js) {parts : List (List Clause)} :
    List.Forall₂ (fun j part => expand? j = some part) js parts ↔
      List.Forall₂ Describes items parts := by
  induction h generalizing parts with
  | nil => rw [List.forall₂_nil_left_iff, List.forall₂_nil_left_iff]
  | cons hhead _ ih =>
    simp only [List.forall₂_cons_left_iff, ih, expand?_iff_describes hhead]

/-- Reading what a text means is reading the text. -/
theorem listOf_eq_ok_iff {w : Written} {j : Json} (h : w.valueAt? depth = some j)
    {clauses : List Clause} : listOf j = .ok clauses ↔ Lists w clauses := by
  cases Written.means_of_valueAt? h with
  | @array depth items js hitems =>
    have hlist : listOf (.array js) = .ok clauses ↔ expandAll? js = some clauses := by
      rw [listOf]
      cases expandAll? js <;> simp
    simp only [hlist, expandAll?_eq_some_iff, forall₂_expand?_iff hitems]
    constructor
    · rintro ⟨parts, hparts, rfl⟩
      exact ⟨items, parts, rfl, hparts, rfl⟩
    · rintro ⟨items, parts, ⟨⟩, hparts, rfl⟩
      exact ⟨parts, hparts, rfl⟩
  | _ =>
    constructor
    · intro hnone
      contradiction
    · rintro ⟨items, parts, h, -⟩
      contradiction

/-- A value is a list of clauses, or else it has the wrong shape. -/
theorem listOf_eq_error {j : Json} {e : ValidationError} (h : listOf j = .error e) :
    e = .invalidFilterShape := by
  unfold listOf at h
  split at h
  · split at h
    · contradiction
    · exact (Except.error.inj h).symm
  · exact (Except.error.inj h).symm

/-- A text that lists no clauses has the wrong shape. -/
theorem listOf_eq_error_iff {w : Written} {j : Json} (h : w.valueAt? depth = some j)
    {e : ValidationError} :
    listOf j = .error e ↔ e = .invalidFilterShape ∧ ¬∃ clauses, Lists w clauses := by
  simp only [← listOf_eq_ok_iff h]
  cases hlist : listOf j with
  | error e' =>
    rw [listOf_eq_error hlist]
    simp [eq_comm]
  | ok clauses => simp

/-! ### Reading the filters of a request -/

theorem bind_trimmed?_eq_none_iff {raw : Option String} : raw.bind Text.trimmed? = none ↔
    ∀ s, raw = some s → ∀ c ∈ s.toList, Text.isBlank c = true := by
  rw [Option.bind_eq_none_iff]
  exact forall₂_congr fun s _ => by rw [← Text.isNone_trimmed?_iff, Option.isNone_iff_eq_none]

theorem parse?_eq_none_iff {text : String} :
    Json.parse? text = none ↔ ¬∃ w : Written, w.IsOf text := by
  rw [Json.parse?, Option.bind_eq_none_iff, not_exists]
  exact forall_congr' fun w => by simp [Written.IsOf]

/-- Filters that are a text in JSON are read from what it means. -/
theorem parseList_of_isOf {raw : Option String} {text : String}
    (htext : raw.bind Text.trimmed? = some text) {w : Written} (hw : w.IsOf text) :
    ∃ j, w.value? = some j ∧ parseList raw = listOf j := by
  obtain ⟨hread, hvalue⟩ := hw
  obtain ⟨j, hj⟩ := Option.isSome_iff_exists.mp hvalue
  refine ⟨j, hj, ?_⟩
  simp only [parseList, htext, Json.parse?, hread, Option.bind_some, hj]

/-- Filters that are not read have the wrong shape. -/
theorem parseList_eq_error {raw : Option String} {e : ValidationError}
    (h : parseList raw = .error e) : e = .invalidFilterShape := by
  unfold parseList at h
  split at h
  · contradiction
  · split at h
    · contradiction
    · exact listOf_eq_error h

/-- Without filters, and with text that is no JSON, there are no clauses. -/
theorem parseList_eq_nil {raw : Option String}
    (h : ∀ text, raw.bind Text.trimmed? = some text → ¬∃ w : Written, w.IsOf text) :
    parseList raw = .ok [] := by
  cases htext : raw.bind Text.trimmed? with
  | none => rw [parseList, htext]
  | some text => simp only [parseList, htext, parse?_eq_none_iff.mpr (h text htext)]

/-- Filters are read from a text, less the white space around it.  There are none if nothing is left
or what is left is no JSON.  Otherwise they are the clauses that the text lists, and if it lists
none, it has the wrong shape. -/
theorem parseList_iff_lists (raw : Option String) :
    (raw.bind Text.trimmed? = none ↔
      ∀ s, raw = some s → ∀ c ∈ s.toList, Text.isBlank c = true) ∧
    (raw.bind Text.trimmed? = none → parseList raw = .ok []) ∧
    ∀ text, raw.bind Text.trimmed? = some text →
      ((¬∃ w : Written, w.IsOf text) → parseList raw = .ok []) ∧
      ∀ w : Written, w.IsOf text →
        (∀ clauses, parseList raw = .ok clauses ↔ Lists w clauses) ∧
        ∀ e, parseList raw = .error e ↔ e = .invalidFilterShape ∧ ¬∃ clauses, Lists w clauses := by
  refine ⟨bind_trimmed?_eq_none_iff, ?_, fun text htext => ⟨?_, ?_⟩⟩
  · -- an absent text and one that is no JSON are ignored, all others are read
    intro hnone
    refine parseList_eq_nil fun text htext => ?_
    rw [hnone] at htext
    contradiction
  · intro hnone
    refine parseList_eq_nil fun text' htext' => ?_
    rwa [← Option.some.inj (htext.symm.trans htext')]
  · intro w hw
    obtain ⟨j, hj, hread⟩ := parseList_of_isOf htext hw
    rw [hread]
    exact ⟨fun _ => listOf_eq_ok_iff hj, fun _ => listOf_eq_error_iff hj⟩

/-- A column named twice, a member that is no field, and an element that is an array. -/
def looseList : String :=
  "\u00a0[\x7b\"column\": \"pg\", \"note\": 1, \"filter\": [\"BG\", \"GB\"], " ++
    "\"column\": \"cc\"\x7d, [\"ref\", null, true]] "

/-- What `looseList` is written as. -/
def looseWritten : Written :=
  .array
    [.object
      [(some "column", .string (some "pg")), (some "note", .number (some (.int 1))),
        (some "filter", .array [.string (some "BG"), .string (some "GB")]),
        (some "column", .string (some "cc"))],
      .array [.string (some "ref"), .null, .bool true]]

theorem parseList_iff_lists_looseList : ∃ text, (some looseList).bind Text.trimmed? = some text ∧
    looseWritten.IsOf text ∧
    Lists looseWritten [⟨"cc", some "BG", false⟩, ⟨"cc", some "GB", false⟩, ⟨"ref", none, true⟩] ∧
    parseList (some looseList) =
      .ok [⟨"cc", some "BG", false⟩, ⟨"cc", some "GB", false⟩, ⟨"ref", none, true⟩] := by
  have hlists : Lists looseWritten
      [⟨"cc", some "BG", false⟩, ⟨"cc", some "GB", false⟩, ⟨"ref", none, true⟩] := by
    refine ⟨_, [[⟨"cc", some "BG", false⟩, ⟨"cc", some "GB", false⟩], [⟨"ref", none, true⟩]], rfl,
      .cons (.object ?_) (.cons (.array (by decide) ?_) .nil), rfl⟩
    · exact .intro "cc" (.texts ["BG", "GB"] rfl) .missing
    · exact .intro "ref" .null (.flag true)
  obtain ⟨text, htext, hread⟩ : ∃ text, (some looseList).bind Text.trimmed? = some text ∧
      Written.read? text = some looseWritten := ⟨_, rfl, rfl⟩
  have hw : looseWritten.IsOf text := ⟨hread, by decide +kernel⟩
  refine ⟨text, htext, hw, hlists, ?_⟩
  exact (((parseList_iff_lists (some looseList)).2.2 text htext).2 looseWritten hw).1 _
    |>.mpr hlists

/-- An element that is no object is read: an array that has a column as its first item. -/
theorem parseList_nested :
    (Written.array [.array [.string (some "cc")]]).IsOf "[[\"cc\"]]" ∧
      parseList (some "[[\"cc\"]]") = .ok [⟨"cc", none, false⟩] := by
  refine ⟨⟨rfl, ?_⟩, ?_⟩
  · decide +kernel
  · decide +kernel

end SiteAnalytics.Clause
