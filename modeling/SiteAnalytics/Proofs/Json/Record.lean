import SiteAnalytics.Json.Decode
import SiteAnalytics.Number.Count
import SiteAnalytics.Proofs.Json.RoundTrip

/-!
# Reading written records

A record is written as an object and read straight from text.  The text may list the members in any
order, which makes no difference to the reader: `decodeRecord?_render` says that it is given the
object itself, provided every member is a field and no name occurs twice.  With that, a kind of
records is read back from all its texts (`ReadsBack`) as soon as its reader takes the object apart
again, and for each kind of field there is a lemma for that.
-/

namespace SiteAnalytics.Json

/-! ### Names -/

/-- Members are written under their own names. -/
theorem names_writtenMembers (members : List (String × Json)) :
    (writtenMembers members).map Prod.fst = members.map fun e => some e.1 := by
  induction members with
  | nil => rfl
  | cons e members ih => rw [writtenMembers, List.map_cons, ih, List.map_cons]

theorem itemsNameOnce_writtenItems {items : List Json}
    (h : ∀ item ∈ items, item.written.namesOnce = true) :
    Written.itemsNameOnce (writtenItems items) = true := by
  induction items with
  | nil => rfl
  | cons item items ih =>
    obtain ⟨hitem, hitems⟩ := List.forall_mem_cons.mp h
    simp [writtenItems, Written.itemsNameOnce, hitem, ih hitems]

/-- Members with different names are named once, if the same holds within their values. -/
theorem membersNameOnce_writtenMembers {members : List (String × Json)}
    (hnodup : (members.map Prod.fst).Nodup) (h : ∀ e ∈ members, e.2.written.namesOnce = true) :
    Written.membersNameOnce (writtenMembers members) = true := by
  induction members with
  | nil => rfl
  | cons e members ih =>
    obtain ⟨hvalue, hmembers⟩ := List.forall_mem_cons.mp h
    rw [List.map_cons, List.nodup_cons] at hnodup
    -- no later member has the name of the first one
    have hname : ∀ m ∈ writtenMembers members, (m.1 == some e.1) = false := by
      intro m hm
      have hmem : m.1 ∈ members.map fun e => some e.1 :=
        names_writtenMembers members ▸ List.mem_map_of_mem hm
      obtain ⟨e', he', heq⟩ := List.mem_map.mp hmem
      refine beq_eq_false_iff_ne.mpr fun heq' => hnodup.1 ?_
      rw [← Option.some.inj (heq.trans heq')]
      exact List.mem_map_of_mem he'
    simp [writtenMembers, Written.membersNameOnce, List.any_eq_false.mpr fun m hm =>
      Bool.eq_false_iff.mp (hname m hm), hvalue, ih hnodup.2 hmembers]

/-- A canonical value names no member twice, as it is written. -/
theorem namesOnce_written {depth : Nat} {j : Json} (h : Canonical depth j) :
    j.written.namesOnce = true := by
  -- only lists and objects contain values; all others name no member
  induction h with
  | array _ ih => exact itemsNameOnce_writtenItems ih
  | object sorted _ ih =>
    refine membersNameOnce_writtenMembers ?_ ih
    rw [List.Nodup, List.pairwise_map]
    exact sorted.imp fun h => String.ne_of_lt h
  | _ => rfl

/-! ### Records -/

/-- From a text that lists the members of an object in any order the object is read, if it has
nothing but fields. -/
theorem decodeRecord?_render {α : Type} {fields : List String} {f : Json → Option α} {depth : Nat}
    (hdepth : depth + 1 = maxDepth) {members : List (String × Json)}
    (hnodup : (members.map Prod.fst).Nodup) (hnames : ∀ e ∈ members, e.1 ∈ fields)
    (hvalues : ∀ e ∈ members, Canonical depth e.2) :
    decodeRecord? fields f (object members).render = f (ofMembers members) := by
  have hscans : Scans (object members).chars (object members).tokens :=
    ((scans_memberChars fun e he => scans_chars (hvalues e he)).append_mark rfl .nil).cons_mark rfl
  have hread := read?_render hscans (builds_object fun e he => builds_tokens (hvalues e he))
  have hfields : ∀ m ∈ writtenMembers members, ∃ name ∈ fields, m.1 = some name := by
    intro m hm
    have hmem : m.1 ∈ members.map fun e => some e.1 :=
      names_writtenMembers members ▸ List.mem_map_of_mem hm
    obtain ⟨e, he, heq⟩ := List.mem_map.mp hmem
    exact ⟨e.1, hnames e he, heq.symm⟩
  -- nothing is skipped, since every member is a field
  have hkept : (writtenMembers members).filter (fun m => m.1.elim true fields.contains) =
      writtenMembers members := by
    refine List.filter_eq_self.mpr fun m hm => ?_
    obtain ⟨name, hname, heq⟩ := hfields m hm
    rw [heq]
    exact List.contains_iff_mem.mpr hname
  have hnamed : (writtenMembers members).all (fun m => m.1.isSome) = true := by
    refine List.all_eq_true.mpr fun m hm => ?_
    obtain ⟨name, -, heq⟩ := hfields m hm
    rw [heq, Option.isSome_some]
  have hselect : (object members).written.select? fields = some (object members).written := by
    have honce := membersNameOnce_writtenMembers hnodup fun e he => namesOnce_written (hvalues e he)
    rw [written, Written.select?]
    simp only [hkept, hnamed, honce, Bool.and_self, if_true]
  -- and no value is nested too deeply
  have hvalue : (object members).written.value? = some (ofMembers members) := by
    rw [written, Written.value?, ← hdepth, Written.valueAt?,
      membersAt?_writtenMembers fun e he => valueAt?_written (hvalues e he), Option.map_some]
  rw [decodeRecord?, hread]
  simp only [Option.bind_eq_bind, Option.bind_some, hselect, hvalue]

/-- The record is read back from every text of it, in whatever order that lists its members. -/
def ReadsBack {α : Type} (fields : List String) (toJson : α → Json) (ofJson? : Json → Option α)
    (a : α) : Prop :=
  ∃ entries, toJson a = object entries ∧ ∀ members, members.Perm entries →
    decodeRecord? fields ofJson? (object members).render = some a

/-- Members in another order are those of the same object. -/
theorem ofMembers_perm {members entries : List (String × Json)}
    (hnodup : (entries.map Prod.fst).Nodup) (h : members.Perm entries) :
    ofMembers members = ofMembers entries := by
  have hmembers : (members.map Prod.fst).Nodup := (h.map Prod.fst).nodup_iff.mpr hnodup
  -- without repeated names the same is found under every name
  have hdict : Dict.ofList members = Dict.ofList entries := by
    refine Dict.ext_get? fun k => Option.ext fun v => ?_
    rw [Dict.get?_ofList hmembers, Dict.get?_ofList hnodup, Dict.lookup_eq_some_iff_mem hmembers,
      Dict.lookup_eq_some_iff_mem hnodup, h.mem_iff]
  rw [ofMembers, hdict, ofMembers]

/-- What a reader is given of an object: each field with the value of the member that has its
name. -/
theorem record?_ofMembers {members : List (String × Json)} (hnodup : (members.map Prod.fst).Nodup)
    (names : List String) : (ofMembers members).record? names =
      some fun name => (members.lookup name).elim .missing .value := by
  rw [ofMembers, record?]
  congr 1
  funext name
  exact congrArg (Option.elim · _ _) (Dict.get?_ofList hnodup name)

/-- A record whose members are its fields is read back, if the reader takes its members apart. No
field holds more than one container. -/
theorem readsBack_of_members {α : Type} {fields : List String} {toJson : α → Json}
    {ofJson? : Json → Option α} {a : α} {members : List (String × Json)}
    (hjson : toJson a = ofMembers members) (hnames : members.map Prod.fst = fields)
    (hnodup : fields.Nodup) (hvalues : ∀ depth, ∀ e ∈ members, Canonical (depth + 1) e.2)
    (hread : (∀ names, (ofMembers members).record? names =
        some fun name => (members.lookup name).elim .missing .value) →
      ofJson? (ofMembers members) = some a) : ReadsBack fields toJson ofJson? a := by
  subst hnames
  refine ⟨(Dict.ofList members).entries, hjson, fun listed hlisted => ?_⟩
  have hentries : ∀ e ∈ listed, e ∈ members := fun e he =>
    Dict.mem_of_mem_entries_ofList (hlisted.mem_iff.mp he)
  have hkeys : ((Dict.ofList members).entries.map Prod.fst).Nodup :=
    (Dict.ofList members).nodup_keys
  -- the dictionary of the members keeps them in the order of their names
  have hsame : ofMembers listed = ofMembers members := by
    rw [ofMembers_perm hkeys hlisted, ofMembers, Dict.entries_ofList (Dict.ofList members).sorted,
      ofMembers]
  have hdepth : 125 + 1 + 1 = maxDepth := rfl
  rw [decodeRecord?_render hdepth ((hlisted.map Prod.fst).nodup_iff.mpr hkeys)
    (fun e he => List.mem_map_of_mem (hentries e he)) fun e he => hvalues 125 e (hentries e he),
    hsame, hread (record?_ofMembers hnodup)]

/-! ### Fields -/

section Fields

variable {α : Type} {depth : Nat}

@[simp] theorem Found.required_value (f : Json → Option α) (j : Json) :
    (Found.value j).required f = f j := rfl

@[simp] theorem Found.optional_value (f : Json → Option α) (j : Json) :
    (Found.value j).optional f = option? f j := rfl

@[simp] theorem Found.defaulted_value (f : Json → Option α) (default : α) (j : Json) :
    (Found.value j).defaulted f default = f j := rfl

@[simp] theorem string?_string (s : String) : string? (string s) = some s := rfl

@[simp] theorem bool?_bool (b : Bool) : bool? (bool b) = some b := rfl

@[simp] theorem canonical_string (s : String) : Canonical depth (string s) := .string s

@[simp] theorem canonical_bool (b : Bool) : Canonical depth (bool b) := .bool b

@[simp] theorem canonical_strings (ss : List String) : Canonical (depth + 1) (strings ss) :=
  canonical_list fun s _ => .string s

@[simp] theorem canonical_option_string (s : Option String) : Canonical depth (option string s) :=
  canonical_option fun s _ => .string s

/-- A count fits the word of a number. -/
theorem canonical_int64 {n : Int} (h : Count.InRange n) : Canonical depth (int n) := by
  have hword : JsonNumber.FitsWord n := by
    unfold Count.InRange at h
    unfold JsonNumber.FitsWord Numeral.maxI64 Numeral.maxU64
    omega
  exact .int hword

theorem canonical_nat32 {n : Nat} (h : n < 2 ^ 32) : Canonical depth (nat n) := by
  have hword : JsonNumber.FitsWord n := by
    unfold JsonNumber.FitsWord Numeral.maxI64 Numeral.maxU64
    omega
  exact .int hword

/-- Texts are read back one by one. -/
@[simp] theorem strings?_strings (ss : List String) : strings? (strings ss) = some ss := by
  show (ss.map string).mapM string? = some ss
  induction ss with
  | nil => rfl
  | cons s ss ih => rw [List.map_cons, List.mapM_cons, ih]; rfl

/-- A value that may be missing is read back, if the values are and are not taken for null. -/
theorem option?_option {f : Json → Option α} {g : α → Json} (hnull : f null = none)
    (h : ∀ a, f (g a) = some a) (a : Option α) : option? f (option g a) = some a := by
  cases a with
  | none => rfl
  | some a =>
    have hread := h a
    show option? f (g a) = some (some a)
    -- the reader of values refuses null, so the written value is not null
    generalize g a = j at hread ⊢
    cases j with
    | null => rw [hnull] at hread; contradiction
    | _ => simp [option?, hread]

@[simp] theorem option?_option_string (s : Option String) :
    option? string? (option string s) = some s := option?_option rfl string?_string s

/-- A count is read back, if it fits its word. -/
theorem int64?_int {n : Int} (h : Count.InRange n) : int64? (int n) = some n := by
  have hbounds : (-(Numeral.maxI64 : Int) - 1 ≤ n) ∧ n ≤ Numeral.maxI64 := by
    unfold Count.InRange at h
    unfold Numeral.maxI64
    omega
  simp [int64?, int?, int, hbounds]

theorem nat32?_nat {n : Nat} (h : n < 2 ^ 32) : nat32? (nat n) = some n := by
  have hbound : n ≤ Numeral.maxU32 := by
    unfold Numeral.maxU32
    omega
  simp [nat32?, nat?, int?, nat, hbound]

end Fields

end SiteAnalytics.Json
