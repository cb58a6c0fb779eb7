import Mathlib.Data.List.Forall2
import SiteAnalytics.Json.Decode
import SiteAnalytics.Proofs.Dict

/-!
# Written records

A record is read from the meaning of a text, but it is the text that is a record or not.  `Means`
takes a meaning apart side by side with the text.  With it, what is found of a field is the meaning
of what is written there (`Found.OfWritten`): in an object that is the last member with the name of
the field (`ofWritten_member?`), and in an array the item at its place
(`ofWritten_getElem?`).
-/

namespace SiteAnalytics.Json

namespace Written

/-- The text is one in JSON, and written so. -/
def IsOf (w : Written) (text : String) : Prop := read? text = some w ∧ w.value?.isSome = true

/-- The last member with a name. -/
def member? (name : String) (members : List (Option String × Written)) : Option Written :=
  members.reverse.lookup (some name)

/-! ### Meanings -/

/-- The values are what the items mean, one by one. -/
abbrev ItemsMean (depth : Nat) (items : List Written) (js : List Json) : Prop :=
  List.Forall₂ (fun w j => w.valueAt? depth = some j) items js

/-- The entries are the members with what they mean, one by one. -/
abbrev MembersMean (depth : Nat) (members : List (Option String × Written))
    (entries : List (String × Json)) : Prop :=
  List.Forall₂ (fun m e => m.1 = some e.1 ∧ m.2.valueAt? depth = some e.2) members entries

/-- The value is what a text means in which at most so many containers may open: a container means
the meanings of its parts. -/
inductive Means : Nat → Written → Json → Prop
  | null {depth : Nat} : Means depth .null .null
  | bool {depth : Nat} (b : Bool) : Means depth (.bool b) (.bool b)
  | number {depth : Nat} (n : JsonNumber) : Means depth (.number (some n)) (.number n)
  | string {depth : Nat} (s : String) : Means depth (.string (some s)) (.string s)
  | array {depth : Nat} {items : List Written} {js : List Json} :
    ItemsMean depth items js → Means (depth + 1) (.array items) (.array js)
  | object {depth : Nat} {members : List (Option String × Written)}
    {entries : List (String × Json)} :
    MembersMean depth members entries →
      Means (depth + 1) (.object members) (.ofMembers entries)

variable {depth : Nat}

/-- Items that have a meaning have it one by one. -/
theorem itemsMean_of_itemsAt? {items : List Written} {js : List Json}
    (h : itemsAt? depth items = some js) : ItemsMean depth items js := by
  induction items generalizing js with
  | nil =>
    obtain rfl := Option.some.inj h
    exact .nil
  | cons w rest ih =>
    unfold itemsAt? at h
    split at h
    · rename_i j more hvalue hrest
      obtain rfl := Option.some.inj h
      exact .cons hvalue (ih hrest)
    · contradiction

/-- Members that have a meaning have it one by one. -/
theorem membersMean_of_membersAt? {members : List (Option String × Written)}
    {entries : List (String × Json)} (h : membersAt? depth members = some entries) :
    MembersMean depth members entries := by
  induction members generalizing entries with
  | nil =>
    obtain rfl := Option.some.inj h
    exact .nil
  | cons m rest ih =>
    obtain ⟨name, w⟩ := m
    unfold membersAt? at h
    split at h
    · rename_i name value more hvalue hrest
      obtain rfl := Option.some.inj h
      exact .cons ⟨rfl, hvalue⟩ (ih hrest)
    · contradiction

/-- The meaning of a text is made of the meanings of its parts. -/
theorem means_of_valueAt? {w : Written} {j : Json} (h : w.valueAt? depth = some j) :
    Means depth w j := by
  cases w with
  | null =>
    obtain rfl := Option.some.inj h
    exact .null
  | bool b =>
    obtain rfl := Option.some.inj h
    exact .bool b
  | number n =>
    obtain ⟨n, rfl, rfl⟩ := Option.map_eq_some_iff.mp h
    exact .number n
  | string s =>
    obtain ⟨s, rfl, rfl⟩ := Option.map_eq_some_iff.mp h
    exact .string s
  -- a container takes one level of the depth
  | array items =>
    cases depth with
    | zero => contradiction
    | succ depth =>
      obtain ⟨js, hjs, rfl⟩ := Option.map_eq_some_iff.mp h
      exact .array (itemsMean_of_itemsAt? hjs)
  | object members =>
    cases depth with
    | zero => contradiction
    | succ depth =>
      obtain ⟨entries, hentries, rfl⟩ := Option.map_eq_some_iff.mp h
      exact .object (membersMean_of_membersAt? hentries)

/-! ### Scalars -/

theorem string?_eq_some_iff {w : Written} {j : Json} (h : w.valueAt? depth = some j) {s : String} :
    j.string? = some s ↔ w = .string (some s) := by
  cases means_of_valueAt? h <;> simp [string?, ofMembers]

theorem bool?_eq_some_iff {w : Written} {j : Json} (h : w.valueAt? depth = some j) {b : Bool} :
    j.bool? = some b ↔ w = .bool b := by
  cases means_of_valueAt? h <;> simp [bool?, ofMembers]

theorem mapM_string?_eq_some_iff {items : List Written} {js : List Json}
    (h : ItemsMean depth items js) {ss : List String} :
    js.mapM string? = some ss ↔ items = ss.map fun s => .string (some s) := by
  induction h generalizing ss with
  | nil => cases ss <;> simp
  | cons hhead _ ih =>
    rw [List.mapM_cons]
    cases ss <;> simp [Option.bind_eq_some_iff, ih, string?_eq_some_iff hhead]

end Written

/-! ### Fields -/

/-- What is found of a field is the meaning of what is written there, if anything is. -/
inductive Found.OfWritten (depth : Nat) : Option Written → Found → Prop
  | value {w : Written} {j : Json} : w.valueAt? depth = some j → OfWritten depth (some w) (.value j)
  | missing : OfWritten depth none .missing
  | beyond : OfWritten depth none .beyond

namespace Found

variable {depth : Nat}

/-- The first member with a name is found in the text and in what it means. -/
theorem ofWritten_lookup {members : List (Option String × Written)} {entries : List (String × Json)}
    (h : Written.MembersMean depth members entries) (name : String) :
    OfWritten depth (members.lookup (some name)) ((entries.lookup name).elim .missing .value) := by
  induction h with
  | nil => exact .missing
  | @cons m e _ _ hhead _ ih =>
    obtain ⟨_, w⟩ := m
    obtain ⟨key, value⟩ := e
    obtain ⟨hkey, hvalue⟩ := hhead
    obtain rfl : _ = some key := hkey
    rw [Dict.lookup_cons, List.lookup_cons]
    by_cases hname : name = key
    · rw [if_pos hname, beq_iff_eq.mpr (congrArg some hname)]
      exact .value hvalue
    · rw [if_neg hname, beq_eq_false_iff_ne.mpr (fun heq => hname (Option.some.inj heq))]
      exact ih

/-- In an object the last member with the name of a field counts. -/
theorem ofWritten_member? {members : List (Option String × Written)}
    {entries : List (String × Json)} (h : Written.MembersMean depth members entries)
    (name : String) : OfWritten depth (Written.member? name members)
      (((Dict.ofList entries).entries.lookup name).elim .missing .value) := by
  have hlast : (Dict.ofList entries).entries.lookup name = entries.reverse.lookup name :=
    Dict.get?_ofList_eq_lookup_reverse entries name
  rw [hlast]
  exact ofWritten_lookup (List.rel_reverse h) name

/-- In an array the items stand in the order of the fields. -/
theorem ofWritten_getElem? {items : List Written} {js : List Json}
    (h : Written.ItemsMean depth items js) {names : List String}
    (hnodup : names.Nodup) {i : Nat} {name : String} (hname : names[i]? = some name) :
    OfWritten depth items[i]? (((names.zip js).lookup name).elim .beyond .value) := by
  induction h generalizing names i with
  | nil =>
    rw [List.zip_nil_right]
    exact .beyond
  | @cons w j items js hhead _ ih =>
    cases names with
    | nil => contradiction
    | cons first names =>
      obtain ⟨hfirst, hnodup⟩ := List.nodup_cons.mp hnodup
      rw [List.zip_cons_cons, Dict.lookup_cons]
      cases i with
      | zero =>
        obtain rfl : first = name := Option.some.inj hname
        rw [if_pos rfl]
        exact .value hhead
      | succ i =>
        have hmem : name ∈ names := List.mem_of_getElem? hname
        -- a later field has another name than the first one
        have hne : name ≠ first := fun heq => hfirst (heq ▸ hmem)
        rw [if_neg hne]
        exact ih hnodup hname

end Found

end SiteAnalytics.Json
