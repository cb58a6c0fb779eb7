import SiteAnalytics.Json.Reader
import SiteAnalytics.Proofs.Dict
import SiteAnalytics.Proofs.Json.Token

/-!
# Reading written JSON

What is written is read again: `parse?_render`.  That needs a value which a text can mean at all, so
`Canonical depth` asks for members in the order of their names, integers that fit a word, and at
most `depth` containers around every value.  Both stages of the reader are followed along the value.
`scans_chars` says that its text is cut into its tokens, and `builds_tokens` that the machine puts
these together to the value as it is written, which means the value (`valueAt?_written`).
-/

namespace SiteAnalytics.Json

/-! ### Canonical values -/

/-- A text with at most `depth` containers around every value can mean the value. -/
inductive Canonical : Nat → Json → Prop
  | null {depth : Nat} : Canonical depth .null
  | bool {depth : Nat} (b : Bool) : Canonical depth (.bool b)
  | int {depth : Nat} {n : Int} (h : JsonNumber.FitsWord n) : Canonical depth (.number (.int n))
  | string {depth : Nat} (s : String) : Canonical depth (.string s)
  | array {depth : Nat} {items : List Json} (h : ∀ item ∈ items, Canonical depth item) :
      Canonical (depth + 1) (.array items)
  | object {depth : Nat} {members : List (String × Json)}
      (sorted : members.Pairwise fun a b => a.1 < b.1)
      (h : ∀ e ∈ members, Canonical depth e.2) : Canonical (depth + 1) (.object members)

/-- An object is canonical, in whatever order its members are given. -/
theorem canonical_ofMembers {depth : Nat} {members : List (String × Json)}
    (h : ∀ e ∈ members, Canonical depth e.2) : Canonical (depth + 1) (ofMembers members) :=
  .object (Dict.ofList members).sorted fun e he => h e (Dict.mem_of_mem_entries_ofList he)

theorem canonical_list {α : Type} {f : α → Json} {depth : Nat} {as : List α}
    (h : ∀ a ∈ as, Canonical depth (f a)) : Canonical (depth + 1) (list f as) :=
  .array (List.forall_mem_map.mpr h)

theorem canonical_option {α : Type} {f : α → Json} {depth : Nat} {a : Option α}
    (h : ∀ b ∈ a, Canonical depth (f b)) : Canonical depth (option f a) := by
  cases a with
  | none => exact .null
  | some b => exact h b rfl

/-! ### The tokens of a value -/

mutual

/-- The tokens that a value is written with. -/
def tokens : Json → List Token
  | .null => [.null]
  | .bool b => [.bool b]
  | .number n => [.number (some n)]
  | .string s => [.string (some s)]
  | .array items => .leftBracket :: itemTokens items ++ [.rightBracket]
  | .object members => .leftBrace :: memberTokens members ++ [.rightBrace]

/-- The tokens of items, with commas between them. -/
def itemTokens : List Json → List Token
  | [] => []
  | [item] => tokens item
  | item :: next :: rest => tokens item ++ .comma :: itemTokens (next :: rest)

/-- The tokens of members, with commas between them. -/
def memberTokens : List (String × Json) → List Token
  | [] => []
  | [(name, value)] => .string (some name) :: .colon :: tokens value
  | (name, value) :: next :: rest =>
    .string (some name) :: .colon :: tokens value ++ .comma :: memberTokens (next :: rest)

end

theorem scans_itemChars {items : List Json} (h : ∀ item ∈ items, Scans item.chars item.tokens) :
    Scans (itemChars items) (itemTokens items) := by
  induction items with
  | nil => exact .nil
  | cons item rest ih =>
    obtain ⟨hitem, hrest⟩ := List.forall_mem_cons.mp h
    cases rest with
    | nil => exact hitem
    | cons next rest => exact hitem.append_mark rfl (ih hrest)

theorem scans_memberChars {members : List (String × Json)}
    (h : ∀ e ∈ members, Scans e.2.chars e.2.tokens) :
    Scans (memberChars members) (memberTokens members) := by
  induction members with
  | nil => exact .nil
  | cons e rest ih =>
    obtain ⟨hvalue, hrest⟩ := List.forall_mem_cons.mp h
    have hmember := (scans_quote e.1).append_mark (c := ':') rfl hvalue
    cases rest with
    | nil => exact hmember
    | cons next rest => exact hmember.append_mark rfl (ih hrest)

/-- The text of a value is cut into its tokens. -/
theorem scans_chars {depth : Nat} {j : Json} (h : Canonical depth j) :
    Scans j.chars j.tokens := by
  induction h with
  | null => exact scans_word rfl (List.cons_ne_nil _ _) rfl
  | bool b => cases b <;> exact scans_word rfl (List.cons_ne_nil _ _) rfl
  | int h => exact scans_intChars h
  | string s => exact scans_quote s
  | array _ ih => exact ((scans_itemChars ih).append_mark rfl .nil).cons_mark rfl
  | object _ _ ih => exact ((scans_memberChars ih).append_mark rfl .nil).cons_mark rfl

/-! ### The machine -/

mutual

/-- The value as it is written. -/
def written : Json → Written
  | .null => .null
  | .bool b => .bool b
  | .number n => .number (some n)
  | .string s => .string (some s)
  | .array items => .array (writtenItems items)
  | .object members => .object (writtenMembers members)

/-- The items as they are written. -/
def writtenItems : List Json → List Written
  | [] => []
  | item :: rest => item.written :: writtenItems rest

/-- The members as they are written. -/
def writtenMembers : List (String × Json) → List (Option String × Written)
  | [] => []
  | (name, value) :: rest => (some name, value.written) :: writtenMembers rest

end

/-- The machine makes `w` of the tokens wherever a value may stand, and goes on behind them. -/
def Builds (tokens : List Token) (w : Written) : Prop :=
  ∀ stack rest, (State.value stack).run (tokens ++ rest) =
    (State.complete w stack).bind (State.run · rest)

theorem run_cons (state : State) (token : Token) (rest : List Token) :
    state.run (token :: rest) = (state.step token).bind (State.run · rest) := by
  rw [State.run]
  cases state.step token <;> rfl

theorem step_rightBracket (items : List Written) (stack : List Frame) :
    (State.next (.array items :: stack)).step .rightBracket =
      State.complete (.array items.reverse) stack := rfl

theorem step_rightBrace (members : List (Option String × Written)) (stack : List Frame) :
    (State.next (.object members :: stack)).step .rightBrace =
      State.complete (.object members.reverse) stack := rfl

/-- A first item is read like any other value. -/
theorem Builds.run_firstItem {tokens : List Token} {w : Written} (h : Builds tokens w)
    (stack : List Frame) (rest : List Token) :
    (State.firstItem stack).run (tokens ++ rest) = (State.value stack).run (tokens ++ rest) := by
  cases tokens with
  | nil => exact absurd (h [] []) (by simp [State.run, State.complete])
  | cons token tokens =>
    cases token with
    | rightBracket =>
      -- no value starts with a closing bracket
      exact absurd (h [] []) (by simp [State.run, State.step, State.begin, State.complete])
    | _ => rfl

theorem itemTokens_cons (item : Json) (rest : List Json) :
    ∃ more, itemTokens (item :: rest) = item.tokens ++ more := by
  cases rest with
  | nil => exact ⟨[], (List.append_nil _).symm⟩
  | cons next rest => exact ⟨_, rfl⟩

/-- The items of an array are collected until the bracket closes. -/
theorem run_itemTokens {items : List Json} (hne : items ≠ [])
    (h : ∀ item ∈ items, Builds item.tokens item.written) (before : List Written)
    (stack : List Frame) (rest : List Token) :
    (State.value (.array before :: stack)).run (itemTokens items ++ .rightBracket :: rest) =
      (State.complete (.array (before.reverse ++ writtenItems items)) stack).bind
        (State.run · rest) := by
  induction items generalizing before with
  | nil => contradiction
  | cons item items ih =>
    obtain ⟨hbuilds, hitems⟩ := List.forall_mem_cons.mp h
    cases items with
    | nil =>
      rw [itemTokens, hbuilds, State.complete, Option.bind_some, run_cons, step_rightBracket,
        List.reverse_cons]
      rfl
    | cons next items =>
      rw [itemTokens, List.append_assoc, hbuilds, State.complete, Option.bind_some,
        List.cons_append, run_cons, State.step, Option.bind_some,
        ih (List.cons_ne_nil _ _) hitems, List.reverse_cons, List.append_assoc,
        List.singleton_append]
      rfl

/-- The members of an object are collected until the brace closes. -/
theorem run_memberTokens {members : List (String × Json)} (hne : members ≠ [])
    (h : ∀ e ∈ members, Builds e.2.tokens e.2.written) (before : List (Option String × Written))
    (stack : List Frame) (rest : List Token) :
    (State.memberName (.object before :: stack)).run
        (memberTokens members ++ .rightBrace :: rest) =
      (State.complete (.object (before.reverse ++ writtenMembers members)) stack).bind
        (State.run · rest) := by
  induction members generalizing before with
  | nil => contradiction
  | cons e members ih =>
    obtain ⟨hbuilds, hmembers⟩ := List.forall_mem_cons.mp h
    have hname (rest : List Token) :
        (State.memberName (.object before :: stack)).run
            (.string (some e.1) :: .colon :: (e.2.tokens ++ rest)) =
          (State.next (.object ((some e.1, e.2.written) :: before) :: stack)).run rest := by
      rw [run_cons, State.step, State.named, Option.bind_some, run_cons, State.step,
        Option.bind_some, hbuilds, State.complete, Option.bind_some]
    cases members with
    | nil =>
      rw [memberTokens, List.cons_append, List.cons_append, hname, run_cons, step_rightBrace,
        List.reverse_cons]
      rfl
    | cons next members =>
      rw [memberTokens, List.append_assoc, List.cons_append, List.cons_append, List.cons_append,
        hname, run_cons, State.step, Option.bind_some, ih (List.cons_ne_nil _ _) hmembers,
        List.reverse_cons, List.append_assoc, List.singleton_append]
      rfl

theorem builds_array {items : List Json} (h : ∀ item ∈ items, Builds item.tokens item.written) :
    Builds (array items).tokens (array items).written := by
  intro stack rest
  cases items with
  | nil => exact run_cons (.firstItem (.array [] :: stack)) .rightBracket rest
  | cons item items =>
    have hbuilds := h item List.mem_cons_self
    obtain ⟨more, hmore⟩ := itemTokens_cons item items
    calc (State.value stack).run ((array (item :: items)).tokens ++ rest)
      _ = (State.firstItem (.array [] :: stack)).run
            (itemTokens (item :: items) ++ .rightBracket :: rest) := by
          rw [tokens, List.append_assoc, List.cons_append, run_cons]
          rfl
      _ = (State.value (.array [] :: stack)).run
            (itemTokens (item :: items) ++ .rightBracket :: rest) := by
          rw [hmore, List.append_assoc, hbuilds.run_firstItem]
      _ = (State.complete (.array (writtenItems (item :: items))) stack).bind
            (State.run · rest) := run_itemTokens (List.cons_ne_nil _ _) h [] stack rest

theorem builds_object {members : List (String × Json)}
    (h : ∀ e ∈ members, Builds e.2.tokens e.2.written) :
    Builds (object members).tokens (object members).written := by
  intro stack rest
  cases members with
  | nil => exact run_cons (.firstName (.object [] :: stack)) .rightBrace rest
  | cons e members =>
    calc (State.value stack).run ((object (e :: members)).tokens ++ rest)
      _ = (State.memberName (.object [] :: stack)).run
            (memberTokens (e :: members) ++ .rightBrace :: rest) := by
          rw [tokens, List.append_assoc, List.cons_append, run_cons]
          cases members <;> rfl
      _ = (State.complete (.object (writtenMembers (e :: members))) stack).bind
            (State.run · rest) := run_memberTokens (List.cons_ne_nil _ _) h [] stack rest

/-- The machine puts the tokens of a value together to the value as it is written. -/
theorem builds_tokens {depth : Nat} {j : Json} (h : Canonical depth j) :
    Builds j.tokens j.written := by
  induction h with
  | null => exact fun _ _ => run_cons _ _ _
  | bool b => exact fun _ _ => run_cons _ _ _
  | int _ => exact fun _ _ => run_cons _ _ _
  | string s => exact fun _ _ => run_cons _ _ _
  | array _ ih => exact builds_array ih
  | object _ _ ih => exact builds_object ih

/-! ### The meaning -/

theorem itemsAt?_writtenItems {depth : Nat} {items : List Json}
    (h : ∀ item ∈ items, item.written.valueAt? depth = some item) :
    Written.itemsAt? depth (writtenItems items) = some items := by
  induction items with
  | nil => rfl
  | cons item items ih =>
    obtain ⟨hitem, hitems⟩ := List.forall_mem_cons.mp h
    simp [writtenItems, Written.itemsAt?, hitem, ih hitems]

theorem membersAt?_writtenMembers {depth : Nat} {members : List (String × Json)}
    (h : ∀ e ∈ members, e.2.written.valueAt? depth = some e.2) :
    Written.membersAt? depth (writtenMembers members) = some members := by
  induction members with
  | nil => rfl
  | cons e members ih =>
    obtain ⟨hvalue, hmembers⟩ := List.forall_mem_cons.mp h
    simp [writtenMembers, Written.membersAt?, hvalue, ih hmembers]

/-- A canonical value as it is written means the value. -/
theorem valueAt?_written {depth : Nat} {j : Json} (h : Canonical depth j) :
    j.written.valueAt? depth = some j := by
  induction h with
  | null => rw [written, Written.valueAt?]
  | bool b => rw [written, Written.valueAt?]
  | int _ => rw [written, Written.valueAt?, Option.map_some]
  | string s => rw [written, Written.valueAt?, Option.map_some]
  | array _ ih => rw [written, Written.valueAt?, itemsAt?_writtenItems ih, Option.map_some]
  | object sorted _ ih =>
    -- the members are in order, so that none of them is moved or lost
    rw [written, Written.valueAt?, membersAt?_writtenMembers ih, Option.map_some, ofMembers,
      Dict.entries_ofList sorted]

/-! ### The round trip -/

/-- What is written is read as it is written. -/
theorem read?_render {j : Json} (hscans : Scans j.chars j.tokens)
    (hbuilds : Builds j.tokens j.written) : Written.read? j.render = some j.written := by
  have htokens : tokens? j.render.toList = some j.tokens := by
    rw [render, String.toList_ofList, tokens?_of_scans hscans]
  have hrun := hbuilds [] []
  rw [List.append_nil] at hrun
  rw [Written.read?, htokens, Option.bind_some, Written.ofTokens?, hrun]
  rfl

/-- What is written is read again. -/
theorem parse?_render {j : Json} (h : Canonical maxDepth j) : parse? j.render = some j := by
  rw [parse?, read?_render (scans_chars h) (builds_tokens h), Option.bind_some, Written.value?,
    valueAt?_written h]

end SiteAnalytics.Json
