import SiteAnalytics.Zone.Clock

/-!
# Where clocks come from

The program does not know the clocks of the world by itself. It asks a `ZoneSource` for them by
name, as one asks a time zone database, and relies on two things only: the changes of a clock are
listed in the order in which they happen, and in the end there are no more of them.

A finite table is a source if its clocks pass two checks that can be computed
(`ZoneSource.ofTable`).
-/

namespace SiteAnalytics

namespace Clock

/-- The changes of the clock are listed in the order in which they happen. -/
def Ordered (c : Clock) : Prop := c.changes.Pairwise fun a b => a.1 ≤ b.1

/-- An instant after which no known clock is changed. -/
def lastChange : Int := 4294967296

/-- The clock is not changed any more in the end, and never shows more than a day more or less than
UTC. -/
structure Settles (c : Clock) : Prop where
  settled : ∀ s t, lastChange ≤ s → lastChange ≤ t → c.offsetAt s = c.offsetAt t
  le_day : ∀ s, -86400 ≤ c.offsetAt s ∧ c.offsetAt s ≤ 86400

/-! ### Checks of tables -/

/-- Every change comes after the one before it. -/
def inOrder : List (Int × Int) → Bool
  | first :: second :: rest => decide (first.1 ≤ second.1) && inOrder (second :: rest)
  | _ => true

/-- Where every change comes after the one before it, it comes after all changes before it. -/
theorem pairwise_of_inOrder {changes : List (Int × Int)} (h : inOrder changes = true) :
    changes.Pairwise fun a b => a.1 ≤ b.1 := by
  induction changes with
  | nil => exact .nil
  | cons first rest ih =>
    cases rest with
    | nil => exact List.pairwise_singleton _ _
    | cons second rest =>
      rw [inOrder, Bool.and_eq_true, decide_eq_true_iff] at h
      have hrest := ih h.2
      refine List.pairwise_cons.mpr ⟨?_, hrest⟩
      intro change hchange
      rcases List.mem_cons.mp hchange with rfl | hlater
      · exact h.1
      · exact Int.le_trans h.1 ((List.pairwise_cons.mp hrest).1 change hlater)

/-- All offsets of the clock are at most a day, and its changes happen before a known instant. -/
def Bounded (c : Clock) : Prop :=
  (-86400 ≤ c.first ∧ c.first ≤ 86400) ∧
    ∀ change ∈ c.changes, change.1 ≤ lastChange ∧ -86400 ≤ change.2 ∧ change.2 ≤ 86400

instance (c : Clock) : Decidable c.Bounded :=
  inferInstanceAs (Decidable ((_ ∧ _) ∧ ∀ change ∈ c.changes, _))

/-- Behind all changes one offset is in force. -/
theorem offsetFrom_eq_of_le {changes : List (Int × Int)} {offset s t : Int}
    (hs : ∀ change ∈ changes, change.1 ≤ s) (ht : ∀ change ∈ changes, change.1 ≤ t) :
    offsetFrom offset s changes = offsetFrom offset t changes := by
  induction changes generalizing offset with
  | nil => rfl
  | cons change rest ih =>
    rw [offsetFrom, offsetFrom, if_pos (hs change List.mem_cons_self),
      if_pos (ht change List.mem_cons_self)]
    exact ih (fun c hc => hs c (List.mem_cons_of_mem _ hc))
      fun c hc => ht c (List.mem_cons_of_mem _ hc)

/-- What holds of the first offset and of those changed to holds of the one in force. -/
theorem offsetFrom_induction {P : Int → Prop} {changes : List (Int × Int)} {offset : Int} (s : Int)
    (hfirst : P offset) (hchanges : ∀ change ∈ changes, P change.2) :
    P (offsetFrom offset s changes) := by
  induction changes generalizing offset with
  | nil => exact hfirst
  | cons change rest ih =>
    rw [offsetFrom]
    split
    · exact ih (hchanges change List.mem_cons_self)
        fun c hc => hchanges c (List.mem_cons_of_mem _ hc)
    · exact hfirst

theorem settles_of_bounded {c : Clock} (h : c.Bounded) : c.Settles where
  settled _ _ hs ht := offsetFrom_eq_of_le
    (fun change hchange => Int.le_trans (h.2 change hchange).1 hs)
    fun change hchange => Int.le_trans (h.2 change hchange).1 ht
  le_day s := offsetFrom_induction (P := fun offset => -86400 ≤ offset ∧ offset ≤ 86400) s h.1
    fun change hchange => (h.2 change hchange).2

end Clock

/-- Clocks by the names of their zones. -/
structure ZoneSource where
  /-- The clock of the zone with a name, if the name is known. -/
  clock? : String → Option Clock
  /-- A database lists the changes of a clock in order. -/
  ordered : ∀ {name : String} {c : Clock}, clock? name = some c → c.Ordered
  /-- A database ends, and from then on the last offset of a clock stays in force. -/
  settles : ∀ {name : String} {c : Clock}, clock? name = some c → c.Settles

namespace ZoneSource

theorem mem_of_lookup_eq_some {α β : Type} [BEq α] [LawfulBEq α] {l : List (α × β)} {a : α} {b : β}
    (h : l.lookup a = some b) : (a, b) ∈ l := by
  rw [List.lookup_eq_some_iff] at h
  obtain ⟨l₁, l₂, rfl, -⟩ := h
  simp

/-- The source that knows the clocks of a table. -/
def ofTable (table : List (String × Clock))
    (hordered : ∀ e ∈ table, Clock.inOrder e.2.changes = true)
    (hbounded : ∀ e ∈ table, e.2.Bounded) : ZoneSource where
  clock? name := table.lookup name
  ordered h := Clock.pairwise_of_inOrder (hordered _ (mem_of_lookup_eq_some h))
  settles h := Clock.settles_of_bounded (hbounded _ (mem_of_lookup_eq_some h))

end ZoneSource

end SiteAnalytics
