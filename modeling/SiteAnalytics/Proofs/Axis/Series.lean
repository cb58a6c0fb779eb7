import Mathlib.Data.List.Induction
import SiteAnalytics.Axis.Series
import SiteAnalytics.Proofs.Axis.Label
import SiteAnalytics.Proofs.Dict

/-!
# Series after any calls

What the series of a set show after values have been put and gaps filled, in any order.  The calls
leave a history behind: the values put into a series with the slots they were put at.  A slot knows
whether anything was put there, and shows the last value that was; what it shows otherwise depends
on the fillings (`Slot.Follows`).  Right after a filling it depends on nothing but the history
(`SlotsFollow.getElem?_fill`): a slot shows the value of the nearest slot up to it at which anything
was put.

Every call keeps the slots in step with the history (`Records.after`), and `afterAll_carryForward`
is the law of a whole run.
-/

namespace SiteAnalytics

variable {α : Type}

/-! ### Histories -/

namespace SeriesSet

/-- The last of the values that were put at slot `i`. -/
def lastAt? (puts : List (Nat × α)) (i : Nat) : Option α :=
  (puts.filter fun e => e.1 == i).getLast?.map Prod.snd

/-- What `f` has at the greatest number up to `i` at which it has anything. -/
def nearest? (f : Nat → Option α) (i : Nat) : Option α :=
  (List.range (i + 1)).reverse.findSome? f

/-- What is put last counts at its slot, and nowhere else. -/
theorem lastAt?_concat (puts : List (Nat × α)) (j : Nat) (value : α) (i : Nat) :
    lastAt? (puts ++ [(j, value)]) i = if j = i then some value else lastAt? puts i := by
  rw [lastAt?, List.filter_append, List.getLast?_append]
  by_cases h : j = i <;> simp [h, lastAt?]

theorem nearest?_zero (f : Nat → Option α) : nearest? f 0 = f 0 := by
  rw [nearest?, List.range_one, List.reverse_singleton, List.findSome?_singleton]

/-- One step on, the value there comes before the nearest one so far. -/
theorem nearest?_succ (f : Nat → Option α) (i : Nat) :
    nearest? f (i + 1) = (f (i + 1)).or (nearest? f i) := by
  rw [nearest?, List.range_succ, List.reverse_append, List.reverse_singleton,
    List.singleton_append, List.findSome?_cons, ← nearest?]
  cases f (i + 1) <;> rfl

/-- Where `f` has a value it is the nearest. -/
theorem nearest?_of_some {f : Nat → Option α} {i : Nat} {value : α} (h : f i = some value) :
    nearest? f i = some value := by
  cases i with
  | zero => rw [nearest?_zero, h]
  | succ i => rw [nearest?_succ, h, Option.some_or]

/-- There is no nearest value iff `f` has none up to there. -/
theorem nearest?_eq_none_iff {f : Nat → Option α} {i : Nat} :
    nearest? f i = none ↔ ∀ j ≤ i, f j = none := by
  rw [nearest?, List.findSome?_eq_none_iff]
  simp

end SeriesSet

open SeriesSet

/-! ### Slots and their history -/

/-- How a slot stands to the values put into its series: where any was put, the slot shows the last
one, and where none was put up to it, it shows zero.  A slot with a value before it may show
anything. -/
structure Slot.Follows (zero : α) (puts : List (Nat × α)) (i : Nat) (slot : Slot α) : Prop where
  written : slot.written = (lastAt? puts i).isSome
  shown_of_some : ∀ value, lastAt? puts i = some value → slot.shown = value
  shown_of_none : nearest? (lastAt? puts) i = none → slot.shown = zero

/-- The slots of a series follow what was put into it. -/
def SlotsFollow (zero : α) (puts : List (Nat × α)) (slots : List (Slot α)) : Prop :=
  ∀ (i : Nat) (slot : Slot α), slots[i]? = some slot → slot.Follows zero puts i

namespace SlotsFollow

variable {zero : α} {puts : List (Nat × α)} {slots : List (Slot α)}

/-- Slots without rows have no history to follow. -/
theorem blank (zero : α) (n : Nat) : SlotsFollow zero [] (List.replicate n ⟨zero, false⟩) := by
  intro i slot h
  rw [List.getElem?_replicate] at h
  split_ifs at h
  obtain rfl := Option.some.inj h
  exact ⟨rfl, fun _ h => by contradiction, fun _ => rfl⟩

/-- One more value is put. -/
theorem set (h : SlotsFollow zero puts slots) (j : Nat) (value : α) :
    SlotsFollow zero (puts ++ [(j, value)]) (slots.set j ⟨value, true⟩) := by
  intro i slot hslot
  -- the slot that is written shows the new value; all others keep theirs
  rw [List.getElem?_set] at hslot
  by_cases hj : j = i
  · rw [if_pos hj] at hslot
    split_ifs at hslot
    obtain rfl := Option.some.inj hslot
    have hlast : lastAt? (puts ++ [(j, value)]) i = some value := by
      rw [lastAt?_concat, if_pos hj]
    refine ⟨by rw [hlast]; rfl, fun v hv => ?_, fun hnone => ?_⟩
    · rw [hlast] at hv
      exact Option.some.inj hv
    · rw [nearest?_of_some hlast] at hnone
      contradiction
  · rw [if_neg hj] at hslot
    have hlast : lastAt? (puts ++ [(j, value)]) i = lastAt? puts i := by
      rw [lastAt?_concat, if_neg hj]
    have hslot := h i slot hslot
    refine ⟨by rw [hlast]; exact hslot.written, fun v hv => ?_, fun hnone => ?_⟩
    · exact hslot.shown_of_some v (hlast ▸ hv)
    · -- where no value is now, none was before
      refine hslot.shown_of_none (nearest?_eq_none_iff.mpr fun k hk => ?_)
      have hnone := nearest?_eq_none_iff.mp hnone k hk
      rw [lastAt?_concat] at hnone
      split_ifs at hnone
      exact hnone

end SlotsFollow

/-! ### Filling -/

namespace SeriesSet

/-- What the last of some slots shows that has been written. -/
def lastWritten? (slots : List (Slot α)) : Option α :=
  (slots.filter Slot.written).getLast?.map Slot.shown

/-- The slots behind decide, unless none of them is written. -/
theorem lastWritten?_append (slots more : List (Slot α)) :
    lastWritten? (slots ++ more) = (lastWritten? more).or (lastWritten? slots) := by
  rw [lastWritten?, List.filter_append, List.getLast?_append, Option.map_or]
  rfl

theorem lastWritten?_singleton (slot : Slot α) :
    lastWritten? [slot] = if slot.written then some slot.shown else none := by
  by_cases h : slot.written <;> simp [lastWritten?, h]

theorem lastWritten?_cons (slot : Slot α) (rest : List (Slot α)) :
    lastWritten? (slot :: rest) =
      (lastWritten? rest).or (if slot.written then some slot.shown else none) := by
  rw [← List.singleton_append, lastWritten?_append, lastWritten?_singleton]

/-- A filled slot shows what the last written slot up to it shows, if there is any. -/
theorem getElem?_fill (last : Option α) (slots : List (Slot α)) (i : Nat) :
    (fill last slots)[i]? = slots[i]?.map fun slot =>
      { slot with shown := ((lastWritten? (slots.take (i + 1))).or last).getD slot.shown } := by
  induction slots generalizing last i with
  | nil => simp [fill]
  | cons slot rest ih =>
    rw [fill]
    cases i with
    | zero =>
      rw [List.take_succ_cons, List.take_zero, lastWritten?_singleton]
      obtain ⟨shown, written⟩ := slot
      cases written <;> simp
    | succ i =>
      rw [List.take_succ_cons, lastWritten?_cons]
      by_cases h : slot.written <;> simp [h, ih]

theorem length_fill (last : Option α) (slots : List (Slot α)) :
    (fill last slots).length = slots.length := by
  induction slots generalizing last with
  | nil => rfl
  | cons slot rest ih =>
    rw [fill]
    split_ifs <;> rw [List.length_cons, ih, List.length_cons]

end SeriesSet

namespace SlotsFollow

variable {zero : α} {puts : List (Nat × α)} {slots : List (Slot α)}

/-- What the last written slot shows is the nearest value of the history. -/
theorem lastWritten?_take (h : SlotsFollow zero puts slots) {i : Nat} (hi : i < slots.length) :
    lastWritten? (slots.take (i + 1)) = nearest? (lastAt? puts) i := by
  -- a slot is written iff a value was put there, and shows it then
  have hslot {j : Nat} (hj : j < slots.length) : lastWritten? [slots[j]] = lastAt? puts j := by
    obtain ⟨hwritten, hsome, -⟩ := h j slots[j] (List.getElem?_eq_getElem hj)
    rw [lastWritten?_singleton, hwritten]
    cases hlast : lastAt? puts j with
    | none => rfl
    | some value => simp [hsome value hlast]
  -- from here it is the recursion of `nearest?`, slot by slot
  induction i with
  | zero =>
    rw [nearest?_zero, ← hslot hi, List.take_add_one, List.getElem?_eq_getElem hi]
    rfl
  | succ i ih =>
    rw [nearest?_succ, ← hslot hi, ← ih (by omega), List.take_add_one (i := i + 1),
      List.getElem?_eq_getElem hi, Option.toList_some, lastWritten?_append]

/-- After a filling every slot shows the value of the nearest slot up to it at which any was put. -/
theorem getElem?_fill (h : SlotsFollow zero puts slots) (i : Nat) :
    (SeriesSet.fill none slots)[i]? = slots[i]?.map fun _ =>
      ⟨(nearest? (lastAt? puts) i).getD zero, (lastAt? puts i).isSome⟩ := by
  rw [SeriesSet.getElem?_fill]
  cases hslot : slots[i]? with
  | none => rfl
  | some slot =>
    obtain ⟨hi, -⟩ := List.getElem?_eq_some_iff.mp hslot
    obtain ⟨hwritten, -, hnone⟩ := h i slot hslot
    rw [Option.map_some, Option.map_some, h.lastWritten?_take hi, Option.or_none, ← hwritten]
    cases hnear : nearest? (lastAt? puts) i with
    | none => rw [Option.getD_none, Option.getD_none, hnone hnear]
    | some value => rfl

/-- Filling does not take the slots away from their history. -/
theorem fill (h : SlotsFollow zero puts slots) :
    SlotsFollow zero puts (SeriesSet.fill none slots) := by
  intro i slot hslot
  rw [h.getElem?_fill, Option.map_eq_some_iff] at hslot
  obtain ⟨-, -, rfl⟩ := hslot
  refine ⟨rfl, fun value hvalue => ?_, fun hnone => ?_⟩
  · show (nearest? (lastAt? puts) i).getD zero = value
    rw [nearest?_of_some hvalue, Option.getD_some]
  · show (nearest? (lastAt? puts) i).getD zero = zero
    rw [hnone, Option.getD_none]

end SlotsFollow

/-! ### Calls -/

/-- A call on a set of series. -/
inductive SeriesCall (α : Type)
  | put (key : BucketKey) (name : String) (value : α)
  /-- Fills the gaps of some series, or of all. -/
  | carryForward (names : Option (List String))

namespace SeriesCall

/-- The slot at which a call puts a value into the series `name`, with the value. -/
def landing? (a : Axis) (name : String) : SeriesCall α → Option (Nat × α)
  | put key n value => if n = name then (a.position? key.label).map fun i => (i, value) else none
  | carryForward _ => none

/-- The call fills the gaps of the series `name`. -/
def fills (name : String) : SeriesCall α → Bool
  | put .. => false
  | carryForward names => names.all fun names => names.contains name

end SeriesCall

namespace SeriesSet

/-- The set after a call. -/
def after (s : SeriesSet α) : SeriesCall α → SeriesSet α
  | .put key name value => (s.put key name value).1
  | .carryForward names => s.carryForward names

/-- The set after calls, one after the other. -/
def afterAll (s : SeriesSet α) (calls : List (SeriesCall α)) : SeriesSet α := calls.foldl after s

/-- The last call of a run acts on what the others leave behind. -/
theorem afterAll_concat (s : SeriesSet α) (calls : List (SeriesCall α)) (call : SeriesCall α) :
    s.afterAll (calls ++ [call]) = (s.afterAll calls).after call := by
  rw [afterAll, List.foldl_append, ← afterAll]
  rfl

/-- The values that calls put into the series `name`, with the slots at which they are put. -/
def putsInto (a : Axis) (name : String) (calls : List (SeriesCall α)) : List (Nat × α) :=
  calls.filterMap (SeriesCall.landing? a name)

/-! ### One call -/

/-- A value whose bucket is on the axis is written into its slot. -/
theorem put_of_some {s : SeriesSet α} {key : BucketKey} {i : Nat}
    (h : s.axis.position? key.label = some i) (name : String) (value : α) :
    s.put key name value =
      ({ s with series := s.series.insert name ((s.slots name).set i ⟨value, true⟩) }, true) := by
  rw [put, h]

/-- A value whose bucket is off the axis changes nothing. -/
theorem put_of_none {s : SeriesSet α} {key : BucketKey} (h : s.axis.position? key.label = none)
    (name : String) (value : α) : s.put key name value = (s, false) := by
  rw [put, h]

/-- No call changes the axis. -/
theorem after_axis (s : SeriesSet α) (call : SeriesCall α) : (s.after call).axis = s.axis := by
  cases call with
  | put key name value =>
    cases h : s.axis.position? key.label with
    | none => rw [after, put_of_none h]
    | some i => rw [after, put_of_some h]
  | carryForward names => rfl

/-- There is nothing to fill in slots without rows. -/
theorem fill_blank (s : SeriesSet α) : fill none s.blank = s.blank := by
  rw [blank]
  induction s.axis.size with
  | zero => rfl
  | succ n ih => rw [List.replicate_succ, fill, if_neg (by simp), ih, Option.getD_none]

/-- The slots of the series that are covered are filled, and all others stay. -/
theorem slots_carryForward (s : SeriesSet α) (names : Option (List String)) (name : String) :
    (s.carryForward names).slots name =
      if names.all (fun names => names.contains name) then fill none (s.slots name)
      else s.slots name := by
  rw [slots, carryForward, Dict.get?_mapValues, slots]
  cases s.series.get? name with
  -- a series that is not there has blank slots, and filling these makes no difference
  | none =>
    show s.blank = _
    split_ifs
    · exact s.fill_blank.symm
    · rfl
  | some slots => rfl

/-- What a call does to the slots of a series: a value is put, the gaps are filled, or nothing. -/
theorem slots_after (s : SeriesSet α) (call : SeriesCall α) (name : String) :
    (s.after call).slots name =
      match call.landing? s.axis name with
      | some (i, value) => (s.slots name).set i ⟨value, true⟩
      | none => if call.fills name then fill none (s.slots name) else s.slots name := by
  cases call with
  | put key n value =>
    cases h : s.axis.position? key.label with
    | none =>
      rw [after, put_of_none h]
      simp [SeriesCall.landing?, SeriesCall.fills, h]
    | some i =>
      rw [after, put_of_some h, slots, Dict.get?_insert]
      -- the slots of other series are not touched
      by_cases hname : n = name
      · simp [SeriesCall.landing?, h, hname]
      · rw [if_neg (Ne.symm hname)]
        simp only [SeriesCall.landing?, if_neg hname, SeriesCall.fills]
        rfl
  | carryForward names => exact s.slots_carryForward names name

/-- Filling gaps creates no series. -/
theorem contains_carryForward (s : SeriesSet α) (covered : Option (List String)) (name : String) :
    (s.carryForward covered).series.contains name = s.series.contains name := by
  show ((s.series.mapValues _).get? name).isSome = _
  rw [Dict.get?_mapValues, Option.isSome_map, Dict.contains]

/-- A call creates the series into which it puts a value on the axis. -/
theorem contains_after (s : SeriesSet α) (call : SeriesCall α) (name : String) :
    (s.after call).series.contains name = true ↔
      s.series.contains name = true ∨ (call.landing? s.axis name).isSome = true := by
  cases call with
  | put key n value =>
    cases h : s.axis.position? key.label with
    | none =>
      rw [after, put_of_none h]
      simp [SeriesCall.landing?, h]
    | some i =>
      rw [after, put_of_some h]
      show ((s.series.insert n _).get? name).isSome = true ↔ _
      rw [Dict.get?_insert]
      by_cases hname : n = name
      · simp [SeriesCall.landing?, h, hname]
      · simp [SeriesCall.landing?, hname, Ne.symm hname, Dict.contains]
  | carryForward names =>
    rw [after, contains_carryForward]
    simp [SeriesCall.landing?]

/-! ### Series from the beginning -/

/-- Creating series writes no slot. -/
theorem slots_withAll (s : SeriesSet α) (names : List String) (name : String) :
    (s.withAll names).slots name = s.slots name := by
  induction names generalizing s with
  | nil => rfl
  | cons first rest ih =>
    rw [withAll, List.foldl_cons, ← withAll, ih, slots, withSeries, Dict.get?_insert]
    split_ifs with h
    · rw [h, Option.getD_some]
    · rfl

/-- There are the series from before and those that are asked for. -/
theorem contains_withAll (s : SeriesSet α) (names : List String) (name : String) :
    (s.withAll names).series.contains name = true ↔
      s.series.contains name = true ∨ name ∈ names := by
  induction names generalizing s with
  | nil => simp [withAll]
  | cons first rest ih =>
    have hfirst : (s.withSeries first).series.contains name = true ↔
        s.series.contains name = true ∨ name = first := by
      show ((s.series.insert first _).get? name).isSome = true ↔ _
      rw [Dict.get?_insert]
      by_cases h : name = first <;> simp [h, Dict.contains]
    rw [withAll, List.foldl_cons, ← withAll, ih, hfirst, List.mem_cons, or_assoc]

theorem withAll_axis (s : SeriesSet α) (names : List String) : (s.withAll names).axis = s.axis := by
  induction names generalizing s with
  | nil => rfl
  | cons first rest ih => exact ih (s.withSeries first)

/-! ### Runs -/

variable {a : Axis} {zero : α} {names : List String}

/-- The set has the series it began with and those into which values were put, each with one slot
for every point, and the slots follow their history. -/
structure Records (a : Axis) (zero : α) (names : List String) (calls : List (SeriesCall α))
    (s : SeriesSet α) : Prop where
  axis_eq : s.axis = a
  contains_iff : ∀ name, s.series.contains name = true ↔ name ∈ names ∨ putsInto a name calls ≠ []
  length_slots : ∀ name, (s.slots name).length = a.size
  follow : ∀ name, SlotsFollow zero (putsInto a name calls) (s.slots name)

/-- A call adds to the history what it puts, if anything. -/
theorem putsInto_concat (a : Axis) (name : String) (calls : List (SeriesCall α))
    (call : SeriesCall α) : putsInto a name (calls ++ [call]) =
      putsInto a name calls ++ (call.landing? a name).toList := by
  rw [putsInto, List.filterMap_append, ← putsInto, List.filterMap_cons, List.filterMap_nil]
  cases call.landing? a name <;> rfl

/-- In the beginning every series has blank slots only. -/
theorem slots_ofAxis (a : Axis) (zero : α) (names : List String) (name : String) :
    ((ofAxis a zero).withAll names).slots name = List.replicate a.size ⟨zero, false⟩ :=
  slots_withAll _ names name

/-- A set of series begins with an empty record. -/
theorem records_ofAxis (a : Axis) (zero : α) (names : List String) :
    Records a zero names [] ((ofAxis a zero).withAll names) where
  axis_eq := withAll_axis _ names
  contains_iff name := by
    rw [contains_withAll]
    simp [putsInto, ofAxis, Dict.contains, EmptyCollection.emptyCollection]
  length_slots name := by rw [slots_ofAxis, List.length_replicate]
  follow name := by
    rw [slots_ofAxis]
    exact SlotsFollow.blank zero a.size

/-- A call keeps up the record. -/
theorem Records.after {calls : List (SeriesCall α)} {s : SeriesSet α}
    (h : Records a zero names calls s) (call : SeriesCall α) :
    Records a zero names (calls ++ [call]) (s.after call) := by
  obtain ⟨rfl, hcontains, hlength, hfollow⟩ := h
  refine ⟨s.after_axis call, fun name => ?_, fun name => ?_, fun name => ?_⟩
  · -- a series is created by the first value that is put into it
    rw [contains_after, hcontains, putsInto_concat]
    cases call.landing? s.axis name <;> simp
  · rw [slots_after]
    split
    · rw [List.length_set, hlength]
    · split_ifs
      · rw [length_fill, hlength]
      · exact hlength name
  · -- a value that is put belongs to the history from now on; a filling leaves no trace there
    rw [slots_after, putsInto_concat]
    cases call.landing? s.axis name with
    | some e => exact (hfollow name).set e.1 e.2
    | none =>
      rw [Option.toList_none, List.append_nil]
      dsimp only
      split_ifs
      · exact (hfollow name).fill
      · exact hfollow name

/-- **Records of runs.** After any calls the set keeps the record of all of them. -/
theorem records_afterAll (a : Axis) (zero : α) (names : List String)
    (calls : List (SeriesCall α)) :
    Records a zero names calls (((ofAxis a zero).withAll names).afterAll calls) := by
  -- the set is folded from the left, so the induction takes the last call off
  induction calls using List.reverseRecOn with
  | nil => exact records_ofAxis a zero names
  | append_singleton calls call ih =>
    rw [afterAll_concat]
    exact ih.after call

/-! ### What is shown -/

/-- A value for each of `n` points: what `f` has there, and `zero` where it has nothing. -/
def dense (zero : α) (n : Nat) (f : Nat → Option α) : List α :=
  (List.range n).map fun i => (f i).getD zero

theorem length_dense (zero : α) (n : Nat) (f : Nat → Option α) : (dense zero n f).length = n := by
  rw [dense, List.length_map, List.length_range]

/-- What `f` has at a point, or zero. -/
theorem getElem_dense (zero : α) {n i : Nat} (f : Nat → Option α)
    (hi : i < (dense zero n f).length) : (dense zero n f)[i] = (f i).getD zero := by
  simp only [dense, List.getElem_map, List.getElem_range]

/-- A series shows what its slots show. -/
theorem get?_values (s : SeriesSet α) (name : String) : s.values.get? name =
    if s.series.contains name then some ((s.slots name).map Slot.shown) else none := by
  rw [values, Dict.get?_mapValues, slots, Dict.contains]
  cases s.series.get? name <;> rfl

/-- Filling the gaps of other series changes nothing. -/
theorem get?_values_carryForward_of_not_covered (s : SeriesSet α) {name : String}
    {covered : Option (List String)} (h : ¬covered.all (fun l => l.contains name) = true) :
    (s.carryForward covered).values.get? name = s.values.get? name := by
  rw [get?_values, get?_values, contains_carryForward, slots_carryForward, if_neg h]

/-- A series is dense if its slots show what `f` has, or zero. -/
theorem get?_values_eq_dense {s : SeriesSet α} {name : String} {n : Nat} {f : Nat → Option α}
    (hname : s.series.contains name = true) (hlength : (s.slots name).length = n)
    (h : ∀ i slot, (s.slots name)[i]? = some slot → slot.shown = (f i).getD zero) :
    s.values.get? name = some (dense zero n f) := by
  rw [get?_values, if_pos hname]
  congr 1
  refine List.ext_getElem (by rw [List.length_map, hlength, length_dense]) fun i hi hi' => ?_
  rw [List.getElem_map, getElem_dense]
  exact h i _ (List.getElem?_eq_getElem _)

namespace Records

variable {calls : List (SeriesCall α)} {s : SeriesSet α} {name : String}

theorem length_of_get?_values (h : Records a zero names calls s) {values : List α}
    (hvalues : s.values.get? name = some values) : values.length = a.size := by
  rw [get?_values] at hvalues
  split_ifs at hvalues
  rw [← Option.some.inj hvalues, List.length_map, h.length_slots]

/-- Right after its gaps have been filled a series shows, at every point, the value of the nearest
point up to it at which any was put. -/
theorem get?_values_carryForward (h : Records a zero names calls s)
    (hname : s.series.contains name = true) {covered : Option (List String)}
    (hcovered : covered.all (fun l => l.contains name) = true) :
    (s.carryForward covered).values.get? name =
      some (dense zero a.size (nearest? (lastAt? (putsInto a name calls)))) := by
  have hslots : (s.carryForward covered).slots name = fill none (s.slots name) := by
    rw [slots_carryForward, if_pos hcovered]
  apply get?_values_eq_dense
  · rwa [contains_carryForward]
  · rw [hslots, length_fill, h.length_slots]
  · intro i slot hslot
    rw [hslots, (h.follow name).getElem?_fill, Option.map_eq_some_iff] at hslot
    obtain ⟨-, -, rfl⟩ := hslot
    rfl

end Records

/-- A slot of a series whose gaps are never filled shows the last value that was put there. -/
theorem shown_of_unfilled {calls : List (SeriesCall α)} {name : String}
    (h : ∀ call ∈ calls, call.fills name = false) {i : Nat} {slot : Slot α}
    (hslot : ((((ofAxis a zero).withAll names).afterAll calls).slots name)[i]? = some slot) :
    slot.shown = (lastAt? (putsInto a name calls) i).getD zero := by
  induction calls using List.reverseRecOn generalizing slot with
  | nil =>
    rw [afterAll, List.foldl_nil, slots_ofAxis, List.getElem?_replicate] at hslot
    split_ifs at hslot
    obtain rfl := Option.some.inj hslot
    rfl
  | append_singleton calls call ih =>
    have hrun := records_afterAll a zero names calls
    have hcalls : ∀ c ∈ calls, c.fills name = false := fun c hc => h c (List.mem_append_left _ hc)
    -- the last call has put a value here, or has put one elsewhere, or none
    rw [afterAll_concat, slots_after, hrun.axis_eq] at hslot
    rw [putsInto_concat]
    cases hland : call.landing? a name with
    | none =>
      rw [hland] at hslot
      dsimp only at hslot
      rw [h call (by simp), if_neg (by simp)] at hslot
      rw [Option.toList_none, List.append_nil, ih hcalls hslot]
    | some e =>
      rw [hland] at hslot
      dsimp only at hslot
      rw [List.getElem?_set] at hslot
      rw [Option.toList_some, lastAt?_concat]
      split_ifs at hslot ⊢ with hi
      · obtain rfl := Option.some.inj hslot
        rfl
      · exact ih hcalls hslot

/-- A series whose gaps are never filled shows the last values that were put, and zero between. -/
theorem get?_values_of_unfilled {calls : List (SeriesCall α)} {name : String}
    (h : ∀ call ∈ calls, call.fills name = false)
    (hname : name ∈ names ∨ putsInto a name calls ≠ []) :
    (((ofAxis a zero).withAll names).afterAll calls).values.get? name =
      some (dense zero a.size (lastAt? (putsInto a name calls))) := by
  have hrun := records_afterAll a zero names calls
  exact get?_values_eq_dense ((hrun.contains_iff name).mpr hname) (hrun.length_slots name)
    fun i slot hslot => shown_of_unfilled h hslot

/-! ### The law -/

/-- A value is put iff its bucket is on the axis. -/
theorem put_snd_iff (s : SeriesSet α) (key : BucketKey) (name : String) (value : α) :
    (s.put key name value).2 = true ↔ key.label ∈ s.axis.labels := by
  rw [← Axis.isSome_position?_iff]
  cases h : s.axis.position? key.label with
  | none => simp [put_of_none h]
  | some i => simp [put_of_some h]

/-- A value that is not put changes nothing. -/
theorem put_fst_of_snd {s : SeriesSet α} {key : BucketKey} {name : String} {value : α}
    (h : (s.put key name value).2 = false) : (s.put key name value).1 = s := by
  cases hpos : s.axis.position? key.label with
  | none => rw [put_of_none hpos]
  | some i =>
    rw [put_of_some hpos] at h
    contradiction

/-- The calls that put values. -/
def putCalls (calls : List (SeriesCall α)) : List (SeriesCall α) :=
  calls.filter fun
    | .put .. => true
    | .carryForward _ => false

/-- The history of a run is that of its values alone. -/
theorem putsInto_putCalls (a : Axis) (name : String) (calls : List (SeriesCall α)) :
    putsInto a name (putCalls calls) = putsInto a name calls := by
  rw [putsInto, putCalls, List.filterMap_filter, putsInto]
  congr 1
  funext call
  cases call <;> rfl

/-- The series of a set after any calls.  There are those it began with and those into which values
were put, each with one value for every point.  A value is put iff its bucket is on the axis, and
otherwise nothing changes.  Right after its gaps have been filled a series shows, at every point,
the last value that was put at the nearest point up to it at which any was put; fillings before
make no difference. -/
theorem afterAll_carryForward (a : Axis) (zero : α) (names : List String)
    (calls : List (SeriesCall α)) :
    let run (calls : List (SeriesCall α)) := ((ofAxis a zero).withAll names).afterAll calls
    let s := run calls
    (∀ name, s.series.contains name = true ↔ name ∈ names ∨ putsInto a name calls ≠ []) ∧
    (∀ name values, s.values.get? name = some values → values.length = a.size) ∧
    (∀ key name value, (s.put key name value).2 = true ↔ key.label ∈ a.labels) ∧
    (∀ key name value, (s.put key name value).2 = false → (s.put key name value).1 = s) ∧
    ∀ name covered, s.series.contains name = true → (∀ l ∈ covered, name ∈ l) →
      (s.carryForward covered).values.get? name =
        some (dense zero a.size (nearest? (lastAt? (putsInto a name calls)))) ∧
      ((run (putCalls calls)).carryForward covered).values.get? name =
        (s.carryForward covered).values.get? name := by
  intro run s
  have h : Records a zero names calls s := records_afterAll a zero names calls
  refine ⟨h.contains_iff, fun name values => h.length_of_get?_values, fun key name value => ?_,
    fun key name value => put_fst_of_snd, fun name covered hname hcovered => ?_⟩
  · rw [put_snd_iff, h.axis_eq]
  · -- the run without its fillings has the same history
    have hputs : Records a zero names (putCalls calls) (run (putCalls calls)) :=
      records_afterAll a zero names (putCalls calls)
    have hname' : (run (putCalls calls)).series.contains name = true := by
      rwa [hputs.contains_iff, putsInto_putCalls, ← h.contains_iff]
    have hcovered : covered.all (fun l => l.contains name) = true := by
      simpa [Option.all_eq_true] using hcovered
    rw [hputs.get?_values_carryForward hname' hcovered, putsInto_putCalls,
      h.get?_values_carryForward hname hcovered]
    exact ⟨rfl, rfl⟩

/-- Values before, on and behind slots that are already filled; one bucket is off the axis. -/
theorem afterAll_carryForward_visits :
    let axis : Axis :=
      ⟨.day, ["2024-01-01", "2024-01-02", "2024-01-03", "2024-01-04", "2024-01-05"], []⟩
    let january (day : Nat) : BucketKey := ⟨2024, some 1, some day, none, none⟩
    let calls : List (SeriesCall Int) :=
      [.put (january 4) "visits" 7, .carryForward none, .put (january 2) "visits" 2,
        .carryForward (some ["visits"]), .put (january 2) "visits" 3, .put (january 4) "visits" 5,
        .put (january 9) "visits" 8]
    let s := ((ofAxis axis 0).withAll ["visits", "sdur"]).afterAll calls
    s.series.contains "visits" = true ∧
      (s.carryForward (some ["visits"])).values.get? "visits" = some [0, 3, 3, 5, 5] ∧
      (s.put (january 9) "visits" 8).2 = false ∧ (s.put (january 9) "visits" 8).1 = s := by
  intro axis january calls s
  obtain ⟨hcontains, -, hput, hsame, hfilled⟩ :=
    afterAll_carryForward axis 0 ["visits", "sdur"] calls
  have hvisits : s.series.contains "visits" = true := (hcontains "visits").mpr (.inl (by decide))
  have hoff : (s.put (january 9) "visits" 8).2 = false := by
    rw [← Bool.not_eq_true, hput]
    decide +kernel
  obtain ⟨hshown, -⟩ := hfilled "visits" (some ["visits"]) hvisits fun l hl => by
    obtain rfl := Option.some.inj hl
    exact List.mem_singleton_self "visits"
  exact ⟨hvisits, hshown.trans (by decide +kernel), hoff, hsame _ _ _ hoff⟩

end SeriesSet

end SiteAnalytics
