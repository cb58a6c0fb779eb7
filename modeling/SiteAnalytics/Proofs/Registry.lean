import Mathlib.Data.List.Induction
import SiteAnalytics.Proofs.Dict
import SiteAnalytics.Proofs.Text.Blank
import SiteAnalytics.Project

/-!
# Funnels in a registry

What is found in a registry after projects have been added and funnels saved, in any order and with
any ids.  Only funnels with valid steps are accepted (`check_eq_ok_iff`), so only those are ever
found.  A funnel is kept under its own id, whichever project it is of, and is found only by way of
its project; hence what is found is the last funnel that was accepted under the id, provided that
it is of the project (`funnel?_afterAll`).

It follows that projects are not apart from each other: a funnel is lost when another project saves
one with the same id (`funnel?_lost_to_other_project`).
-/

namespace SiteAnalytics

/-! ### Valid steps -/

namespace Funnel

/-- Steps that make a funnel: 2 to 10 of them, each with a character that is not blank. -/
def IsValid (steps : List String) : Prop :=
  2 ≤ steps.length ∧ steps.length ≤ 10 ∧
    ∀ step ∈ steps, ∃ c ∈ step.toList, Text.isBlank c = false

instance (steps : List String) : Decidable (IsValid steps) :=
  -- goes through the characters of a step, not through all there are
  let _ (step : String) : Decidable (∃ c ∈ step.toList, Text.isBlank c = false) :=
    List.decidableBEx _ _
  inferInstanceAs (Decidable (_ ∧ _ ∧ _))

theorem check_eq_ok_iff {steps : List String} : check steps = .ok () ↔ IsValid steps := by
  have hnonblank : (steps.any fun step => (Text.trimmed? step).isNone) = false ↔
      ∀ step ∈ steps, ∃ c ∈ step.toList, Text.isBlank c = false := by
    rw [List.any_eq_false]
    refine forall₂_congr fun step _ => ?_
    rw [Text.isNone_trimmed?_iff]
    simp
  rw [check, IsValid, ← hnonblank, minSteps, maxSteps]
  split_ifs with hcount hblank
  · simp only [Bool.or_eq_true, decide_eq_true_eq] at hcount
    simp only [false_iff]
    omega
  · simp [hblank]
  · simp only [Bool.or_eq_true, decide_eq_true_eq] at hcount
    rw [Bool.not_eq_true] at hblank
    simp only [true_iff]
    exact ⟨by omega, by omega, hblank⟩

end Funnel

/-! ### Calls -/

/-- Something that changes a registry. -/
inductive RegistryCall
  | addProject (p : Project)
  | saveFunnel (f : SavedFunnel)

namespace RegistryCall

/-- The funnel that a call saves, if it is accepted. -/
def accepted? : RegistryCall → Option SavedFunnel
  | addProject _ => none
  | saveFunnel f => if Funnel.IsValid f.steps then some f else none

end RegistryCall

namespace Registry

/-- The registry after a call. A funnel that is not accepted leaves it as it is. -/
def after (r : Registry) : RegistryCall → Registry
  | .addProject p => r.addProject p
  | .saveFunnel f =>
    match r.saveFunnel f with
    | .ok r' => r'
    | .error _ => r

/-- The registry after calls on an empty one. -/
def afterAll (calls : List RegistryCall) : Registry := calls.foldl after empty

/-- The last of the accepted funnels that pass a test. -/
def lastAccepted? (calls : List RegistryCall) (p : SavedFunnel → Bool) : Option SavedFunnel :=
  ((calls.filterMap RegistryCall.accepted?).filter p).getLast?

/-! ### One call -/

theorem saveFunnel_of_isValid (r : Registry) {f : SavedFunnel} (h : Funnel.IsValid f.steps) :
    r.saveFunnel f = .ok { r with funnels := r.funnels.insert f.id f } := by
  rw [saveFunnel, Funnel.check_eq_ok_iff.mpr h]
  rfl

theorem exists_saveFunnel_eq_error (r : Registry) {f : SavedFunnel}
    (h : ¬Funnel.IsValid f.steps) : ∃ cause, r.saveFunnel f = .error cause := by
  rw [saveFunnel]
  cases hcheck : Funnel.check f.steps with
  | error cause => exact ⟨cause, rfl⟩
  | ok => exact absurd (Funnel.check_eq_ok_iff.mp hcheck) h

theorem isOk_saveFunnel_iff (r : Registry) (f : SavedFunnel) :
    (r.saveFunnel f).isOk = true ↔ Funnel.IsValid f.steps := by
  by_cases h : Funnel.IsValid f.steps
  · simp [r.saveFunnel_of_isValid h, h, Except.isOk, Except.toBool]
  · obtain ⟨cause, hcause⟩ := r.exists_saveFunnel_eq_error h
    simp [hcause, h, Except.isOk, Except.toBool]

/-- What is not accepted changes nothing. -/
theorem after_saveFunnel_of_not_isValid (r : Registry) {f : SavedFunnel}
    (h : ¬Funnel.IsValid f.steps) : r.after (.saveFunnel f) = r := by
  obtain ⟨cause, hcause⟩ := r.exists_saveFunnel_eq_error h
  rw [after, hcause]

/-- An accepted funnel is the one under its id from then on, and nothing changes under other ids. -/
theorem get?_funnels_after (r : Registry) (call : RegistryCall) (id : String) :
    (r.after call).funnels.get? id =
      (call.accepted?.filter fun f => f.id == id).or (r.funnels.get? id) := by
  cases call with
  | addProject p => rfl
  | saveFunnel f =>
    by_cases hvalid : Funnel.IsValid f.steps
    · rw [after, r.saveFunnel_of_isValid hvalid, RegistryCall.accepted?, if_pos hvalid]
      show (r.funnels.insert f.id f).get? id = _
      rw [Dict.get?_insert, Option.filter_some]
      by_cases hid : id = f.id
      · simp [hid]
      · simp [hid, Ne.symm hid]
    · rw [r.after_saveFunnel_of_not_isValid hvalid, RegistryCall.accepted?, if_neg hvalid]
      rfl

/-! ### Many calls -/

theorem lastAccepted?_concat (calls : List RegistryCall) (call : RegistryCall)
    (p : SavedFunnel → Bool) :
    lastAccepted? (calls ++ [call]) p = (call.accepted?.filter p).or (lastAccepted? calls p) := by
  rw [lastAccepted?, List.filterMap_append, List.filter_append, List.getLast?_append]
  congr 1
  rw [List.filterMap_cons, List.filterMap_nil]
  cases call.accepted? with
  | none => rfl
  | some f => by_cases hp : p f <;> simp [Option.filter_some, hp]

theorem isValid_of_lastAccepted? {calls : List RegistryCall} {p : SavedFunnel → Bool}
    {f : SavedFunnel} (h : lastAccepted? calls p = some f) :
    Funnel.IsValid f.steps ∧ p f = true := by
  obtain ⟨hmem, hp⟩ := List.mem_filter.mp (List.mem_of_getLast? h)
  obtain ⟨call, -, hcall⟩ := List.mem_filterMap.mp hmem
  refine ⟨?_, hp⟩
  cases call with
  | addProject _ => contradiction
  | saveFunnel g =>
    rw [RegistryCall.accepted?] at hcall
    split_ifs at hcall with hvalid
    rwa [← Option.some.inj hcall]

/-- Under an id stands the last funnel that was accepted under it, of whichever project. -/
theorem get?_funnels_afterAll (calls : List RegistryCall) (id : String) :
    (afterAll calls).funnels.get? id = lastAccepted? calls fun f => f.id == id := by
  induction calls using List.reverseRecOn with
  | nil => rfl
  | append_singleton calls call ih =>
    rw [afterAll, List.foldl_append, List.foldl_cons, List.foldl_nil, ← afterAll,
      get?_funnels_after, ih, lastAccepted?_concat]

/-- If the last of some funnels passes a further test, it is the last of those that do. -/
theorem lastAccepted?_and {calls : List RegistryCall} {p q : SavedFunnel → Bool} {f : SavedFunnel}
    (h : lastAccepted? calls p = some f) (hq : q f = true) :
    lastAccepted? calls (fun f => q f && p f) = some f := by
  obtain ⟨earlier, hearlier⟩ := List.getLast?_eq_some_iff.mp h
  rw [lastAccepted?, ← List.filter_filter, hearlier, List.filter_append]
  simp [hq]

/-- A project finds its own last funnel under an id exactly if no other project's stands there. -/
theorem funnel?_eq_lastAccepted?_iff (calls : List RegistryCall) (pid id : String) :
    let own := lastAccepted? calls fun f => f.pid == pid && f.id == id
    (afterAll calls).funnel? pid id = own ↔
      own = none ∨ ∀ f, (lastAccepted? calls fun f => f.id == id) = some f → f.pid = pid := by
  intro own
  rw [funnel?, get?_funnels_afterAll]
  cases hlast : lastAccepted? calls fun f => f.id == id with
  | none =>
    have hown : own = none := by
      -- what is of the project under the id is under the id
      have hnil := List.getLast?_eq_none_iff.mp hlast
      show lastAccepted? _ _ = none
      rw [lastAccepted?, ← List.filter_filter, hnil]
      rfl
    simp [hown]
  | some f =>
    by_cases hpid : f.pid = pid
    · have hown : own = some f := lastAccepted?_and (q := fun f => f.pid == pid) hlast (by simpa)
      simp [hown, hpid]
    · have hnone : (some f).filter (fun f => f.pid == pid) = none := by
        simp [Option.filter_some, hpid]
      rw [hnone, eq_comm]
      simp [hpid]

/-! ### What a project finds -/

/-- **Saved funnels.** Whatever has been added and saved, under a project and an id the last funnel
that was accepted under the id is found, if it is of the project.  This is the last one accepted for
project and id exactly if there is none for them or no other project has saved one in its place.
Every funnel found is valid.  One that is not is refused, and all is then as if nothing had been
asked; one that is accepted is found from then on, in place of any other under its id. -/
theorem funnel?_afterAll (calls : List RegistryCall) (pid id : String) :
    let r := afterAll calls
    let last := lastAccepted? calls fun f => f.id == id
    let own := lastAccepted? calls fun f => f.pid == pid && f.id == id
    r.funnel? pid id = last.filter (fun f => f.pid == pid) ∧
      (r.funnel? pid id = own ↔ own = none ∨ ∀ f, last = some f → f.pid = pid) ∧
      (∀ f, r.funnel? pid id = some f → Funnel.IsValid f.steps) ∧
      ∀ f, ((r.saveFunnel f).isOk = true ↔ Funnel.IsValid f.steps) ∧
        (¬Funnel.IsValid f.steps → ∀ later,
          afterAll (calls ++ .saveFunnel f :: later) = afterAll (calls ++ later)) ∧
        (Funnel.IsValid f.steps → (afterAll (calls ++ [.saveFunnel f])).funnel? pid id =
          if f.id = id then if f.pid = pid then some f else none else r.funnel? pid id) := by
  intro r last own
  have hfound : r.funnel? pid id = last.filter fun f => f.pid == pid := by
    rw [funnel?, get?_funnels_afterAll]
  refine ⟨hfound, funnel?_eq_lastAccepted?_iff calls pid id, ?_, fun f => ⟨?_, ?_, ?_⟩⟩
  · intro f hf
    rw [hfound, Option.filter_eq_some_iff] at hf
    exact (isValid_of_lastAccepted? hf.1).1
  · exact r.isOk_saveFunnel_iff f
  · intro hinvalid later
    rw [afterAll, List.foldl_append, List.foldl_cons, ← afterAll,
      (afterAll calls).after_saveFunnel_of_not_isValid hinvalid, afterAll, ← List.foldl_append]
    rfl
  · intro hvalid
    rw [funnel?, get?_funnels_afterAll, lastAccepted?_concat, RegistryCall.accepted?, if_pos hvalid,
      hfound, Option.filter_some]
    by_cases hid : f.id = id
    · by_cases hpid : f.pid = pid <;> simp [hid, hpid]
    · simp [hid, last]

/-- A funnel is saved, and another project saves one under another id. A funnel of a single step is
refused; one that the other project saves under the same id is not. -/
theorem funnel?_afterAll_signup :
    let signup : SavedFunnel := ⟨"f1", "p1", "Signup", ["/", "/signup"]⟩
    let short : SavedFunnel := ⟨"f1", "p1", "Short", ["/"]⟩
    let sale : SavedFunnel := ⟨"f1", "p2", "Sale", ["/cart", "/paid"]⟩
    let calls : List RegistryCall :=
      [.saveFunnel signup, .addProject (.bare "p2"), .saveFunnel { sale with id := "f2" }]
    (afterAll calls).funnel? "p1" "f1" = some signup ∧ Funnel.IsValid signup.steps ∧
      ¬Funnel.IsValid short.steps ∧
      (∀ later, afterAll (calls ++ .saveFunnel short :: later) = afterAll (calls ++ later)) ∧
      Funnel.IsValid sale.steps ∧
      (afterAll (calls ++ [.saveFunnel sale])).funnel? "p1" "f1" = none := by
  intro signup short sale calls
  obtain ⟨hfound, -, hvalid, hcalls⟩ := funnel?_afterAll calls "p1" "f1"
  have hsignup : (afterAll calls).funnel? "p1" "f1" = some signup :=
    hfound.trans (by decide +kernel)
  have hshort : ¬Funnel.IsValid short.steps := by decide +kernel
  have hsale : Funnel.IsValid sale.steps := by decide +kernel
  exact ⟨hsignup, hvalid signup hsignup, hshort, (hcalls short).2.1 hshort, hsale,
    (hcalls sale).2.2 hsale⟩

/-- A project saves a funnel and finds it.  Another project saves one under the same id, and the
first does not find its own any longer, although it has saved no other. -/
theorem funnel?_lost_to_other_project :
    let signup : SavedFunnel := ⟨"f1", "p1", "Signup", ["/", "/signup"]⟩
    let sale : SavedFunnel := ⟨"f1", "p2", "Sale", ["/cart", "/paid"]⟩
    let calls : List RegistryCall := [.saveFunnel signup, .saveFunnel sale]
    (afterAll [.saveFunnel signup]).funnel? "p1" "f1" = some signup ∧
      lastAccepted? calls (fun f => f.pid == "p1" && f.id == "f1") = some signup ∧
      (afterAll calls).funnel? "p1" "f1" = none ∧
      (afterAll calls).funnel? "p2" "f1" = some sale := by
  decide +kernel

end Registry

end SiteAnalytics
