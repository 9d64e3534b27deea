import JavaxUsbLinux.Runs

/-!
# Responses within a bounded number of steps

A system owes a response. While it is due, a number of steps that it still has to
go never grows, and each step of the kind that is counted makes it smaller. Such
a response comes before more of these steps have been taken than there were to
go, however many other steps come between them.
-/

namespace JavaxUsbLinux.BoundedResponse

open JavaxUsbLinux.Runs

set_option autoImplicit false

variable {State Label : Type*}

/-- The labels of a run between two states whose steps are `allowed`. -/
inductive Path (step : State → Label → Option State) (allowed : State → Label → Prop) :
    State → List Label → State → Prop
  | done (state : State) : Path step allowed state [] state
  | next {before middle after : State} {label : Label} {labels : List Label}
      (permitted : allowed before label) (taken : step before label = some middle)
      (later : Path step allowed middle labels after) :
      Path step allowed before (label :: labels) after

section

variable {step : State → Label → Option State} {allowed : State → Label → Prop}
variable {before middle after : State} {labels front back : List Label}

theorem Path.append (first : Path step allowed before front middle)
    (second : Path step allowed middle back after) :
    Path step allowed before (front ++ back) after := by
  induction first with
  | done => exact second
  | next permitted taken _ ih => exact .next permitted taken (ih second)

theorem Path.weaken {weaker : State → Label → Prop} (path : Path step allowed before labels after)
    (implies : ∀ state label, allowed state label → weaker state label) :
    Path step weaker before labels after := by
  induction path with
  | done state => exact .done state
  | next permitted taken _ ih => exact .next (implies _ _ permitted) taken ih

theorem Path.reach {start : State} (path : Path step allowed before labels after)
    (reached : Reach step allowed start before) : Reach step allowed start after := by
  induction path with
  | done => exact reached
  | next permitted taken _ ih => exact ih (.next reached permitted taken)

theorem path_of_checked {test : State → Label → Bool}
    (passes : ∀ state label, test state label = true → allowed state label)
    (labels : List Label) {before : State}
    (ran : run (checked step test) labels before = some after) :
    Path step allowed before labels after := by
  induction labels generalizing before with
  | nil =>
      rw [← Option.some.inj ran]
      exact .done before
  | cons label labels ih =>
      simp only [run, List.foldlM_cons, Option.bind_eq_bind, Option.bind_eq_some_iff] at ran
      obtain ⟨middle, taken, later⟩ := ran
      simp only [checked, Option.ite_none_right_eq_some] at taken
      exact .next (passes before label taken.1) taken.2 (ih later)

/-- While a response is due with at most so many counted steps to go, every step
gives it, or keeps it due with no more to go, and a counted step with one less. -/
def Draws (step : State → Label → Option State) (allowed : State → Label → Prop)
    (counted : Label → Bool) (due : Nat → State → Prop) (given : State → Prop) : Prop :=
  ∀ left before label after, due left before → allowed before label →
    step before label = some after →
      given after ∨ ∃ rest, due rest after ∧ rest + (counted label).toNat ≤ left

/-- A path comes to a state with this property after at most so many counted steps. -/
structure Meets (step : State → Label → Option State) (allowed : State → Label → Prop)
    (counted : Label → Bool) (given : State → Prop) (bound : Nat) (before : State)
    (labels : List Label) (after : State) : Prop where
  split : ∃ front middle back, labels = front ++ back ∧
    Path step allowed before front middle ∧ given middle ∧
    Path step allowed middle back after ∧ front.countP counted ≤ bound

variable {counted : Label → Bool} {due : Nat → State → Prop} {given : State → Prop}

/-- A response comes within the steps that it has to go, and one more. -/
theorem Path.meets (path : Path step allowed before labels after)
    (draws : Draws step allowed counted due given) {left bound : Nat} (starts : due left before)
    (within : left < bound) (long : bound ≤ labels.countP counted) :
    Meets step allowed counted given bound before labels after := by
  induction path generalizing left bound with
  | done =>
      rw [List.countP_nil] at long
      omega
  | @next before middle after label labels permitted taken later ih =>
      have one : [label].countP counted = (counted label).toNat := by
        cases here : counted label <;> simp [here]
      rw [← List.singleton_append, List.countP_append, one] at long
      rcases draws left before label middle starts permitted taken with
        response | ⟨rest, still, falls⟩
      · refine ⟨[label], middle, labels, rfl, .next permitted taken (.done middle), response,
          later, ?_⟩
        rw [one]
        have small := Bool.toNat_le (counted label)
        omega
      · obtain ⟨front, place, back, rfl, first, response, tail, bounded⟩ :=
          (ih still (show rest < bound - (counted label).toNat by omega) (by omega)).split
        refine ⟨label :: front, place, back, rfl, .next permitted taken first, response, tail, ?_⟩
        rw [← List.singleton_append, List.countP_append, one]
        omega

end

/-! ### Places in a queue -/

section

variable {Item : Type*} [BEq Item] [LawfulBEq Item] {item other : Item}

theorem idxOf_erase_le (different : item ≠ other) (list : List Item) :
    (list.erase other).idxOf item ≤ list.idxOf item := by
  induction list with
  | nil => simp
  | cons first rest ih =>
      by_cases gone : first = other
      · subst gone
        rw [List.erase_cons_head, List.idxOf_cons_ne rest different.symm]
        exact Nat.le_succ _
      · rw [List.erase_cons_tail (by simpa using gone)]
        by_cases same : first = item
        · rw [List.idxOf_cons_eq _ same]
          exact Nat.zero_le _
        · rw [List.idxOf_cons_ne _ same, List.idxOf_cons_ne _ same]
          exact Nat.succ_le_succ ih

theorem idxOf_le_of_getElem? {list : List Item} {index : Nat} (here : list[index]? = some item) :
    list.idxOf item ≤ index := by
  induction list generalizing index with
  | nil => simp at here
  | cons first rest ih =>
      by_cases same : first = item
      · rw [List.idxOf_cons_eq _ same]
        exact Nat.zero_le _
      · rw [List.idxOf_cons_ne _ same]
        cases index with
        | zero => exact absurd (Option.some.inj here) same
        | succ index => exact Nat.succ_le_succ (ih here)

end

end JavaxUsbLinux.BoundedResponse
