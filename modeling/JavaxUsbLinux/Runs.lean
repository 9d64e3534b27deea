import Mathlib.Algebra.BigOperators.Group.Finset.Piecewise
import Mathlib.Data.Fintype.Card
import Mathlib.Data.List.Basic
import Mathlib.Logic.Function.Basic

/-!
# Runs of a system that takes labelled steps

A system is a partial step function: in a given state each label either cannot
occur or leads to one next state. `Reach` collects the states of all runs whose
steps meet a condition, which may look at the state before the step. The module
proves invariants over runs and follows a run through a simulation.
-/

namespace JavaxUsbLinux.Runs

set_option autoImplicit false

variable {State Label Other Move : Type*}

/-- The states reached from `start` by steps that are `allowed`. -/
inductive Reach (step : State → Label → Option State) (allowed : State → Label → Prop)
    (start : State) : State → Prop
  | start : Reach step allowed start start
  | next {before after : State} {label : Label} (reached : Reach step allowed start before)
      (permitted : allowed before label) (taken : step before label = some after) :
      Reach step allowed start after

def anyStep (_ : State) (_ : Label) : Prop := True

def run (step : State → Label → Option State) (labels : List Label) (start : State) :
    Option State :=
  labels.foldlM step start

namespace Reach

variable {step : State → Label → Option State} {allowed weaker : State → Label → Prop}
variable {start state : State}

/-- What holds at the start and is kept by every step holds in every state reached. -/
theorem invariant (inv : State → Prop) (reached : Reach step allowed start state)
    (initial : inv start)
    (kept : ∀ before label after, inv before → allowed before label →
      step before label = some after → inv after) : inv state := by
  induction reached with
  | start => exact initial
  | next _ permitted taken ih => exact kept _ _ _ ih permitted taken

/-- An invariant whose step lemma may use another invariant that is known to hold. -/
theorem invariant_with (known inv : State → Prop) (reached : Reach step allowed start state)
    (fact : ∀ state, Reach step allowed start state → known state) (initial : inv start)
    (kept : ∀ before label after, known before → inv before → allowed before label →
      step before label = some after → inv after) : inv state := by
  induction reached with
  | start => exact initial
  | next reached permitted taken ih => exact kept _ _ _ (fact _ reached) ih permitted taken

theorem weaken (reached : Reach step allowed start state)
    (implies : ∀ before label, allowed before label → weaker before label) :
    Reach step weaker start state := by
  induction reached with
  | start => exact .start
  | next _ permitted taken ih => exact .next ih (implies _ _ permitted) taken

theorem any (reached : Reach step allowed start state) : Reach step anyStep start state :=
  reached.weaken fun _ _ _ => trivial

/-- Each step of a system is a step of the simulated one, or leaves its state alone. -/
theorem simulate {move : Other → Move → Option Other} {able : Other → Move → Prop}
    (view : State → Other) (reached : Reach step allowed start state)
    (follows : ∀ before label after, allowed before label → step before label = some after →
      view after = view before ∨
        ∃ action, able (view before) action ∧ move (view before) action = some (view after)) :
    Reach move able (view start) (view state) := by
  induction reached with
  | start => exact .start
  | next _ permitted taken ih =>
      rcases follows _ _ _ permitted taken with same | ⟨action, can, moved⟩
      · rw [same]
        exact ih
      · exact .next ih can moved

/-- The same for a relation between the states, of which the one on the left is
known to be reached. -/
theorem follow (move : Other → Move → Option Other) (able : Other → Move → Prop)
    (known : State → Prop) (related : State → Other → Prop) {begin : Other}
    (reached : Reach step allowed start state)
    (fact : ∀ state, Reach step allowed start state → known state) (starts : related start begin)
    (follows : ∀ before label after other, known before → related before other →
      allowed before label → step before label = some after →
        related after other ∨ ∃ action next, able other action ∧ move other action = some next ∧
          related after next) :
    ∃ other, Reach move able begin other ∧ related state other := by
  induction reached with
  | start => exact ⟨begin, .start, starts⟩
  | next reached permitted taken ih =>
      obtain ⟨other, simulated, holds⟩ := ih
      rcases follows _ _ _ other (fact _ reached) holds permitted taken with
        still | ⟨action, next, can, moved, still⟩
      · exact ⟨other, simulated, still⟩
      · exact ⟨next, .next simulated can moved, still⟩

end Reach

def checked (step : State → Label → Option State) (test : State → Label → Bool) (state : State)
    (label : Label) : Option State :=
  if test state label then step state label else none

theorem reach_of_checked {step : State → Label → Option State} {test : State → Label → Bool}
    {allowed : State → Label → Prop} {start : State}
    (passes : ∀ state label, test state label = true → allowed state label)
    (labels : List Label) {before after : State} (reached : Reach step allowed start before)
    (ran : run (checked step test) labels before = some after) :
    Reach step allowed start after := by
  induction labels generalizing before with
  | nil =>
      rw [← Option.some.inj ran]
      exact reached
  | cons label labels ih =>
      simp only [run, List.foldlM_cons, Option.bind_eq_bind, Option.bind_eq_some_iff] at ran
      obtain ⟨middle, taken, later⟩ := ran
      simp only [checked, Option.ite_none_right_eq_some] at taken
      exact ih (.next reached (passes before label taken.1) taken.2) later

theorem reach_of_run {step : State → Label → Option State} {start : State} (labels : List Label)
    {after : State} (ran : run step labels start = some after) :
    Reach step anyStep start after := by
  have unchecked : checked step (fun _ _ => true) = step := by
    funext state label
    simp [checked]
  rw [← unchecked] at ran
  exact reach_of_checked (fun _ _ _ => trivial) labels .start ran

section Families

variable {Index Position : Type*} [DecidableEq Index] {family : Index → Position}
variable {mover other : Index} {new position : Position}

/-- Who is at a position after a step was there before, or is the one that moved there. -/
theorem update_cases (there : Function.update family mover new other = position) :
    (other = mover ∧ new = position) ∨ (other ≠ mover ∧ family other = position) := by
  by_cases same : other = mover
  · subst same
    rw [Function.update_self] at there
    exact Or.inl ⟨rfl, there⟩
  · rw [Function.update_of_ne same] at there
    exact Or.inr ⟨same, there⟩

theorem update_was (there : Function.update family mover new other = position)
    (elsewhere : new ≠ position) : family other = position :=
  (update_cases there).elim (fun moved => absurd moved.2 elsewhere) And.right

theorem update_stays (there : family other = position) (elsewhere : family mover ≠ position) :
    Function.update family mover new other = position := by
  rw [Function.update_of_ne]
  · exact there
  · intro same
    rw [same] at there
    exact elsewhere there

/-- What is known of everybody's position stays known if the mover keeps to it. -/
theorem update_keeps (known : Position → Prop) (before : known (family other))
    (moved : other = mover → known new) : known (Function.update family mover new other) := by
  by_cases same : other = mover
  · rw [same, Function.update_self]
    exact moved same
  · rwa [Function.update_of_ne same]

end Families

section Lists

variable {Index Item : Type*} {lists : Index → List Item}

/-- The lists hold nothing twice, and no two of them share an item. -/
structure Separate (lists : Index → List Item) : Prop where
  nodup : ∀ index, (lists index).Nodup
  apart : ∀ index other item, item ∈ lists index → item ∈ lists other → index = other

variable [DecidableEq Index]

theorem separate_update (separate : Separate lists) {index : Index} {list : List Item}
    (nodup : list.Nodup) (elsewhere : ∀ item ∈ list, ∀ other ≠ index, item ∉ lists other) :
    Separate (Function.update lists index list) := by
  constructor
  · exact fun other => update_keeps List.Nodup (separate.nodup other) fun _ => nodup
  · intro first second item here there
    rw [Function.update_apply] at here there
    split_ifs at here there with isFirst isSecond isSecond
    · rw [isFirst, isSecond]
    · exact absurd there (elsewhere item here second isSecond)
    · exact absurd here (elsewhere item there first isFirst)
    · exact separate.apart first second item here there

theorem separate_shrink (separate : Separate lists) (index : Index) {list : List Item}
    (fewer : list.Sublist (lists index)) : Separate (Function.update lists index list) := by
  apply separate_update separate ((separate.nodup index).sublist fewer)
  intro item member other different there
  exact different (separate.apart other index item there (fewer.subset member))

theorem separate_hand_over (separate : Separate lists) {giver taker : Index}
    (different : giver ≠ taker) :
    Separate (Function.update (Function.update lists giver []) taker
      (lists taker ++ lists giver)) := by
  apply separate_update (separate_shrink separate giver (List.nil_sublist _))
  · rw [List.nodup_append]
    refine ⟨separate.nodup taker, separate.nodup giver, ?_⟩
    rintro item taken _ given rfl
    exact different (separate.apart giver taker item given taken)
  · intro item member other apart there
    by_cases isGiver : other = giver
    · subst isGiver
      rw [Function.update_self] at there
      exact List.not_mem_nil there
    · rw [Function.update_of_ne isGiver] at there
      rcases List.mem_append.mp member with old | given
      · exact apart (separate.apart other taker item there old)
      · exact isGiver (separate.apart other giver item there given)

end Lists

section Populations

variable {Index Position : Type*} [Fintype Index] {family : Index → Position}

/-- How many members of a family are at a position that passes the test. -/
def population (test : Position → Bool) (family : Index → Position) : Nat :=
  (Finset.univ.filter fun index => test (family index) = true).card

theorem population_congr {test after : Position → Bool} {later : Index → Position}
    (same : ∀ index, after (later index) = test (family index)) :
    population after later = population test family := by
  simp only [population, same]

theorem population_le_card (test : Position → Bool) (family : Index → Position) :
    population test family ≤ Fintype.card Index :=
  Finset.card_le_univ _

theorem population_pos {test : Position → Bool} {index : Index}
    (member : test (family index) = true) : 0 < population test family :=
  Finset.card_pos.mpr ⟨index, by simpa using member⟩

theorem population_update [DecidableEq Index] (test : Position → Bool)
    (family : Index → Position) (mover : Index) (new : Position) :
    population test (Function.update family mover new) + (test (family mover)).toNat =
      population test family + (test new).toNat := by
  have others : ∑ index ∈ Finset.univ.erase mover,
      (if test (Function.update family mover new index) = true then 1 else 0) =
        ∑ index ∈ Finset.univ.erase mover, if test (family index) = true then 1 else 0 := by
    apply Finset.sum_congr rfl
    intro index member
    rw [Function.update_of_ne (Finset.ne_of_mem_erase member)]
  unfold population
  rw [Finset.card_filter, Finset.card_filter, ← Finset.add_sum_erase _ _ (Finset.mem_univ mover),
    ← Finset.add_sum_erase Finset.univ (fun index => if test (family index) = true then 1 else 0)
      (Finset.mem_univ mover), others, Function.update_self]
  cases test new <;> cases test (family mover) <;> simp <;> omega

end Populations

end JavaxUsbLinux.Runs
