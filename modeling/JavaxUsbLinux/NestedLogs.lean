import Mathlib.Data.List.FinRange

/-!
# Logs of nested calls

A call acquires and releases resources of its own and may make
numbered calls in between. The log tags each event with the place of its call:
the numbers that lead to it.
-/

namespace JavaxUsbLinux.NestedLogs

set_option autoImplicit false

/-- `wild` is the release of what was not acquired. -/
inductive Event (Resource : Type) where
  | acquire (resource : Resource)
  | release (resource : Resource)
  | wild
  deriving DecidableEq

abbrev Place := List Nat

abbrev Log (Resource : Type) := List (Place × Event Resource)

variable {Resource : Type}

/-- No event of the log is outside of the call at this place. -/
def Below (place : Place) (log : Log Resource) : Prop :=
  ∀ event ∈ log, place <+: event.1

theorem Below.up {place : Place} {number : Nat} {log : Log Resource}
    (below : Below (place ++ [number]) log) : Below place log :=
  fun event member => (List.prefix_append _ _).trans (below event member)

def tagged (place : Place) (events : List (Event Resource)) : Log Resource :=
  events.map fun event => (place, event)

theorem below_tagged (place : Place) (events : List (Event Resource)) :
    Below place (tagged place events) := by
  intro event member
  obtain ⟨_, _, rfl⟩ := List.mem_map.mp member
  exact List.prefix_refl _

def inCall (place : Place) (log : Log Resource) : List (Event Resource) :=
  (log.filter fun event => event.1 == place).map Prod.snd

theorem in_call_append (place : Place) (front back : Log Resource) :
    inCall place (front ++ back) = inCall place front ++ inCall place back := by
  rw [inCall, List.filter_append, List.map_append]
  rfl

theorem in_call_tagged (place : Place) (events : List (Event Resource)) :
    inCall place (tagged place events) = events := by
  rw [inCall, tagged, List.filter_eq_self.mpr]
  · simp [Function.comp_def]
  · simp

theorem in_call_none {place : Place} {log : Log Resource}
    (elsewhere : ∀ event ∈ log, event.1 ≠ place) : inCall place log = [] := by
  rw [inCall, List.map_eq_nil_iff, List.filter_eq_nil_iff]
  exact fun event member same => elsewhere event member (eq_of_beq same)

theorem in_call_outside {place other : Place} {log : Log Resource} (below : Below place log)
    (outside : ¬ place <+: other) : inCall other log = [] :=
  in_call_none fun event member same => outside (same ▸ below event member)

theorem not_in_itself {place : Place} {number : Nat} : ¬ place ++ [number] <+: place := by
  intro inside
  have long := inside.length_le
  rw [List.length_append, List.length_singleton] at long
  omega

section Nested

variable {place : Place} {count : Nat} {child : Fin count → Log Resource}
variable (below : ∀ index, Below (place ++ [index.val]) (child index))

include below

theorem in_no_child {other : Place}
    (outside : ∀ index : Fin count, ¬ place ++ [index.val] <+: other) :
    inCall other ((List.finRange count).flatMap child) = [] := by
  apply in_call_none
  intro event member same
  obtain ⟨index, _, member⟩ := List.mem_flatMap.mp member
  exact outside index (same ▸ below index event member)

theorem in_call_child {index : Fin count} {other : Place}
    (inside : place ++ [index.val] <+: other) :
    inCall other ((List.finRange count).flatMap child) = inCall other (child index) := by
  have alone : ∀ indices : List (Fin count), indices.Nodup →
      inCall other (indices.flatMap child) =
        if index ∈ indices then inCall other (child index) else [] := by
    intro indices
    induction indices with
    | nil => simp [inCall]
    | cons first indices ih =>
        intro distinct
        rw [List.nodup_cons] at distinct
        rw [List.flatMap_cons, in_call_append, ih distinct.2]
        by_cases here : index = first
        · subst here
          simp [distinct.1]
        · have apart : ¬ place ++ [first.val] <+: other := by
            intro also
            have same := List.prefix_of_prefix_length_le inside also (by simp)
            have equal := same.eq_of_length (by simp)
            simp only [List.append_cancel_left_eq, List.cons.injEq, and_true] at equal
            exact here (Fin.ext equal)
          simp [in_call_outside (below first) apart, here]
  rw [alone _ (List.nodup_finRange count), if_pos (List.mem_finRange index)]

end Nested

/-! ### Released once -/

section Released

variable [DecidableEq Resource]

def Event.about (resource : Resource) : Event Resource → Bool
  | acquire other => other == resource
  | release other => other == resource
  | wild => false

/-- Every resource that is acquired is released after it, and this once. -/
structure Once (events : List (Event Resource)) : Prop where
  tame : .wild ∉ events
  paired : ∀ resource, events.filter (Event.about resource) = [] ∨
    events.filter (Event.about resource) = [.acquire resource, .release resource]

theorem once_nil : Once ([] : List (Event Resource)) where
  tame := List.not_mem_nil
  paired _ := Or.inl rfl

def Released (log : Log Resource) : Prop :=
  ∀ place, Once (inCall place log)

theorem released_nil : Released ([] : Log Resource) :=
  fun _ => once_nil

/-- A call with calls in between releases everything once exactly if its own
events and those calls do. -/
theorem released_nested {place : Place} {count : Nat} {child : Fin count → Log Resource}
    (below : ∀ index, Below (place ++ [index.val]) (child index))
    (front back : List (Event Resource)) :
    Released (tagged place front ++ (List.finRange count).flatMap child ++ tagged place back) ↔
      Once (front ++ back) ∧ ∀ index, Released (child index) := by
  have own : inCall place (tagged place front ++ (List.finRange count).flatMap child ++
      tagged place back) = front ++ back := by
    rw [in_call_append, in_call_append, in_call_tagged, in_call_tagged,
      in_no_child below fun _ => not_in_itself, List.append_nil]
  have others : ∀ other, other ≠ place → inCall other (tagged place front ++
      (List.finRange count).flatMap child ++ tagged place back) =
        inCall other ((List.finRange count).flatMap child) := by
    intro other apart
    have none : ∀ events : List (Event Resource), inCall other (tagged place events) = [] := by
      intro events
      apply in_call_none
      intro event member same
      obtain ⟨_, _, rfl⟩ := List.mem_map.mp member
      exact apart same.symm
    rw [in_call_append, in_call_append, none, none, List.nil_append, List.append_nil]
  constructor
  · intro released
    refine ⟨own ▸ released place, fun index other => ?_⟩
    by_cases inside : place ++ [index.val] <+: other
    · have apart : other ≠ place := by
        rintro rfl
        exact not_in_itself inside
      have once := released other
      rw [others other apart, in_call_child below inside] at once
      exact once
    · rw [in_call_outside (below index) inside]
      exact once_nil
  · rintro ⟨once, children⟩ other
    by_cases same : other = place
    · rw [same, own]
      exact once
    · rw [others other same]
      by_cases inside : ∃ index : Fin count, place ++ [index.val] <+: other
      · obtain ⟨index, inside⟩ := inside
        rw [in_call_child below inside]
        exact children index other
      · rw [in_no_child below fun index here => inside ⟨index, here⟩]
        exact once_nil

end Released

end JavaxUsbLinux.NestedLogs
