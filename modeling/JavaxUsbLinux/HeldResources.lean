import Mathlib.Data.Finset.Card
import Mathlib.Data.Finset.Image
import JavaxUsbLinux.NestedLogs
import JavaxUsbLinux.Runs

/-!
# The resources that are held

The events of a log as steps on the set of the resources that are held. What is
acquired must not be held yet, and what is released must be held: a log that runs
releases nothing twice, and what it leaves behind is what is held at its end.
-/

namespace JavaxUsbLinux.HeldResources

open JavaxUsbLinux.NestedLogs
open JavaxUsbLinux.Runs

set_option autoImplicit false

variable {Resource Other : Type}

def rename (name : Resource → Other) : Event Resource → Event Other
  | .acquire resource => .acquire (name resource)
  | .release resource => .release (name resource)
  | .wild => .wild

def acquires (kind : Resource → Bool) : Event Resource → Bool
  | .acquire resource => kind resource
  | _ => false

def Spares (kind : Resource → Bool) (events : List (Event Resource)) : Prop :=
  ∀ resource, kind resource = true → .release resource ∉ events

variable {kind : Resource → Bool} {resource : Resource} {first second : List (Event Resource)}

theorem spares_nil : Spares kind [] :=
  fun _ _ => List.not_mem_nil

theorem Spares.append (front : Spares kind first) (back : Spares kind second) :
    Spares kind (first ++ second) := by
  intro resource here member
  rcases List.mem_append.mp member with member | member
  · exact front resource here member
  · exact back resource here member

theorem spares_one {event : Event Resource}
    (other : ∀ resource, kind resource = true → event ≠ .release resource) :
    Spares kind [event] :=
  fun resource here member => other resource here (List.mem_singleton.mp member).symm

theorem spares_acquire (resource : Resource) : Spares kind [.acquire resource] :=
  spares_one fun _ _ => nofun

theorem spares_release (other : kind resource = false) : Spares kind [.release resource] := by
  refine spares_one fun released here same => ?_
  rw [← Event.release.inj same, other] at here
  cases here

theorem spares_releases {resources : List Resource}
    (other : ∀ resource ∈ resources, kind resource = false) :
    Spares kind (resources.map .release) := by
  intro resource here member
  obtain ⟨released, listed, same⟩ := List.mem_map.mp member
  rw [← Event.release.inj same, other released listed] at here
  cases here

theorem spares_flat_map {Item : Type} {log : Item → List (Event Resource)} {items : List Item}
    (each : ∀ item ∈ items, Spares kind (log item)) : Spares kind (items.flatMap log) := by
  intro resource here member
  obtain ⟨item, listed, inside⟩ := List.mem_flatMap.mp member
  exact each item listed resource here inside

theorem Spares.rename {name : Other → Resource} {events : List (Event Other)}
    (spares : Spares (fun other => kind (name other)) events) :
    Spares kind (events.map (rename name)) := by
  intro resource here member
  obtain ⟨event, listed, same⟩ := List.mem_map.mp member
  cases event with
  | release other =>
      rw [← Event.release.inj same] at here
      exact spares other here listed
  | acquire | wild => cases same

/-! ### Steps -/

variable [DecidableEq Resource] [DecidableEq Other]

def hold (held : Finset Resource) : Event Resource → Option (Finset Resource)
  | .acquire resource => if resource ∈ held then none else some (insert resource held)
  | .release resource => if resource ∈ held then some (held.erase resource) else none
  | .wild => none

def Holds (before : Finset Resource) (events : List (Event Resource)) (after : Finset Resource) :
    Prop :=
  run hold events before = some after

instance (before : Finset Resource) (events : List (Event Resource)) (after : Finset Resource) :
    Decidable (Holds before events after) :=
  inferInstanceAs (Decidable (run hold events before = some after))

variable {before middle after held : Finset Resource} {events : List (Event Resource)}

theorem holds_nil : Holds held [] held :=
  rfl

theorem Holds.append (front : Holds before first middle) (back : Holds middle second after) :
    Holds before (first ++ second) after := by
  rw [Holds, run, List.foldlM_append]
  exact (congrArg (Option.bind · _) front).trans back

theorem Holds.split (holds : Holds before (first ++ second) after) :
    ∃ middle, Holds before first middle ∧ Holds middle second after := by
  rw [Holds, run, List.foldlM_append] at holds
  exact Option.bind_eq_some_iff.mp holds

theorem Holds.uncons {event : Event Resource} (holds : Holds before (event :: second) after) :
    ∃ middle, Holds before [event] middle ∧ Holds middle second after := by
  rw [← List.singleton_append] at holds
  exact holds.split

theorem holds_cons {event : Event Resource} :
    Holds before (event :: events) after ↔
      ∃ middle, hold before event = some middle ∧ Holds middle events after := by
  simp only [Holds, run, List.foldlM_cons, Option.bind_eq_bind, Option.bind_eq_some_iff]

theorem holds_acquire (fresh : resource ∉ held) :
    Holds held [.acquire resource] (insert resource held) :=
  holds_cons.mpr ⟨_, if_neg fresh, holds_nil⟩

theorem holds_release (member : resource ∈ held) :
    Holds held [.release resource] (held.erase resource) :=
  holds_cons.mpr ⟨_, if_pos member, holds_nil⟩

theorem holds_given_back (fresh : resource ∉ held) :
    Holds (insert resource held) [.release resource] held := by
  have released := holds_release (Finset.mem_insert_self resource held)
  rwa [Finset.erase_insert fresh] at released

theorem holds_overlap {other : Resource} (fresh : resource ∉ held) (free : other ∉ held)
    (apart : resource ≠ other) :
    Holds held [.acquire resource, .acquire other, .release resource] (insert other held) := by
  have second : other ∉ insert resource held := by
    rw [Finset.mem_insert, not_or]
    exact ⟨apart.symm, free⟩
  have third : resource ∉ insert other held := by
    rw [Finset.mem_insert, not_or]
    exact ⟨apart, fresh⟩
  have released := holds_given_back third
  rw [Finset.insert_comm] at released
  exact (holds_acquire fresh).append ((holds_acquire second).append released)

theorem holds_acquires {resources : List Resource} (distinct : resources.Nodup)
    (fresh : ∀ resource ∈ resources, resource ∉ held) :
    Holds held (resources.map .acquire) (held ∪ resources.toFinset) := by
  induction resources generalizing held with
  | nil => simpa using holds_nil
  | cons resource resources ih =>
      rw [List.nodup_cons] at distinct
      have rest : ∀ other ∈ resources, other ∉ insert resource held := by
        intro other member
        rw [Finset.mem_insert, not_or]
        refine ⟨?_, fresh other (List.mem_cons_of_mem resource member)⟩
        rintro rfl
        exact distinct.1 member
      have later := ih distinct.2 rest
      rw [Finset.insert_union, ← Finset.union_insert, ← List.toFinset_cons] at later
      exact (holds_acquire (fresh resource List.mem_cons_self)).append later

theorem holds_releases {resources : List Resource} (distinct : resources.Nodup)
    (members : ∀ resource ∈ resources, resource ∈ held) :
    Holds held (resources.map .release) (held \ resources.toFinset) := by
  induction resources generalizing held with
  | nil => simpa using holds_nil
  | cons resource resources ih =>
      rw [List.nodup_cons] at distinct
      have rest : ∀ other ∈ resources, other ∈ held.erase resource := by
        intro other member
        refine Finset.mem_erase.mpr ⟨?_, members other (List.mem_cons_of_mem resource member)⟩
        rintro rfl
        exact distinct.1 member
      have later := ih distinct.2 rest
      rw [← Finset.sdiff_singleton_eq_erase, sdiff_sdiff_left, Finset.sup_eq_union,
        ← Finset.insert_eq, ← List.toFinset_cons, Finset.sdiff_singleton_eq_erase] at later
      exact (holds_release (members resource List.mem_cons_self)).append later

theorem holds_rest {resources rest : List Resource} (distinct : (resources ++ rest).Nodup) :
    Holds (resources ++ rest).toFinset (resources.map .release) rest.toFinset := by
  rw [List.nodup_append] at distinct
  obtain ⟨first, _, apart⟩ := distinct
  have released := holds_releases first fun resource member =>
    List.mem_toFinset.mpr (List.mem_append_left rest member)
  rw [List.toFinset_append] at released ⊢
  rwa [Finset.union_sdiff_cancel_left] at released
  exact Finset.disjoint_left.mpr fun resource here there =>
    apart resource (List.mem_toFinset.mp here) resource (List.mem_toFinset.mp there) rfl

theorem hold_subset {event : Event Resource} (taken : hold before event = some after) :
    ∀ other ∈ after, other ∈ before ∨ event = .acquire other := by
  intro other member
  cases event with
  | acquire resource =>
      simp only [hold, Option.ite_none_left_eq_some, Option.some.injEq] at taken
      rw [← taken.2, Finset.mem_insert] at member
      exact member.symm.imp_right fun same => by rw [same]
  | release resource =>
      simp only [hold, Option.ite_none_right_eq_some, Option.some.injEq] at taken
      rw [← taken.2] at member
      exact Or.inl (Finset.mem_of_mem_erase member)
  | wild => cases taken

theorem Holds.acquired (holds : Holds before events after) :
    ∀ resource ∈ after, resource ∈ before ∨ .acquire resource ∈ events := by
  intro resource member
  induction events generalizing before with
  | nil =>
      rw [← Option.some.inj holds] at member
      exact Or.inl member
  | cons event events ih =>
      obtain ⟨middle, taken, later⟩ := holds_cons.mp holds
      rcases ih later with inside | acquired
      · rcases hold_subset taken resource inside with here | here
        · exact Or.inl here
        · exact Or.inr (here ▸ List.mem_cons_self)
      · exact Or.inr (List.mem_cons_of_mem event acquired)

theorem Holds.stays (holds : Holds before events after) (spares : Spares kind events)
    (here : kind resource = true) (known : resource ∈ before ∨ .acquire resource ∈ events) :
    resource ∈ after := by
  induction events generalizing before with
  | nil =>
      rw [← Option.some.inj holds]
      exact known.resolve_right List.not_mem_nil
  | cons event events ih =>
      obtain ⟨middle, taken, later⟩ := holds_cons.mp holds
      have never := spares resource here
      rw [List.mem_cons, not_or] at never
      have rest : Spares kind events := fun other kept member =>
        spares other kept (List.mem_cons_of_mem _ member)
      refine ih later rest ?_
      rw [List.mem_cons, ← or_assoc] at known
      refine known.imp_left fun known => ?_
      cases event with
      | acquire other =>
          simp only [hold, Option.ite_none_left_eq_some, Option.some.injEq] at taken
          rw [← taken.2, Finset.mem_insert]
          exact known.symm.imp_left Event.acquire.inj
      | release other =>
          simp only [hold, Option.ite_none_right_eq_some, Option.some.injEq] at taken
          rw [← taken.2, Finset.mem_erase]
          have apart : resource ≠ other := fun same => never.1 (same ▸ rfl)
          exact ⟨apart, known.resolve_right nofun⟩
      | wild => cases taken

theorem Holds.card_kept (holds : Holds before events after) (spares : Spares kind events) :
    (after.filter fun resource => kind resource = true).card =
      (before.filter fun resource => kind resource = true).card +
        events.countP (acquires kind) := by
  induction events generalizing before with
  | nil =>
      obtain rfl := Option.some.inj holds
      rfl
  | cons event events ih =>
      obtain ⟨middle, taken, later⟩ := holds_cons.mp holds
      rw [ih later fun other kept member => spares other kept (List.mem_cons_of_mem _ member),
        List.countP_cons]
      cases event with
      | acquire other =>
          simp only [hold, Option.ite_none_left_eq_some, Option.some.injEq] at taken
          obtain ⟨fresh, rfl⟩ := taken
          rw [Finset.filter_insert]
          by_cases here : kind other = true
          · have new : other ∉ before.filter fun resource => kind resource = true :=
              fun member => fresh (Finset.mem_of_mem_filter _ member)
            rw [if_pos here, Finset.card_insert_of_notMem new, acquires, if_pos here]
            omega
          · rw [if_neg here, acquires, if_neg here, Nat.add_zero]
      | release other =>
          simp only [hold, Option.ite_none_right_eq_some, Option.some.injEq] at taken
          have another : ¬ kind other = true := fun kept => spares other kept List.mem_cons_self
          rw [← taken.2, Finset.filter_erase, Finset.erase_eq_of_notMem (by simp [another])]
          rfl
      | wild => cases taken

theorem Holds.rename {name : Resource → Other} (injective : Function.Injective name)
    (holds : Holds before events after) {rest : Finset Other}
    (apart : ∀ resource, name resource ∉ rest) :
    Holds (rest ∪ before.image name) (events.map (rename name)) (rest ∪ after.image name) := by
  induction events generalizing before with
  | nil =>
      obtain rfl := Option.some.inj holds
      exact holds_nil
  | cons event events ih =>
      obtain ⟨middle, taken, later⟩ := holds_cons.mp holds
      refine holds_cons.mpr ⟨_, ?_, ih later⟩
      cases event with
      | acquire resource =>
          simp only [hold, Option.ite_none_left_eq_some, Option.some.injEq] at taken
          have fresh : name resource ∉ rest ∪ before.image name := by
            rw [Finset.mem_union, not_or, injective.mem_finset_image]
            exact ⟨apart resource, taken.1⟩
          rw [← taken.2, Finset.image_insert, Finset.union_insert]
          exact if_neg fresh
      | release resource =>
          simp only [hold, Option.ite_none_right_eq_some, Option.some.injEq] at taken
          have member : name resource ∈ rest ∪ before.image name :=
            Finset.mem_union_right _ (Finset.mem_image_of_mem name taken.1)
          rw [← taken.2, Finset.image_erase injective]
          refine (if_pos member).trans ?_
          rw [Finset.erase_union_distrib, Finset.erase_eq_of_notMem (apart resource)]
      | wild => cases taken

/-! ### Nested calls -/

section Nested

variable {Name : Type} [DecidableEq Name]

/-- Nothing is released, and of the calls below a place only this kind is new. -/
structure Leaves (kind : Name → Bool) (place : Place) (before after : Finset (Place × Name)) :
    Prop where
  kept : before ⊆ after
  only : ∀ name ∈ after, name ∈ before ∨ place <+: name.1 ∧ kind name.2 = true

/-- The call at this place leaves only this kind behind, whatever other calls hold. -/
def Nested (kind : Name → Bool) (place : Place) (events : List (Event (Place × Name))) : Prop :=
  ∀ before, (∀ name ∈ before, ¬ place <+: name.1) →
    ∃ after, Holds before events after ∧ Leaves kind place before after

/-- The events of a call apart from the calls inside it, and what its variables hold at
its end. -/
structure Own (kind : Name → Bool) (events : List (Event Name)) (held : List Name) : Prop where
  runs : ∃ middle, Holds ∅ events middle ∧ (∀ name ∈ held, name ∈ middle) ∧
    ∀ name ∈ middle, name ∈ held ∨ kind name = true
  distinct : held.Nodup
  released : ∀ name ∈ held, kind name = false

variable {kind : Name → Bool} {place : Place} {count : Nat}
variable {child : Fin count → List (Event (Place × Name))}

theorem child_apart {index other : Fin count} {inner : Place}
    (inside : place ++ [index.val] <+: inner) (also : place ++ [other.val] <+: inner) :
    index = other := by
  have same := List.prefix_of_prefix_length_le inside also (by simp)
  have equal := same.eq_of_length (by simp)
  simp only [List.append_cancel_left_eq, List.cons.injEq, and_true] at equal
  exact Fin.ext equal

/-- The calls inside a call run one after the other. -/
theorem nested_children (each : ∀ index, Nested kind (place ++ [index.val]) (child index))
    {indices : List (Fin count)} (distinct : indices.Nodup)
    {before : Finset (Place × Name)}
    (outside : ∀ name ∈ before, ∀ index ∈ indices, ¬ place ++ [index.val] <+: name.1) :
    ∃ after, Holds before (indices.flatMap child) after ∧ Leaves kind place before after := by
  induction indices generalizing before with
  | nil => exact ⟨before, holds_nil, subset_rfl, fun name member => Or.inl member⟩
  | cons index indices ih =>
      rw [List.nodup_cons] at distinct
      obtain ⟨middle, first, leaves⟩ := each index before fun name member =>
        outside name member index List.mem_cons_self
      have later : ∀ name ∈ middle, ∀ other ∈ indices, ¬ place ++ [other.val] <+: name.1 := by
        intro name member other listed inside
        rcases leaves.only name member with here | ⟨here, _⟩
        · exact outside name here other (List.mem_cons_of_mem index listed) inside
        · exact distinct.1 (child_apart here inside ▸ listed)
      obtain ⟨after, rest, ends⟩ := ih distinct.2 later
      refine ⟨after, first.append rest, leaves.kept.trans ends.kept, ?_⟩
      intro name member
      rcases ends.only name member with here | here
      · exact (leaves.only name here).imp_right fun found =>
          ⟨(List.prefix_append _ _).trans found.1, found.2⟩
      · exact Or.inr here

/-- A call whose own variables are released at its end, after the calls inside it. -/
theorem nested_call {events : List (Event Name)} {held : List Name} (own : Own kind events held)
    (each : ∀ index, Nested kind (place ++ [index.val]) (child index)) :
    Nested kind place (events.map (rename (Prod.mk place)) ++
      ((List.finRange count).flatMap child ++
        (held.map (Prod.mk place)).map Event.release)) := by
  intro before outside
  obtain ⟨middle, runs, members, only⟩ := own.runs
  have injective : Function.Injective (Prod.mk place : Name → Place × Name) :=
    Prod.mk_right_injective place
  have apart : ∀ name : Name, (place, name) ∉ before := fun name member =>
    outside _ member List.prefix_rfl
  have front := runs.rename injective apart
  rw [Finset.image_empty, Finset.union_empty] at front
  have outer : ∀ name ∈ before ∪ middle.image (Prod.mk place), ∀ index ∈ List.finRange count,
      ¬ place ++ [index.val] <+: name.1 := by
    intro name member index _ inside
    rcases Finset.mem_union.mp member with here | here
    · exact outside name here ((List.prefix_append _ _).trans inside)
    · obtain ⟨_, _, rfl⟩ := Finset.mem_image.mp here
      exact not_in_itself inside
  obtain ⟨inner, children, leaves⟩ :=
    nested_children each (List.nodup_finRange count) outer
  have back : Holds inner ((held.map (Prod.mk place)).map Event.release)
      (inner \ (held.map (Prod.mk place)).toFinset) := by
    refine holds_releases (own.distinct.map injective) ?_
    intro name member
    obtain ⟨resource, listed, rfl⟩ := List.mem_map.mp member
    exact leaves.kept (Finset.mem_union_right _
      (Finset.mem_image_of_mem _ (members resource listed)))
  refine ⟨_, front.append (children.append back), ?_, ?_⟩
  · intro name member
    rw [Finset.mem_sdiff, List.mem_toFinset]
    refine ⟨leaves.kept (Finset.mem_union_left _ member), fun listed => ?_⟩
    obtain ⟨resource, _, rfl⟩ := List.mem_map.mp listed
    exact apart resource member
  · intro name member
    rw [Finset.mem_sdiff, List.mem_toFinset] at member
    rcases leaves.only name member.1 with here | here
    · rcases Finset.mem_union.mp here with here | here
      · exact Or.inl here
      · obtain ⟨resource, held, rfl⟩ := Finset.mem_image.mp here
        have released : resource ∉ _ := fun listed =>
          member.2 (List.mem_map.mpr ⟨resource, listed, rfl⟩)
        exact Or.inr ⟨List.prefix_rfl, (only resource held).resolve_left released⟩
    · exact Or.inr here

end Nested

end JavaxUsbLinux.HeldResources
