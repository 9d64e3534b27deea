import Mathlib.Data.List.Basic
import Mathlib.Data.List.Nodup
import Mathlib.Data.List.Pairwise

/-!
# Removal by equality from a list

`java.util.List.remove(Object)` takes out the first element that is equal to
its argument, which need not be the argument itself. This module says what a
run of such removals leaves behind when the equality test is an equivalence:
within each class of equal elements a prefix has gone. It follows exactly when
removal by equality agrees with removal by identity.
-/

namespace JavaxUsbLinux.EqualRemoval

set_option autoImplicit false

variable {Item : Type*}

/-- `list.remove(item)`: the first element equal to `item` goes, if there is one. -/
def removeEqual (same : Item → Item → Bool) (list : List Item) (item : Item) : List Item :=
  list.eraseP (same item)

def removeEach (same : Item → Item → Bool) (list removed : List Item) : List Item :=
  removed.foldl (removeEqual same) list

/-- The equality test of a class that honours the contract of `equals`. -/
def EqualityLaw (same : Item → Item → Bool) : Prop :=
  Equivalence fun left right => same left right = true

theorem remove_each_sublist (same : Item → Item → Bool) (list removed : List Item) :
    (removeEach same list removed).Sublist list := by
  induction removed generalizing list with
  | nil => exact List.Sublist.refl list
  | cons item rest ih => exact (ih _).trans List.eraseP_sublist

theorem remove_each_append (same : Item → Item → Bool) (list first second : List Item) :
    removeEach same list (first ++ second) =
      removeEach same (removeEach same list first) second := by
  simp [removeEach]

/-- One removal shortens the class of the removed item by its first member
and leaves every other class as it was. -/
theorem remove_equal_class (same : Item → Item → Bool) (law : EqualityLaw same)
    (list : List Item) (item member : Item) :
    (removeEqual same list item).filter (same member) =
      (list.filter (same member)).drop (if same member item then 1 else 0) := by
  induction list with
  | nil => simp [removeEqual]
  | cons head tail ih =>
      simp only [removeEqual] at ih ⊢
      cases hit : same item head with
      | true =>
          rw [List.eraseP_cons_of_pos hit]
          cases inClass : same member item with
          | true =>
              have headInClass : same member head = true := law.trans inClass hit
              simp [headInClass]
          | false =>
              have headOutside : same member head = false := by
                by_contra present
                have headInClass : same member head = true := by simpa using present
                simp [law.trans headInClass (law.symm hit)] at inClass
              simp [headOutside]
      | false =>
          rw [List.eraseP_cons_of_neg (by simp [hit])]
          cases headClass : same member head with
          | true =>
              have itemOutside : same member item = false := by
                by_contra present
                have itemInClass : same member item = true := by simpa using present
                simp [law.trans (law.symm itemInClass) headClass] at hit
              simpa [headClass, itemOutside] using ih
          | false => simpa [headClass] using ih

/-- A run of removals drops from each class as many of its first members as
the run names members of that class. -/
theorem remove_each_class (same : Item → Item → Bool) (law : EqualityLaw same)
    (list removed : List Item) (member : Item) :
    (removeEach same list removed).filter (same member) =
      (list.filter (same member)).drop (removed.countP (same member)) := by
  induction removed generalizing list with
  | nil => simp [removeEach]
  | cons item rest ih =>
      have step := ih (removeEqual same list item)
      rw [remove_equal_class same law, List.drop_drop] at step
      simp only [removeEach, List.foldl_cons] at step ⊢
      rw [step, List.countP_cons, Nat.add_comm]

/-- In `list`, no element that `wanted` misses stands before an element of
`wanted` that is equal to it. -/
def NoEarlierTwin (same : Item → Item → Bool) (wanted : Item → Prop) (list : List Item) : Prop :=
  list.Pairwise fun earlier later =>
    same earlier later = true → wanted later → wanted earlier

private theorem filter_not_eq_drop_of_prefix (list : List Item) (wanted : Item → Bool)
    (closed : list.Pairwise fun earlier later => wanted later = true → wanted earlier = true) :
    list.filter (fun item => !wanted item) = list.drop (list.countP wanted) := by
  induction list with
  | nil => rfl
  | cons head tail ih =>
      rw [List.pairwise_cons] at closed
      cases headWanted : wanted head with
      | true => simp [headWanted, ih closed.2]
      | false =>
          have none : ∀ later ∈ tail, wanted later = false := by
            intro later member
            by_contra present
            have laterWanted : wanted later = true := by simpa using present
            simp [closed.1 later member laterWanted] at headWanted
          have count : tail.countP wanted = 0 := by
            rw [List.countP_eq_zero]
            intro later member
            simp [none later member]
          have all : tail.filter (fun item => !wanted item) = tail := by
            rw [List.filter_eq_self]
            intro later member
            simp [none later member]
          simp [headWanted, count, all]

private theorem prefix_of_filter_not_mem_drop (list : List Item) (wanted : Item → Bool)
    (nodup : list.Nodup)
    (kept : ∀ item ∈ list, wanted item = false → item ∈ list.drop (list.countP wanted)) :
    list.Pairwise fun earlier later => wanted later = true → wanted earlier = true := by
  induction list with
  | nil => exact List.Pairwise.nil
  | cons head tail ih =>
      rw [List.nodup_cons] at nodup
      cases headWanted : wanted head with
      | true =>
          have tailKept : ∀ item ∈ tail, wanted item = false →
              item ∈ tail.drop (tail.countP wanted) := by
            intro item member unwanted
            have inDrop := kept item (List.mem_cons_of_mem _ member) unwanted
            simpa [headWanted] using inDrop
          exact List.pairwise_cons.mpr ⟨fun _ _ _ => headWanted, ih nodup.2 tailKept⟩
      | false =>
          have headKept := kept head (by simp) headWanted
          have count : tail.countP wanted = 0 := by
            by_contra positive
            obtain ⟨pred, predEq⟩ := Nat.exists_eq_succ_of_ne_zero positive
            simp only [List.countP_cons, headWanted, predEq] at headKept
            exact nodup.1 (List.mem_of_mem_drop (by simpa using headKept))
          rw [List.countP_eq_zero] at count
          refine List.pairwise_cons.mpr ⟨fun later member laterWanted => ?_, ?_⟩
          · exact absurd laterWanted (count later member)
          · refine List.Pairwise.imp_of_mem ?_ (List.pairwise_of_forall (l := tail)
              (R := fun _ _ => True) fun _ _ => trivial)
            intro earlier later _ member _ laterWanted
            exact absurd laterWanted (count later member)

/-- Removals name distinct members of the list, so a class loses as many
elements as it has members among them. -/
private theorem class_count (same : Item → Item → Bool) (list removed : List Item)
    (wanted : Item → Bool) (spells : ∀ item, wanted item = true ↔ item ∈ removed)
    (nodup : list.Nodup) (distinct : removed.Nodup)
    (listed : ∀ item ∈ removed, item ∈ list) (member : Item) :
    (list.filter (same member)).countP wanted = removed.countP (same member) := by
  have perm : ((list.filter (same member)).filter wanted).Perm
      (removed.filter (same member)) := by
    rw [List.perm_ext_iff_of_nodup ((nodup.filter _).filter _) (distinct.filter _)]
    intro item
    simp only [List.mem_filter, spells]
    constructor
    · rintro ⟨⟨_, inClass⟩, chosen⟩
      exact ⟨chosen, inClass⟩
    · rintro ⟨chosen, inClass⟩
      exact ⟨⟨listed item chosen, inClass⟩, chosen⟩
  rw [List.countP_eq_length_filter, List.countP_eq_length_filter]
  exact perm.length_eq

theorem no_earlier_twin_class (same : Item → Item → Bool) (law : EqualityLaw same)
    (wanted : Item → Prop) (list : List Item) :
    NoEarlierTwin same wanted list ↔
      ∀ member, (list.filter (same member)).Pairwise
        fun earlier later => wanted later → wanted earlier := by
  constructor
  · intro twins member
    refine List.Pairwise.imp_of_mem ?_ (twins.sublist List.filter_sublist)
    intro earlier later earlierIn laterIn implies
    have equal : same earlier later = true :=
      law.trans (law.symm (List.mem_filter.mp earlierIn).2) (List.mem_filter.mp laterIn).2
    exact implies equal
  · intro classes
    rw [NoEarlierTwin, List.pairwise_iff_forall_sublist]
    intro earlier later pair equal
    have pairInClass := pair.filter (same earlier)
    rw [List.filter_cons_of_pos (law.refl earlier), List.filter_cons_of_pos equal,
      List.filter_nil] at pairInClass
    exact List.pairwise_iff_forall_sublist.mp (classes earlier) pairInClass

/-- Removal by equality takes out exactly the named elements if and only if
none of them has an equal, unnamed element before it in the list. -/
theorem remove_each_exact_iff (same : Item → Item → Bool) (law : EqualityLaw same)
    (list removed : List Item) (nodup : list.Nodup) (distinct : removed.Nodup)
    (listed : ∀ item ∈ removed, item ∈ list) :
    (∀ item, item ∈ removeEach same list removed ↔ item ∈ list ∧ item ∉ removed) ↔
      NoEarlierTwin same (fun item => item ∈ removed) list := by
  classical
  let wanted : Item → Bool := fun item => decide (item ∈ removed)
  have spells : ∀ item, wanted item = true ↔ item ∈ removed := by simp [wanted]
  have left : ∀ item, (removeEach same list removed).filter (same item) =
      (list.filter (same item)).drop ((list.filter (same item)).countP wanted) := by
    intro item
    rw [class_count same list removed wanted spells nodup distinct listed,
      remove_each_class same law]
  rw [no_earlier_twin_class same law]
  constructor
  · intro agree member
    have closed := prefix_of_filter_not_mem_drop (list.filter (same member)) wanted
      (nodup.filter _) (by
        intro item inClass unwanted
        rw [← left member]
        rw [List.mem_filter] at inClass ⊢
        refine ⟨(agree item).mpr ⟨inClass.1, ?_⟩, inClass.2⟩
        simpa [wanted] using unwanted)
    simpa only [spells] using closed
  · intro classes item
    have self : item ∈ removeEach same list removed ↔
        item ∈ (removeEach same list removed).filter (same item) := by
      simp [List.mem_filter, law.refl item]
    have closed : (list.filter (same item)).Pairwise
        fun earlier later => wanted later = true → wanted earlier = true := by
      simpa only [spells] using classes item
    rw [self, left item, ← filter_not_eq_drop_of_prefix _ wanted closed]
    simp [List.mem_filter, law.refl item, wanted]

end JavaxUsbLinux.EqualRemoval
