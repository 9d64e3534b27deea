import Mathlib.Data.Fintype.Card
import Mathlib.Data.Fintype.List
import Mathlib.Data.List.Chain
import Mathlib.Logic.Relation
import JavaxUsbLinux.PortForest

/-!
# Unfolding a graph into a forest of ports

In a graph each node has a row of slots, and a slot may name another node. A
recursion that follows every slot unfolds the graph below a node into a forest.
It ends exactly if it cannot come round to a node again. When every node is named
by one slot at most and the first node by none, it also meets each node once.
-/

namespace JavaxUsbLinux.PortUnfolding

open Relation
open JavaxUsbLinux.PortForest

set_option autoImplicit false

variable {Node : Type*}

def rowPorts (below : Node → Option (Ports Node)) : List (Option Node) → Option (Ports Node)
  | [] => some .done
  | none :: slots => (rowPorts below slots).map .vacant
  | some node :: slots => do
      let under ← below node
      let rest ← rowPorts below slots
      return .occupied node under rest

/-- The forest below a node, with at most so many nodes on a path. -/
def unfold (row : Node → List (Option Node)) : Nat → Node → Option (Ports Node)
  | 0, _ => none
  | fuel + 1, node => rowPorts (unfold row fuel) (row node)

def Edge (row : Node → List (Option Node)) (node child : Node) : Prop :=
  some child ∈ row node

def Descends (row : Node → List (Option Node)) : Nat → Node → Prop
  | 0, _ => True
  | steps + 1, node => ∃ child, Edge row node child ∧ Descends row steps child

def Acyclic (row : Node → List (Option Node)) (node : Node) : Prop :=
  ∀ reached, ReflTransGen (Edge row) node reached → ¬ TransGen (Edge row) reached reached

section

variable {row : Node → List (Option Node)} {node child : Node}

theorem row_ports_none {below : Node → Option (Ports Node)} {slots : List (Option Node)} :
    rowPorts below slots = none ↔ ∃ child, some child ∈ slots ∧ below child = none := by
  induction slots with
  | nil => simp [rowPorts]
  | cons slot slots ih =>
      cases slot with
      | none => simp [rowPorts, ih]
      | some first =>
          cases here : below first with
          | none => exact iff_of_true (by simp [rowPorts, here]) ⟨first, List.mem_cons_self, here⟩
          | some under =>
              cases later : rowPorts below slots with
              | none =>
                  obtain ⟨child, member, missing⟩ := ih.mp later
                  exact iff_of_true (by simp [rowPorts, here, later])
                    ⟨child, List.mem_cons_of_mem _ member, missing⟩
              | some rest =>
                  refine iff_of_false (by simp [rowPorts, here, later]) ?_
                  rintro ⟨child, member, missing⟩
                  rcases List.mem_cons.mp member with same | member
                  · rw [Option.some.inj same, here] at missing
                    contradiction
                  · rw [ih.mpr ⟨child, member, missing⟩] at later
                    contradiction

theorem unfold_none_iff (fuel : Nat) (node : Node) :
    unfold row fuel node = none ↔ Descends row fuel node := by
  induction fuel generalizing node with
  | zero => exact iff_of_true rfl trivial
  | succ fuel ih => simp only [unfold, row_ports_none, ih, Descends, Edge]

theorem descends_chain {steps : Nat} (descends : Descends row steps node) :
    ∃ path : List Node, path.length = steps ∧ (node :: path).IsChain (Edge row) := by
  induction steps generalizing node with
  | zero => exact ⟨[], rfl, List.isChain_singleton node⟩
  | succ steps ih =>
      obtain ⟨child, edge, rest⟩ := descends
      obtain ⟨path, length, chain⟩ := ih rest
      exact ⟨child :: path, by simp [length], List.isChain_cons_cons.mpr ⟨edge, chain⟩⟩

theorem Acyclic.nodup_chain (acyclic : Acyclic row node) {path : List Node}
    (chain : (node :: path).IsChain (Edge row)) : (node :: path).Nodup := by
  have ordered : (node :: path).Pairwise (TransGen (Edge row)) :=
    (chain.imp fun _ _ edge => TransGen.single edge).pairwise
  have below : ∀ other ∈ node :: path, ReflTransGen (Edge row) node other := by
    intro other member
    rcases List.mem_cons.mp member with rfl | member
    · exact .refl
    · exact (List.rel_of_pairwise_cons ordered member).to_reflTransGen
  rw [List.nodup_iff_pairwise_ne]
  refine ordered.imp_of_mem fun member _ later same => ?_
  subst same
  exact acyclic _ (below _ member) later

theorem descends_of_cycle {reached : Node} (cycle : TransGen (Edge row) reached reached)
    (steps : Nat) (above : ReflTransGen (Edge row) node reached) : Descends row steps node := by
  induction steps generalizing node with
  | zero => trivial
  | succ steps ih =>
      rcases ReflTransGen.cases_head above with rfl | ⟨child, edge, rest⟩
      · obtain ⟨child, edge, back⟩ := TransGen.head'_iff.mp cycle
        exact ⟨child, edge, ih back⟩
      · exact ⟨child, edge, ih rest⟩

/-- The recursion ends exactly if no cycle can be reached; then no path is longer
than there are nodes. -/
theorem unfold_ends_iff [Fintype Node] (node : Node) :
    ((∃ fuel, (unfold row fuel node).isSome = true) ↔ Acyclic row node) ∧
      (Acyclic row node → (unfold row (Fintype.card Node) node).isSome = true) := by
  have enough (acyclic : Acyclic row node) :
      (unfold row (Fintype.card Node) node).isSome = true := by
    rw [← Option.not_isNone, Bool.not_eq_true', ← Bool.not_eq_true, Option.isNone_iff_eq_none,
      unfold_none_iff]
    intro descends
    obtain ⟨path, length, chain⟩ := descends_chain descends
    have bound := (acyclic.nodup_chain chain).length_le_card
    simp only [List.length_cons, length] at bound
    omega
  refine ⟨⟨?_, fun acyclic => ⟨_, enough acyclic⟩⟩, enough⟩
  rintro ⟨fuel, ended⟩ reached above cycle
  have out := (unfold_none_iff fuel node).mpr (descends_of_cycle cycle fuel above)
  rw [out] at ended
  contradiction

/-! ### What is unfolded -/

theorem row_ports_items {below : Node → Option (Ports Node)} {slots : List (Option Node)}
    {ports : Ports Node} (unfolded : rowPorts below slots = some ports) (item : Node) :
    item ∈ ports.items ↔ ∃ child, some child ∈ slots ∧
      (item = child ∨ ∃ under, below child = some under ∧ item ∈ under.items) := by
  induction slots generalizing ports with
  | nil =>
      obtain rfl := Option.some.inj unfolded
      simp [Ports.items]
  | cons slot slots ih =>
      cases slot with
      | none =>
          obtain ⟨rest, later, rfl⟩ := Option.map_eq_some_iff.mp unfolded
          simp [Ports.items, ih later]
      | some first =>
          simp only [rowPorts, Option.bind_eq_bind, Option.bind_eq_some_iff, Option.pure_def,
            Option.some.injEq] at unfolded
          obtain ⟨under, here, rest, later, rfl⟩ := unfolded
          simp only [Ports.items, List.mem_cons, List.mem_append, ih later, Option.some.injEq]
          constructor
          · rintro (rfl | inside | ⟨child, member, found⟩)
            · exact ⟨item, Or.inl rfl, Or.inl rfl⟩
            · exact ⟨first, Or.inl rfl, Or.inr ⟨under, here, inside⟩⟩
            · exact ⟨child, Or.inr member, found⟩
          · rintro ⟨child, rfl | member, found⟩
            · rcases found with rfl | ⟨other, there, inside⟩
              · exact Or.inl rfl
              · rw [here, Option.some.injEq] at there
                exact Or.inr (Or.inl (there ▸ inside))
            · exact Or.inr (Or.inr ⟨child, member, found⟩)

theorem unfold_items {fuel : Nat} {ports : Ports Node}
    (unfolded : unfold row fuel node = some ports) (item : Node) :
    item ∈ ports.items ↔ TransGen (Edge row) node item := by
  induction fuel generalizing node ports with
  | zero => cases unfolded
  | succ fuel ih =>
      rw [row_ports_items unfolded, TransGen.head'_iff]
      constructor
      · rintro ⟨child, edge, rfl | ⟨under, here, inside⟩⟩
        · exact ⟨item, edge, .refl⟩
        · exact ⟨child, edge, ((ih here).mp inside).to_reflTransGen⟩
      · rintro ⟨child, edge, rest⟩
        refine ⟨child, edge, ?_⟩
        rcases reflTransGen_iff_eq_or_transGen.mp rest with same | later
        · exact Or.inl same
        · right
          cases here : unfold row fuel child with
          | none =>
              have out : unfold row (fuel + 1) node = none :=
                row_ports_none.mpr ⟨child, edge, here⟩
              rw [out] at unfolded
              contradiction
          | some under => exact ⟨under, rfl, (ih here).mpr later⟩

theorem item_below {fuel : Nat} {under : Ports Node} {item : Node}
    (unfolded : unfold row fuel child = some under) (inside : item ∈ child :: under.items) :
    ReflTransGen (Edge row) child item := by
  rcases List.mem_cons.mp inside with rfl | inside
  · exact .refl
  · exact ((unfold_items unfolded item).mp inside).to_reflTransGen

theorem row_ports_below {fuel : Nat} {slots : List (Option Node)} {rest : Ports Node} {item : Node}
    (unfolded : rowPorts (unfold row fuel) slots = some rest) (inside : item ∈ rest.items) :
    ∃ child, some child ∈ slots ∧ ReflTransGen (Edge row) child item := by
  obtain ⟨child, member, rfl | ⟨under, here, inUnder⟩⟩ := (row_ports_items unfolded item).mp inside
  · exact ⟨item, member, .refl⟩
  · exact ⟨child, member, item_below here (List.mem_cons_of_mem _ inUnder)⟩

/-- Below `top` each node is named by one slot at most, and `top` by none. -/
structure Treelike (row : Node → List (Option Node)) (top : Node) : Prop where
  once : ∀ (parent other child : Node) (index place : Nat),
    ReflTransGen (Edge row) top parent → ReflTransGen (Edge row) top other →
      (row parent)[index]? = some (some child) → (row other)[place]? = some (some child) →
        parent = other ∧ index = place
  unnamed : ∀ parent, ReflTransGen (Edge row) top parent → ¬ Edge row parent top

namespace Treelike

variable {top : Node}

theorem parent (treelike : Treelike row top) {first second : Node}
    (above : ReflTransGen (Edge row) top first) (other : ReflTransGen (Edge row) top second)
    (edge : Edge row first child) (otherEdge : Edge row second child) : first = second := by
  obtain ⟨index, here⟩ := List.getElem?_of_mem edge
  obtain ⟨place, there⟩ := List.getElem?_of_mem otherEdge
  exact (treelike.once first second child index place above other here there).1

theorem acyclic (treelike : Treelike row top) : Acyclic row top := by
  intro reached above
  induction above with
  | refl =>
      intro cycle
      obtain ⟨last, rest, edge⟩ := TransGen.tail'_iff.mp cycle
      exact treelike.unnamed last rest edge
  | tail above edge ih =>
      intro cycle
      obtain ⟨last, rest, back⟩ := TransGen.tail'_iff.mp cycle
      have same := treelike.parent above ((above.tail edge).trans rest) edge back
      subst same
      exact ih (TransGen.head' edge rest)

theorem comparable (treelike : Treelike row top) {first second reached : Node}
    (above : ReflTransGen (Edge row) top first) (other : ReflTransGen (Edge row) top second)
    (down : ReflTransGen (Edge row) first reached)
    (otherDown : ReflTransGen (Edge row) second reached) :
    ReflTransGen (Edge row) first second ∨ ReflTransGen (Edge row) second first := by
  induction down with
  | refl => exact Or.inr otherDown
  | @tail middle last rest edge ih =>
      rcases ReflTransGen.cases_tail otherDown with same | ⟨before, back, otherEdge⟩
      · exact Or.inl (same ▸ rest.tail edge)
      · have same := treelike.parent (above.trans rest) (other.trans back) edge otherEdge
        exact ih (same ▸ back)

theorem slots_apart (treelike : Treelike row top) {first second reached : Node}
    {index place : Nat} (above : ReflTransGen (Edge row) top node)
    (here : (row node)[index]? = some (some first))
    (there : (row node)[place]? = some (some second))
    (down : ReflTransGen (Edge row) first reached)
    (otherDown : ReflTransGen (Edge row) second reached) : index = place := by
  have edge : Edge row node first := List.mem_of_getElem? here
  have otherEdge : Edge row node second := List.mem_of_getElem? there
  have same {upper lower : Node} (upperEdge : Edge row node upper) (lowerEdge : Edge row node lower)
      (between : ReflTransGen (Edge row) upper lower) : upper = lower := by
    rcases ReflTransGen.cases_tail between with same | ⟨before, back, last⟩
    · exact same.symm
    · -- the slot of the lower node would be below the upper one
      have hub := treelike.parent above ((above.tail upperEdge).trans back) lowerEdge last
      subst hub
      exact absurd (TransGen.head' upperEdge back) (treelike.acyclic _ above)
  have equal : first = second := by
    rcases treelike.comparable (above.tail edge) (above.tail otherEdge) down otherDown with
      between | between
    · exact same edge otherEdge between
    · exact (same otherEdge edge between).symm
  subst equal
  exact (treelike.once node node first index place above above here there).2

theorem unfold_nodup (treelike : Treelike row top) {fuel : Nat} {ports : Ports Node}
    (above : ReflTransGen (Edge row) top node) (unfolded : unfold row fuel node = some ports) :
    (node :: ports.items).Nodup := by
  rw [List.nodup_cons]
  refine ⟨fun inside => treelike.acyclic node above ((unfold_items unfolded node).mp inside), ?_⟩
  induction fuel generalizing node ports with
  | zero => cases unfolded
  | succ fuel ih =>
      -- the slots from `count` on, of which the first is apart from the others
      have suffix (slots : List (Option Node)) (count : Nat) (rest : Ports Node)
          (dropped : (row node).drop count = slots)
          (later : rowPorts (unfold row fuel) slots = some rest) : rest.items.Nodup := by
        induction slots generalizing count rest with
        | nil =>
            obtain rfl := Option.some.inj later
            exact List.nodup_nil
        | cons slot slots ihSlots =>
            have here : (row node)[count]? = some slot := by
              rw [← List.head?_drop, dropped, List.head?_cons]
            have tail : (row node).drop (count + 1) = slots := by
              rw [← List.tail_drop, dropped, List.tail_cons]
            cases slot with
            | none =>
                obtain ⟨others, following, rfl⟩ := Option.map_eq_some_iff.mp later
                exact ihSlots (count + 1) others tail following
            | some first =>
                simp only [rowPorts, Option.bind_eq_bind, Option.bind_eq_some_iff,
                  Option.pure_def, Option.some.injEq] at later
                obtain ⟨under, found, others, following, rfl⟩ := later
                have below := above.tail (List.mem_of_getElem? here)
                have outside : first ∉ under.items := fun inside =>
                  treelike.acyclic first below ((unfold_items found first).mp inside)
                have own : (first :: under.items).Nodup :=
                  List.nodup_cons.mpr ⟨outside, ih below found⟩
                show (first :: under.items ++ others.items).Nodup
                refine List.nodup_append.mpr
                  ⟨own, ihSlots (count + 1) others tail following, ?_⟩
                rintro reached inOwn other inOthers rfl
                obtain ⟨child, member, down⟩ := row_ports_below following inOthers
                obtain ⟨place, there⟩ := List.getElem?_of_mem member
                rw [← tail, List.getElem?_drop] at there
                have same := treelike.slots_apart above here there
                  (item_below found inOwn) down
                omega
      exact suffix (row node) 0 ports rfl unfolded

end Treelike

/-! ### Where a node stands -/

theorem row_ports_slot {below : Node → Option (Ports Node)} {slots : List (Option Node)}
    {ports : Ports Node} (unfolded : rowPorts below slots = some ports) {index : Nat}
    (named : slots[index]? = some (some child)) :
    ∃ under, below child = some under ∧ ports.slot index = some (child, under) := by
  induction slots generalizing index ports with
  | nil => simp at named
  | cons slot slots ih =>
      cases slot with
      | none =>
          obtain ⟨rest, later, rfl⟩ := Option.map_eq_some_iff.mp unfolded
          match index with
          | 0 => simp at named
          | index + 1 => exact ih later named
      | some first =>
          simp only [rowPorts, Option.bind_eq_bind, Option.bind_eq_some_iff, Option.pure_def,
            Option.some.injEq] at unfolded
          obtain ⟨under, here, rest, later, rfl⟩ := unfolded
          match index with
          | 0 =>
              obtain rfl : first = child := by simpa using named
              exact ⟨under, here, rfl⟩
          | index + 1 => exact ih later named

theorem slot_unfolded {below : Node → Option (Ports Node)} {slots : List (Option Node)}
    {ports under : Ports Node} (unfolded : rowPorts below slots = some ports) {index : Nat}
    (present : ports.slot index = some (child, under)) : below child = some under := by
  induction slots generalizing index ports with
  | nil =>
      obtain rfl := Option.some.inj unfolded
      simp [Ports.slot] at present
  | cons slot slots ih =>
      cases slot with
      | none =>
          obtain ⟨rest, later, rfl⟩ := Option.map_eq_some_iff.mp unfolded
          cases index with
          | zero => simp [Ports.slot] at present
          | succ index => exact ih later present
      | some first =>
          simp only [rowPorts, Option.bind_eq_bind, Option.bind_eq_some_iff, Option.pure_def,
            Option.some.injEq] at unfolded
          obtain ⟨own, here, rest, later, rfl⟩ := unfolded
          cases index with
          | zero =>
              obtain ⟨rfl, rfl⟩ : first = child ∧ own = under := by
                simpa [Ports.slot] using present
              exact here
          | succ index => exact ih later present

def standing (top : Node) (ports : Ports Node) : List Nat → Option Node
  | [] => some top
  | index :: path => ports.itemAt (index :: path)

theorem standing_below (top : Node) {ports under : Ports Node} {index : Nat} {path : List Nat}
    (present : ports.slot index = some (child, under)) :
    standing top ports (index :: path) = standing child under path := by
  cases path <;> simp [standing, Ports.itemAt, present]

theorem standing_slot {fuel : Nat} {top parent : Node} {ports : Ports Node}
    (unfolded : unfold row fuel top = some ports) {path : List Nat} {index : Nat}
    (stands : standing top ports path = some parent)
    (named : (row parent)[index]? = some (some child)) :
    standing top ports (path ++ [index]) = some child := by
  induction path generalizing fuel top ports with
  | nil =>
      obtain rfl := Option.some.inj stands
      cases fuel with
      | zero => cases unfolded
      | succ fuel =>
          obtain ⟨under, _, present⟩ := row_ports_slot unfolded named
          rw [List.nil_append, standing_below _ present]
          rfl
  | cons first path ih =>
      cases fuel with
      | zero => cases unfolded
      | succ fuel =>
          cases present : ports.slot first with
          | none => simp [standing, Ports.itemAt, present] at stands
          | some pair =>
              obtain ⟨next, under⟩ := pair
              rw [standing_below _ present] at stands
              rw [List.cons_append, standing_below _ present]
              exact ih (slot_unfolded unfolded present) stands

theorem stands_of_reached {fuel : Nat} {top reached : Node} {ports : Ports Node}
    (unfolded : unfold row fuel top = some ports) (above : ReflTransGen (Edge row) top reached) :
    ∃ path, standing top ports path = some reached := by
  induction above with
  | refl => exact ⟨[], rfl⟩
  | tail _ edge ih =>
      obtain ⟨path, stands⟩ := ih
      obtain ⟨index, named⟩ := List.getElem?_of_mem edge
      exact ⟨path ++ [index], standing_slot unfolded stands named⟩

theorem standing_injective {top item : Node} {ports : Ports Node}
    (nodup : (top :: ports.items).Nodup) {path other : List Nat}
    (here : standing top ports path = some item) (there : standing top ports other = some item) :
    path = other := by
  obtain ⟨apart, nodup⟩ := List.nodup_cons.mp nodup
  match path, other with
  | [], [] => rfl
  | [], _ :: _ =>
      obtain rfl := Option.some.inj here
      exact absurd ((Ports.mem_items_iff ports _).mpr ⟨_, there⟩) apart
  | _ :: _, [] =>
      obtain rfl := Option.some.inj there
      exact absurd ((Ports.mem_items_iff ports _).mpr ⟨_, here⟩) apart
  | _ :: _, _ :: _ => exact Ports.item_at_injective nodup here there

/-- The recursion meets every node once exactly if every node is named once. -/
theorem unfold_nodup_iff {fuel : Nat} {top : Node} {ports : Ports Node}
    (unfolded : unfold row fuel top = some ports) :
    (top :: ports.items).Nodup ↔ Treelike row top := by
  refine ⟨fun nodup => ⟨?_, ?_⟩, fun treelike => treelike.unfold_nodup .refl unfolded⟩
  · intro parent other child index place above otherAbove named otherNamed
    obtain ⟨path, stands⟩ := stands_of_reached unfolded above
    obtain ⟨way, otherStands⟩ := stands_of_reached unfolded otherAbove
    have same := standing_injective nodup (standing_slot unfolded stands named)
      (standing_slot unfolded otherStands otherNamed)
    obtain ⟨rfl, last⟩ := List.append_inj' same rfl
    rw [stands] at otherStands
    exact ⟨Option.some.inj otherStands, by simpa using last⟩
  · intro parent above edge
    have inside := (unfold_items unfolded top).mpr (TransGen.tail' above edge)
    exact (List.nodup_cons.mp nodup).1 inside

end

end JavaxUsbLinux.PortUnfolding
