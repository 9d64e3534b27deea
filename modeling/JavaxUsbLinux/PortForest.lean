import Mathlib.Data.List.Basic
import Mathlib.Data.List.Nodup

/-!
# Forests indexed by hub ports

A hub carries a row of ports and each port carries at most one item, which may
itself have a row of ports below it. Two such forests are compared port by
port: an item of the old forest is met when it and every item above it face,
at the same port, an item of the new forest that `hit` accepts. The module
names the two halves of the comparison, and the old and new forests' merge,
by recursion and by position, and proves that both descriptions agree.
-/

namespace JavaxUsbLinux.PortForest

set_option autoImplicit false

/-- The ports of one hub from some port on. A port is vacant, or it is occupied
by an item with its own ports `below`; `done` means that no port follows. -/
inductive Ports (Item : Type*) where
  | done
  | vacant (rest : Ports Item)
  | occupied (item : Item) (below rest : Ports Item)
  deriving DecidableEq

namespace Ports

variable {Item Old New : Type*}

/-- Every item before the items below it, lower ports before higher ones. -/
def items : Ports Item → List Item
  | .done => []
  | .vacant rest => rest.items
  | .occupied item below rest => item :: (below.items ++ rest.items)

def width : Ports Item → Nat
  | .done => 0
  | .vacant rest => rest.width + 1
  | .occupied _ _ rest => rest.width + 1

def depth : Ports Item → Nat
  | .done => 0
  | .vacant rest => rest.depth
  | .occupied _ below rest => max (below.depth + 1) rest.depth

def rest : Ports Item → Ports Item
  | .done => .done
  | .vacant rest => rest
  | .occupied _ _ rest => rest

def rows : Ports Item → List (Item × Ports Item)
  | .done => []
  | .vacant rest => rest.rows
  | .occupied item below rest => (item, below) :: rest.rows

def slot : Ports Item → Nat → Option (Item × Ports Item)
  | .done, _ => none
  | .vacant _, 0 => none
  | .occupied item below _, 0 => some (item, below)
  | .vacant rest, index + 1 => rest.slot index
  | .occupied _ _ rest, index + 1 => rest.slot index

def itemAt : List Nat → Ports Item → Option Item
  | [], _ => none
  | index :: path, ports =>
      match ports.slot index with
      | none => none
      | some (item, below) => if path = [] then some item else itemAt path below

@[simp] theorem rest_done : (Ports.done : Ports Item).rest = .done := rfl
@[simp] theorem rest_vacant (tail : Ports Item) : (Ports.vacant tail).rest = tail := rfl
@[simp] theorem rest_occupied (item : Item) (below tail : Ports Item) :
    (Ports.occupied item below tail).rest = tail := rfl

@[simp] theorem slot_succ (ports : Ports Item) (index : Nat) :
    ports.slot (index + 1) = ports.rest.slot index := by
  cases ports <;> simp [slot, rest]

theorem slot_zero_some {ports : Ports Item} {item : Item} {below : Ports Item} :
    ports.slot 0 = some (item, below) ↔ ports = .occupied item below ports.rest := by
  cases ports <;> simp [slot, rest]

theorem rest_items (ports : Ports Item) : ports.rest.items.Sublist ports.items := by
  cases ports with
  | done => exact List.Sublist.refl _
  | vacant tail => exact List.Sublist.refl _
  | occupied item below tail =>
      exact (List.sublist_append_right _ _).trans (List.sublist_cons_self _ _)

theorem slot_item {ports : Ports Item} {index : Nat} {item : Item} {below : Ports Item}
    (present : ports.slot index = some (item, below)) : item ∈ ports.items := by
  induction index generalizing ports with
  | zero =>
      rw [slot_zero_some.mp present]
      simp [items]
  | succ index ih =>
      rw [slot_succ] at present
      exact (rest_items ports).subset (ih present)

theorem slot_zero_fresh {ports : Ports Item} {item : Item} {below : Ports Item}
    (present : ports.slot 0 = some (item, below)) (nodup : ports.items.Nodup) :
    item ∉ ports.rest.items := by
  rw [slot_zero_some.mp present] at nodup
  simp only [items, List.nodup_cons, List.mem_append, not_or] at nodup
  exact nodup.1.2

theorem slots_sublist {ports : Ports Item} {index later : Nat} {item other : Item}
    {below under : Ports Item} (present : ports.slot index = some (item, below))
    (faced : ports.slot later = some (other, under)) (order : index < later) :
    [item, other].Sublist ports.items := by
  induction index generalizing ports later with
  | zero =>
      rw [slot_zero_some.mp present] at faced ⊢
      obtain ⟨later, rfl⟩ := Nat.exists_eq_add_one.mpr order
      rw [slot_succ, rest_occupied] at faced
      apply List.Sublist.cons_cons
      exact List.singleton_sublist.mpr (List.mem_append_right _ (slot_item faced))
  | succ index ih =>
      obtain ⟨later, rfl⟩ := Nat.exists_eq_add_one.mpr (Nat.lt_of_le_of_lt (Nat.zero_le _) order)
      rw [slot_succ] at present faced
      exact (ih present faced (Nat.lt_of_succ_lt_succ order)).trans (rest_items ports)

theorem items_eq_rows (ports : Ports Item) :
    ports.items = ports.rows.flatMap fun row => row.1 :: row.2.items := by
  induction ports with
  | done => rfl
  | vacant rest ih => exact ih
  | occupied item below rest _ ihRest => simp [items, rows, ihRest]

theorem rows_depth (ports : Ports Item) (row : Item × Ports Item) (member : row ∈ ports.rows) :
    row.2.depth < ports.depth := by
  induction ports with
  | done => simp [rows] at member
  | vacant rest ih => exact ih member
  | occupied item below rest _ ihRest =>
      simp only [rows, List.mem_cons] at member
      simp only [depth]
      rcases member with rfl | member
      · exact Nat.lt_of_lt_of_le (Nat.lt_succ_self _) (Nat.le_max_left _ _)
      · exact Nat.lt_of_lt_of_le (ihRest member) (Nat.le_max_right _ _)

theorem range_slots (ports : Ports Item) (count : Nat)
    (bound : ∀ index, ports.slot index ≠ none → index < count) :
    (List.range count).filterMap ports.slot = ports.rows := by
  induction ports generalizing count with
  | done => simp [slot, rows]
  | vacant rest ih =>
      cases count with
      | zero =>
          have later := ih 0 fun index present => by simpa using bound (index + 1) present
          simpa [rows] using later
      | succ count =>
          have later := ih count fun index present => by simpa using bound (index + 1) present
          rw [List.range_succ_eq_map, List.filterMap_cons, List.filterMap_map]
          simpa [slot, rows, Function.comp_def] using later
  | occupied item below rest _ ihRest =>
      cases count with
      | zero => exact absurd (bound 0 (by simp [slot])) (Nat.not_lt_zero 0)
      | succ count =>
          have later := ihRest count fun index present => by simpa using bound (index + 1) present
          rw [List.range_succ_eq_map, List.filterMap_cons, List.filterMap_map]
          simpa [slot, rows, Function.comp_def] using later

theorem item_at_succ (ports : Ports Item) (index : Nat) (path : List Nat) :
    ports.itemAt ((index + 1) :: path) = ports.rest.itemAt (index :: path) := by
  simp [itemAt]

theorem mem_items_iff (ports : Ports Item) (item : Item) :
    item ∈ ports.items ↔ ∃ path, ports.itemAt path = some item := by
  induction ports with
  | done =>
      simp only [items, List.not_mem_nil, false_iff, not_exists]
      intro path
      cases path <;> simp [itemAt, slot]
  | vacant tail ih =>
      rw [items, ih]
      constructor
      · rintro ⟨path, found⟩
        cases path with
        | nil => simp [itemAt] at found
        | cons index path => exact ⟨(index + 1) :: path, by rwa [item_at_succ]⟩
      · rintro ⟨path, found⟩
        cases path with
        | nil => simp [itemAt] at found
        | cons index path =>
            cases index with
            | zero => simp [itemAt, slot] at found
            | succ index => exact ⟨index :: path, by rwa [item_at_succ] at found⟩
  | occupied head below tail ihBelow ihTail =>
      rw [items, List.mem_cons, List.mem_append, ihBelow, ihTail]
      constructor
      · rintro (rfl | ⟨path, found⟩ | ⟨path, found⟩)
        · exact ⟨[0], by simp [itemAt, slot]⟩
        · cases path with
          | nil => simp [itemAt] at found
          | cons index path => exact ⟨0 :: index :: path, by simpa [itemAt, slot] using found⟩
        · cases path with
          | nil => simp [itemAt] at found
          | cons index path => exact ⟨(index + 1) :: path, by rwa [item_at_succ]⟩
      · rintro ⟨path, found⟩
        match path with
        | [] => simp [itemAt] at found
        | [0] =>
            left
            simpa [itemAt, slot, eq_comm] using found
        | 0 :: index :: path =>
            right; left
            exact ⟨index :: path, by simpa [itemAt, slot] using found⟩
        | (index + 1) :: path =>
            right; right
            exact ⟨index :: path, by rwa [item_at_succ] at found⟩

/-! ### Comparing an old forest with a new one -/

/-- The item and every item above it on `path` are hit, port by port. -/
def MetAt (hit : Old → New → Bool) : List Nat → Ports Old → Ports New → Prop
  | [], _, _ => True
  | index :: path, old, new =>
      ∃ item below other ports,
        old.slot index = some (item, below) ∧ new.slot index = some (other, ports) ∧
          hit item other = true ∧ MetAt hit path below ports

def Retained (hit : Old → New → Bool) (old : Ports Old) (new : Ports New) (item : Old) : Prop :=
  ∃ path, old.itemAt path = some item ∧ MetAt hit path old new

def Unmet (hit : Old → New → Bool) (old : Ports Old) (new : Ports New) (item : New) : Prop :=
  ∃ path, new.itemAt path = some item ∧ ¬ MetAt hit path old new

def meet (hit : Old → New → Bool) (old : Ports Old) (item : New) : Option (Old × Ports Old) :=
  (old.slot 0).filter fun found => hit found.1 item

def kept (hit : Old → New → Bool) : Ports Old → Ports New → List Old
  | _, .done => []
  | old, .vacant rest => kept hit old.rest rest
  | old, .occupied item below rest =>
      (match old.meet hit item with
        | some (found, under) => found :: kept hit under below
        | none => []) ++ kept hit old.rest rest

/-- The new items that meet nothing. Below such an item everything is new. -/
def added (hit : Old → New → Bool) : Ports Old → Ports New → List New
  | _, .done => []
  | old, .vacant rest => added hit old.rest rest
  | old, .occupied item below rest =>
      (match old.meet hit item with
        | some (_, under) => added hit under below
        | none => item :: added hit .done below) ++ added hit old.rest rest

def pruned (hit : Old → New → Bool) : Ports Old → Ports New → Ports Old
  | _, .done => .done
  | old, .vacant rest => .vacant (pruned hit old.rest rest)
  | old, .occupied item below rest =>
      match old.meet hit item with
      | some (found, under) => .occupied found (pruned hit under below) (pruned hit old.rest rest)
      | none => .vacant (pruned hit old.rest rest)

/-- The new forest with each retained old item in the place of the item it met. -/
def merged (hit : Old → New → Bool) (fresh : New → Old) : Ports Old → Ports New → Ports Old
  | _, .done => .done
  | old, .vacant rest => .vacant (merged hit fresh old.rest rest)
  | old, .occupied item below rest =>
      match old.meet hit item with
      | some (found, under) =>
          .occupied found (merged hit fresh under below) (merged hit fresh old.rest rest)
      | none =>
          .occupied (fresh item) (merged hit fresh .done below) (merged hit fresh old.rest rest)

variable (hit : Old → New → Bool)

theorem meet_eq_some {old : Ports Old} {item : New} {found : Old} {under : Ports Old} :
    old.meet hit item = some (found, under) ↔
      old.slot 0 = some (found, under) ∧ hit found item = true := by
  rw [meet, Option.filter_eq_some_iff]

theorem meet_eq_none {old : Ports Old} {item : New} :
    old.meet hit item = none ↔
      ∀ found under, old.slot 0 = some (found, under) → hit found item = false := by
  simp [meet, Option.filter_eq_none_iff]

@[simp] theorem meet_done (item : New) : (Ports.done : Ports Old).meet hit item = none := rfl

theorem met_at_succ (index : Nat) (path : List Nat) (old : Ports Old) (new : Ports New) :
    MetAt hit ((index + 1) :: path) old new ↔ MetAt hit (index :: path) old.rest new.rest := by
  simp [MetAt]

theorem met_at_zero (path : List Nat) (old : Ports Old) (item : New) (below rest : Ports New) :
    MetAt hit (0 :: path) old (.occupied item below rest) ↔
      ∃ found under, old.meet hit item = some (found, under) ∧ MetAt hit path under below := by
  simp only [MetAt, slot, meet_eq_some, Option.some.injEq, Prod.mk.injEq]
  constructor
  · rintro ⟨found, under, _, _, present, ⟨rfl, rfl⟩, accepted, met⟩
    exact ⟨found, under, ⟨present, accepted⟩, met⟩
  · rintro ⟨found, under, ⟨present, accepted⟩, met⟩
    exact ⟨found, under, item, below, present, ⟨rfl, rfl⟩, accepted, met⟩

theorem matched_below {alike : Old → New → Prop} {old : Ports Old} {new : Ports New}
    (matched : ∀ path, Option.Rel alike (old.itemAt path) (new.itemAt path)) (index : Nat) :
    Option.Rel (fun left right => alike left.1 right.1 ∧
      ∀ path, Option.Rel alike (left.2.itemAt path) (right.2.itemAt path))
        (old.slot index) (new.slot index) := by
  have here := matched [index]
  have under : ∀ next path, Option.Rel alike (old.itemAt (index :: next :: path))
      (new.itemAt (index :: next :: path)) := fun next path => matched _
  simp only [itemAt] at here under
  cases oldSlot : old.slot index with
  | none =>
      cases newSlot : new.slot index with
      | none => exact Option.Rel.none
      | some faced =>
          simp only [oldSlot, newSlot, if_true] at here
          nomatch here
  | some pair =>
      cases newSlot : new.slot index with
      | none =>
          simp only [oldSlot, newSlot, if_true] at here
          nomatch here
      | some faced =>
          simp only [oldSlot, newSlot, if_true] at here under
          cases here with
          | some accepted =>
              refine Option.Rel.some ⟨accepted, ?_⟩
              intro path
              cases path with
              | nil => exact Option.Rel.none
              | cons next path => simpa [itemAt] using under next path

theorem met_at_of_matched (old : Ports Old) (new : Ports New)
    (matched : ∀ path, Option.Rel (fun item other => hit item other = true)
      (old.itemAt path) (new.itemAt path))
    (path : List Nat) {other : New} (present : new.itemAt path = some other) :
    MetAt hit path old new := by
  induction path generalizing old new with
  | nil => trivial
  | cons index path ih =>
      have here := matched_below matched index
      cases newSlot : new.slot index with
      | none => simp [itemAt, newSlot] at present
      | some faced =>
          rw [newSlot] at here
          generalize oldSlot : old.slot index = pair at here
          cases here with
          | @some pair _ agrees =>
              refine ⟨pair.1, pair.2, faced.1, faced.2, oldSlot, newSlot, agrees.1, ?_⟩
              cases path with
              | nil => trivial
              | cons next tail =>
                  apply ih pair.2 faced.2 agrees.2
                  simpa [itemAt, newSlot] using present

theorem met_at_of_alike {alike : Old → Old → Prop}
    (moves : ∀ item twin other, hit item other = true → alike item twin → hit twin other = true)
    (old twins : Ports Old) (new : Ports New)
    (matched : ∀ path, Option.Rel alike (old.itemAt path) (twins.itemAt path))
    (path : List Nat) (met : MetAt hit path old new) : MetAt hit path twins new := by
  induction path generalizing old twins new with
  | nil => trivial
  | cons index path ih =>
      obtain ⟨item, below, other, ports, oldSlot, newSlot, accepted, further⟩ := met
      have here := matched_below matched index
      rw [oldSlot] at here
      generalize twinSlot : twins.slot index = pair at here
      cases here with
      | @some _ pair agrees =>
          exact ⟨pair.1, pair.2, other, ports, twinSlot, newSlot,
            moves item pair.1 other accepted agrees.1,
            ih below pair.2 ports agrees.2 further⟩

private theorem path_cases (path : List Nat) :
    path = [] ∨ (∃ tail, path = 0 :: tail) ∨ ∃ index tail, path = (index + 1) :: tail := by
  match path with
  | [] => exact Or.inl rfl
  | 0 :: tail => exact Or.inr (Or.inl ⟨tail, rfl⟩)
  | (index + 1) :: tail => exact Or.inr (Or.inr ⟨index, tail, rfl⟩)

theorem item_at_nil (ports : Ports Item) : ports.itemAt [] = none := by
  simp [itemAt]

theorem item_at_of_slot {ports : Ports Item} {item : Item} {below : Ports Item}
    (present : ports.slot 0 = some (item, below)) (path : List Nat) :
    ports.itemAt (0 :: path) = if path = [] then some item else below.itemAt path := by
  simp [itemAt, present]

theorem item_at_zero (item : Item) (below rest : Ports Item) (path : List Nat) :
    (Ports.occupied item below rest).itemAt (0 :: path) =
      if path = [] then some item else below.itemAt path := rfl

theorem item_at_injective {ports : Ports Item} (nodup : ports.items.Nodup) {path other : List Nat}
    {item : Item} (here : ports.itemAt path = some item) (there : ports.itemAt other = some item) :
    path = other := by
  have nonempty {ports : Ports Item} {path : List Nat}
      (present : ports.itemAt path = some item) : path ≠ [] := by
    rintro rfl
    simp [item_at_nil] at present
  induction ports generalizing path other with
  | done => cases path <;> simp [itemAt, slot] at here
  | vacant rest ih =>
      match path, other with
      | [], _ => exact absurd rfl (nonempty here)
      | _, [] => exact absurd rfl (nonempty there)
      | 0 :: _, _ => simp [itemAt, slot] at here
      | _, 0 :: _ => simp [itemAt, slot] at there
      | (index + 1) :: path, (place + 1) :: other =>
          rw [item_at_succ] at here there
          simpa using ih nodup here there
  | occupied first below rest ihBelow ihRest =>
      obtain ⟨apart, nodup⟩ := List.nodup_cons.mp nodup
      obtain ⟨nodupBelow, nodupRest, disjoint⟩ := List.nodup_append.mp nodup
      simp only [List.mem_append, not_or] at apart
      have inside {ports : Ports Item} {path : List Nat}
          (present : ports.itemAt path = some item) : item ∈ ports.items :=
        (mem_items_iff ports item).mpr ⟨path, present⟩
      -- the first port, what is below it and the later ports have nothing in common
      match path, other with
      | [], _ => exact absurd rfl (nonempty here)
      | _, [] => exact absurd rfl (nonempty there)
      | 0 :: path, 0 :: other =>
          rw [item_at_zero] at here there
          split_ifs at here there with last lastOther lastOther
          · rw [last, lastOther]
          · exact absurd (inside there) (Option.some.inj here ▸ apart.1)
          · exact absurd (inside here) (Option.some.inj there ▸ apart.1)
          · rw [ihBelow nodupBelow here there]
      | 0 :: path, (place + 1) :: other =>
          rw [item_at_zero] at here
          rw [item_at_succ] at there
          split_ifs at here with last
          · exact absurd (inside there) (Option.some.inj here ▸ apart.2)
          · exact absurd rfl (disjoint item (inside here) item (inside there))
      | (index + 1) :: path, 0 :: other =>
          rw [item_at_succ] at here
          rw [item_at_zero] at there
          split_ifs at there with last
          · exact absurd (inside here) (Option.some.inj there ▸ apart.2)
          · exact absurd rfl (disjoint item (inside there) item (inside here))
      | (index + 1) :: path, (place + 1) :: other =>
          rw [item_at_succ] at here there
          simpa using ihRest nodupRest here there

theorem retained_vacant (old : Ports Old) (rest : Ports New) (item : Old) :
    Retained hit old (.vacant rest) item ↔ Retained hit old.rest rest item := by
  constructor
  · rintro ⟨path, found, met⟩
    rcases path_cases path with rfl | ⟨tail, rfl⟩ | ⟨index, tail, rfl⟩
    · simp [item_at_nil] at found
    · simp [MetAt, slot] at met
    · exact ⟨index :: tail, by rwa [item_at_succ] at found, by rwa [met_at_succ] at met⟩
  · rintro ⟨path, found, met⟩
    match path with
    | [] => simp [item_at_nil] at found
    | index :: tail =>
        exact ⟨(index + 1) :: tail, by rwa [item_at_succ], by rwa [met_at_succ]⟩

theorem retained_occupied (old : Ports Old) (other : New) (below rest : Ports New) (item : Old) :
    Retained hit old (.occupied other below rest) item ↔
      (∃ found under, old.meet hit other = some (found, under) ∧
        (item = found ∨ Retained hit under below item)) ∨ Retained hit old.rest rest item := by
  constructor
  · rintro ⟨path, found, met⟩
    rcases path_cases path with rfl | ⟨tail, rfl⟩ | ⟨index, tail, rfl⟩
    · simp [item_at_nil] at found
    · left
      rw [met_at_zero] at met
      obtain ⟨here, under, meets, met⟩ := met
      have present := ((meet_eq_some hit).mp meets).1
      rw [item_at_of_slot present] at found
      refine ⟨here, under, meets, ?_⟩
      by_cases last : tail = []
      · left
        simpa [last, eq_comm] using found
      · right
        exact ⟨tail, by simpa [last] using found, met⟩
    · right
      exact ⟨index :: tail, by rwa [item_at_succ] at found, by rwa [met_at_succ] at met⟩
  · rintro (⟨here, under, meets, same | ⟨path, found, met⟩⟩ | ⟨path, found, met⟩)
    · have present := ((meet_eq_some hit).mp meets).1
      refine ⟨[0], ?_, (met_at_zero hit _ _ _ _ _).mpr ⟨here, under, meets, trivial⟩⟩
      simp [item_at_of_slot present, same]
    · have present := ((meet_eq_some hit).mp meets).1
      have nonempty : path ≠ [] := by
        rintro rfl
        simp [item_at_nil] at found
      refine ⟨0 :: path, ?_, (met_at_zero hit _ _ _ _ _).mpr ⟨here, under, meets, met⟩⟩
      rw [item_at_of_slot present, if_neg nonempty]
      exact found
    · match path with
      | [] => simp [item_at_nil] at found
      | index :: tail =>
          exact ⟨(index + 1) :: tail, by rwa [item_at_succ], by rwa [met_at_succ]⟩

theorem retained_iff_mem_kept (old : Ports Old) (new : Ports New) (item : Old) :
    Retained hit old new item ↔ item ∈ kept hit old new := by
  induction new generalizing old with
  | done =>
      simp only [kept, List.not_mem_nil, iff_false]
      rintro ⟨path, found, met⟩
      match path with
      | [] => simp [item_at_nil] at found
      | index :: tail => simp [MetAt, slot] at met
  | vacant rest ih => rw [retained_vacant, kept, ih]
  | occupied other below rest ihBelow ihRest =>
      rw [retained_occupied, kept, List.mem_append, ihRest]
      cases meets : old.meet hit other with
      | none => simp
      | some pair =>
          obtain ⟨found, under⟩ := pair
          simp [ihBelow]

theorem unmet_vacant (old : Ports Old) (rest : Ports New) (item : New) :
    Unmet hit old (.vacant rest) item ↔ Unmet hit old.rest rest item := by
  constructor
  · rintro ⟨path, found, unmet⟩
    rcases path_cases path with rfl | ⟨tail, rfl⟩ | ⟨index, tail, rfl⟩
    · simp [item_at_nil] at found
    · simp [itemAt, slot] at found
    · exact ⟨index :: tail, by rwa [item_at_succ] at found, by rwa [met_at_succ] at unmet⟩
  · rintro ⟨path, found, unmet⟩
    match path with
    | [] => simp [item_at_nil] at found
    | index :: tail =>
        exact ⟨(index + 1) :: tail, by rwa [item_at_succ], by rwa [met_at_succ]⟩

theorem unmet_occupied (old : Ports Old) (other : New) (below rest : Ports New) (item : New) :
    Unmet hit old (.occupied other below rest) item ↔
      (match old.meet hit other with
        | some (_, under) => Unmet hit under below item
        | none => item = other ∨ item ∈ below.items) ∨ Unmet hit old.rest rest item := by
  constructor
  · rintro ⟨path, found, unmet⟩
    rcases path_cases path with rfl | ⟨tail, rfl⟩ | ⟨index, tail, rfl⟩
    · simp [item_at_nil] at found
    · left
      rw [met_at_zero] at unmet
      rw [item_at_zero] at found
      by_cases last : tail = []
      · cases meets : old.meet hit other with
        | none =>
            left
            simpa [last, eq_comm] using found
        | some pair =>
            subst last
            exact absurd ⟨pair.1, pair.2, meets, trivial⟩ unmet
      · rw [if_neg last] at found
        cases meets : old.meet hit other with
        | none => exact Or.inr ((mem_items_iff _ _).mpr ⟨tail, found⟩)
        | some pair => exact ⟨tail, found, fun met => unmet ⟨pair.1, pair.2, meets, met⟩⟩
    · right
      exact ⟨index :: tail, by rwa [item_at_succ] at found, by rwa [met_at_succ] at unmet⟩
  · rintro (here | ⟨path, found, unmet⟩)
    · cases meets : old.meet hit other with
      | none =>
          have alone : ∀ tail, ¬ MetAt hit (0 :: tail) old (.occupied other below rest) := by
            intro tail met
            rw [met_at_zero] at met
            obtain ⟨found, under, present, _⟩ := met
            rw [meets] at present
            contradiction
          rw [meets] at here
          rcases here with same | member
          · refine ⟨[0], ?_, alone []⟩
            simp [item_at_zero, same]
          · obtain ⟨path, found⟩ := (mem_items_iff _ _).mp member
            refine ⟨0 :: path, ?_, alone path⟩
            have nonempty : path ≠ [] := by
              rintro rfl
              simp [item_at_nil] at found
            rw [item_at_zero, if_neg nonempty]
            exact found
      | some pair =>
          rw [meets] at here
          obtain ⟨path, found, unmet⟩ := here
          have nonempty : path ≠ [] := by
            rintro rfl
            simp [item_at_nil] at found
          refine ⟨0 :: path, by rw [item_at_zero, if_neg nonempty]; exact found, ?_⟩
          intro met
          rw [met_at_zero] at met
          obtain ⟨again, lower, meetsAgain, met⟩ := met
          rw [meets] at meetsAgain
          obtain ⟨rfl, rfl⟩ := Prod.ext_iff.mp (Option.some.inj meetsAgain)
          exact unmet met
    · match path with
      | [] => simp [item_at_nil] at found
      | index :: tail =>
          exact ⟨(index + 1) :: tail, by rwa [item_at_succ], by rwa [met_at_succ]⟩

@[simp] theorem kept_done (new : Ports New) : kept hit .done new = [] := by
  induction new with
  | done => rfl
  | vacant rest ih => simpa [kept] using ih
  | occupied item below rest _ ihRest => simpa [kept] using ihRest

@[simp] theorem added_done (new : Ports New) : added hit .done new = new.items := by
  induction new with
  | done => rfl
  | vacant rest ih => simpa [added, items] using ih
  | occupied item below rest ihBelow ihRest =>
      simp [added, items, ihBelow, ihRest]

theorem unmet_iff_mem_added (old : Ports Old) (new : Ports New) (item : New) :
    Unmet hit old new item ↔ item ∈ added hit old new := by
  induction new generalizing old with
  | done =>
      simp only [added, List.not_mem_nil, iff_false]
      rintro ⟨path, found, _⟩
      match path with
      | [] => simp [item_at_nil] at found
      | index :: tail => simp [itemAt, slot] at found
  | vacant rest ih => rw [unmet_vacant, added, ih]
  | occupied other below rest ihBelow ihRest =>
      rw [unmet_occupied, added, List.mem_append, ihRest]
      cases meets : old.meet hit other with
      | none => simp
      | some pair => simp [ihBelow]

theorem kept_sublist (old : Ports Old) (new : Ports New) :
    (kept hit old new).Sublist old.items := by
  induction new generalizing old with
  | done => simp [kept]
  | vacant rest ih =>
      exact (ih old.rest).trans (rest_items old)
  | occupied other below rest ihBelow ihRest =>
      cases old with
      | done => simp
      | vacant tail => simpa [kept, meet, slot, items, Ports.rest] using ihRest tail
      | occupied item under tail =>
          have later := ihRest tail
          cases accepted : hit item other with
          | true =>
              simp only [kept, meet, slot, Option.filter, accepted, items, Ports.rest,
                if_true, List.cons_append]
              exact ((ihBelow under).append later).cons_cons item
          | false =>
              simp only [kept, meet, slot, Option.filter, accepted, items, Ports.rest,
                Bool.false_eq_true, if_false, List.nil_append]
              exact (later.trans (List.sublist_append_right _ _)).trans
                (List.sublist_cons_self _ _)

theorem added_sublist (old : Ports Old) (new : Ports New) :
    (added hit old new).Sublist new.items := by
  induction new generalizing old with
  | done => exact List.Sublist.refl _
  | vacant rest ih => exact ih old.rest
  | occupied other below rest ihBelow ihRest =>
      simp only [added, items]
      cases meets : old.meet hit other with
      | none =>
          simp only [added_done, List.cons_append]
          exact ((List.Sublist.refl _).append (ihRest old.rest)).cons_cons other
      | some pair =>
          exact ((ihBelow pair.2).append (ihRest old.rest)).trans (List.sublist_cons_self _ _)

@[simp] theorem pruned_items (old : Ports Old) (new : Ports New) :
    (pruned hit old new).items = kept hit old new := by
  induction new generalizing old with
  | done => rfl
  | vacant rest ih => simpa [pruned, kept, items] using ih old.rest
  | occupied other below rest ihBelow ihRest =>
      cases meets : old.meet hit other with
      | none => simp [pruned, kept, meets, items, ihRest]
      | some pair => simp [pruned, kept, meets, items, ihBelow, ihRest]

/-- The merged forest consists of the retained old items and the added new ones. -/
theorem merged_items_perm (fresh : New → Old) (old : Ports Old) (new : Ports New) :
    (merged hit fresh old new).items.Perm
      (kept hit old new ++ (added hit old new).map fresh) := by
  classical
  rw [List.perm_iff_count]
  intro probe
  induction new generalizing old with
  | done => rfl
  | vacant rest ih => simpa [merged, kept, added, items] using ih old.rest
  | occupied other below rest ihBelow ihRest =>
      have later := ihRest old.rest
      cases meets : old.meet hit other with
      | none =>
          have inner := ihBelow (.done : Ports Old)
          simp only [merged, kept, added, meets, items, List.count_append, List.count_cons,
            List.map_append, List.map_cons, kept_done, List.nil_append] at inner later ⊢
          omega
      | some pair =>
          have inner := ihBelow pair.2
          simp only [merged, kept, added, meets, items, List.count_append, List.count_cons,
            List.map_append, List.cons_append] at inner later ⊢
          omega

theorem merged_item_at (fresh : New → Old) (path : List Nat) (old : Ports Old) (new : Ports New) :
    Option.Rel (fun item other => hit item other = true ∨ item = fresh other)
      ((merged hit fresh old new).itemAt path) (new.itemAt path) := by
  induction new generalizing old path with
  | done =>
      cases path <;> simp [merged, itemAt, slot]
  | vacant rest ih =>
      rcases path_cases path with rfl | ⟨tail, rfl⟩ | ⟨index, tail, rfl⟩
      · simp [item_at_nil]
      · simp [merged, itemAt, slot]
      · simpa only [merged, item_at_succ, rest_vacant] using ih (index :: tail) old.rest
  | occupied other below rest ihBelow ihRest =>
      rcases path_cases path with rfl | ⟨tail, rfl⟩ | ⟨index, tail, rfl⟩
      · simp [item_at_nil]
      · cases meets : old.meet hit other with
        | none =>
            simp only [merged, meets, item_at_zero]
            split_ifs
            · exact Option.Rel.some (Or.inr rfl)
            · exact ihBelow tail .done
        | some pair =>
            simp only [merged, meets, item_at_zero]
            split_ifs
            · exact Option.Rel.some (Or.inl ((meet_eq_some hit).mp meets).2)
            · exact ihBelow tail pair.2
      · have later := ihRest (index :: tail) old.rest
        cases meets : old.meet hit other with
        | none => simpa only [merged, meets, item_at_succ, rest_occupied] using later
        | some pair => simpa only [merged, meets, item_at_succ, rest_occupied] using later

theorem merged_hit_at (hit : Item → Item → Bool) (self : ∀ item, hit item item = true)
    (path : List Nat) (old new : Ports Item) :
    Option.Rel (fun item other => hit item other = true)
      ((merged hit id old new).itemAt path) (new.itemAt path) := by
  have shape := merged_item_at hit id path old new
  generalize (merged hit id old new).itemAt path = here at shape ⊢
  generalize new.itemAt path = there at shape ⊢
  cases shape with
  | none => exact Option.Rel.none
  | some accepted =>
      apply Option.Rel.some
      rcases accepted with accepted | same
      · exact accepted
      · rw [same]
        exact self _

/-- A retained item keeps its place in the merged forest. -/
theorem merged_keeps (fresh : New → Old) (path : List Nat) (old : Ports Old) (new : Ports New)
    (met : MetAt hit path old new) :
    (merged hit fresh old new).itemAt path = old.itemAt path := by
  induction new generalizing old path with
  | done =>
      match path with
      | [] => simp [item_at_nil]
      | index :: tail => simp [MetAt, slot] at met
  | vacant rest ih =>
      rcases path_cases path with rfl | ⟨tail, rfl⟩ | ⟨index, tail, rfl⟩
      · simp [item_at_nil]
      · simp [MetAt, slot] at met
      · rw [met_at_succ] at met
        simpa only [merged, item_at_succ, rest_vacant] using ih (index :: tail) old.rest met
  | occupied other below rest ihBelow ihRest =>
      rcases path_cases path with rfl | ⟨tail, rfl⟩ | ⟨index, tail, rfl⟩
      · simp [item_at_nil]
      · rw [met_at_zero] at met
        obtain ⟨found, under, meets, met⟩ := met
        have present := ((meet_eq_some hit).mp meets).1
        rw [item_at_of_slot present]
        simp only [merged, meets, item_at_zero]
        split_ifs
        · rfl
        · exact ihBelow tail under met
      · rw [met_at_succ] at met
        have later := ihRest (index :: tail) old.rest met
        cases meets : old.meet hit other with
        | none => simpa only [merged, meets, item_at_succ, rest_occupied] using later
        | some pair => simpa only [merged, meets, item_at_succ, rest_occupied] using later

theorem merged_adds (fresh : New → Old) (path : List Nat) (old : Ports Old) (new : Ports New)
    (unmet : ¬ MetAt hit path old new) :
    (merged hit fresh old new).itemAt path = (new.itemAt path).map fresh := by
  induction new generalizing old path with
  | done =>
      match path with
      | [] => exact absurd trivial unmet
      | index :: tail => simp [merged, itemAt, slot]
  | vacant rest ih =>
      rcases path_cases path with rfl | ⟨tail, rfl⟩ | ⟨index, tail, rfl⟩
      · exact absurd trivial unmet
      · simp [merged, itemAt, slot]
      · rw [met_at_succ] at unmet
        simpa only [merged, item_at_succ, rest_vacant] using ih (index :: tail) old.rest unmet
  | occupied other below rest ihBelow ihRest =>
      rcases path_cases path with rfl | ⟨tail, rfl⟩ | ⟨index, tail, rfl⟩
      · exact absurd trivial unmet
      · cases meets : old.meet hit other with
        | none =>
            simp only [merged, meets, item_at_zero]
            split_ifs with last
            · rfl
            · apply ihBelow tail .done
              intro met
              cases tail with
              | nil => exact last rfl
              | cons index lower => simp [MetAt, slot] at met
        | some pair =>
            rw [met_at_zero] at unmet
            simp only [merged, meets, item_at_zero]
            split_ifs with last
            · exact absurd ⟨pair.1, pair.2, meets, last ▸ trivial⟩ unmet
            · exact ihBelow tail pair.2 fun met => unmet ⟨pair.1, pair.2, meets, met⟩
      · rw [met_at_succ] at unmet
        have later := ihRest (index :: tail) old.rest unmet
        cases meets : old.meet hit other with
        | none => simpa only [merged, meets, item_at_succ, rest_occupied] using later
        | some pair => simpa only [merged, meets, item_at_succ, rest_occupied] using later

@[simp] theorem merged_depth (fresh : New → Old) (old : Ports Old) (new : Ports New) :
    (merged hit fresh old new).depth = new.depth := by
  induction new generalizing old with
  | done => rfl
  | vacant rest ih => simpa [merged, depth] using ih old.rest
  | occupied other below rest ihBelow ihRest =>
      cases meets : old.meet hit other with
      | none => simp [merged, meets, depth, ihBelow, ihRest]
      | some pair => simp [merged, meets, depth, ihBelow, ihRest]

end Ports

end JavaxUsbLinux.PortForest
