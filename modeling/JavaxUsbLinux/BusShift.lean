import Mathlib.Data.List.Forall2
import Mathlib.Data.String.Basic
import JavaxUsbLinux.BusDirectories
import JavaxUsbLinux.TopologyRescan

/-!
# The root ports of the buses

A bus occupies the port of the root hub whose number is the index of its
directory in the sorted listing. When a directory appears or disappears, every
bus whose directory sorts after it moves to another port, and the comparison
port for port takes its devices for new ones.
-/

namespace JavaxUsbLinux.BusShift

open JavaxUsbLinux.PortForest
open JavaxUsbLinux.DeviceHeap
open JavaxUsbLinux.TopologyWalk
open JavaxUsbLinux.TopologyDiff
open JavaxUsbLinux.TopologyUpdate
open JavaxUsbLinux.TopologyRescan
open JavaxUsbLinux.BusDirectories hiding updateTopology nativeTopologyUpdater

set_option autoImplicit false

variable {Content : Type*}

/-- The same directory with equal devices on the same ports, as two scans see it. -/
structure Unchanged (devices : Devices Content) (before now : Bus) : Prop where
  dName : before.dName = now.dName
  found : Option.Rel (fun left right => devices.same left.1 right.1 = true ∧
    Matches devices left.2 right.2) before.found now.found

def listing (before : List Bus) (changed : Option Bus) (after : List Bus) : List Bus :=
  before ++ (changed.toList ++ after)

def devicesOf (buses : List Bus) : List Ref :=
  (busPorts buses).items

theorem devices_of_append (first second : List Bus) :
    devicesOf (first ++ second) = devicesOf first ++ devicesOf second := by
  induction first with
  | nil => rfl
  | cons bus buses ih =>
      unfold devicesOf at ih ⊢
      cases found : bus.found with
      | none => simpa [busPorts, found, Ports.items] using ih
      | some pair => simp [busPorts, found, Ports.items, ih]

theorem devices_of_vacant {buses : List Bus} (vacant : ∀ bus ∈ buses, bus.found = none) :
    devicesOf buses = [] := by
  induction buses with
  | nil => rfl
  | cons bus buses ih =>
      have later := ih fun other member => vacant other (List.mem_cons_of_mem bus member)
      unfold devicesOf at later ⊢
      simpa [busPorts, vacant bus List.mem_cons_self, Ports.items] using later

section Unchanged

variable {devices : Devices Content} {before now : List Bus}

theorem Unchanged.meets {left right : Bus} (same : Unchanged devices left right)
    (oldRest : List Bus) :
    (left.found = none ∧ right.found = none) ∨
      ∃ device below scanned lower,
        left.found = some (device, below) ∧ right.found = some (scanned, lower) ∧
          Matches devices below lower ∧
          (busPorts (left :: oldRest)).meet devices.same scanned = some (device, below) := by
  have faced := same.found
  cases before : left.found with
  | none =>
      cases now : right.found with
      | none => exact Or.inl ⟨rfl, rfl⟩
      | some pair =>
          rw [before, now] at faced
          nomatch faced
  | some pair =>
      cases now : right.found with
      | none =>
          rw [before, now] at faced
          nomatch faced
      | some other =>
          rw [before, now] at faced
          cases faced with
          | some agrees =>
              refine Or.inr ⟨pair.1, pair.2, other.1, other.2, rfl, rfl, agrees.2, ?_⟩
              rw [Ports.meet_eq_some]
              exact ⟨by simp [busPorts, before, Ports.slot], agrees.1⟩

/-- The devices on unchanged buses at the front are retained. -/
theorem front_kept (unchanged : List.Forall₂ (Unchanged devices) before now)
    (oldRest newRest : List Bus) {device : Ref} (member : device ∈ devicesOf before) :
    device ∈ Ports.kept devices.same (busPorts (before ++ oldRest))
      (busPorts (now ++ newRest)) := by
  induction unchanged with
  | nil => exact absurd member List.not_mem_nil
  | @cons left right lefts rights same rest ih =>
      unfold devicesOf at member
      rcases same.meets (lefts ++ oldRest) with ⟨gone, none⟩ |
        ⟨found, below, scanned, lower, present, faced, matched, meets⟩
      · simp only [busPorts, gone, Ports.items] at member
        simpa [busPorts, gone, none, Ports.kept] using ih member
      · simp only [busPorts, present, Ports.items, List.mem_cons, List.mem_append] at member
        simp only [List.cons_append, busPorts, present, faced, Ports.kept] at meets ⊢
        rw [meets]
        rcases member with rfl | inBelow | inRest
        · simp
        · have kept := (Ports.retained_iff_mem_kept devices.same below lower device).mp
            (matched.retained inBelow)
          simp [kept]
        · simp [ih inRest]

theorem front_adds_nothing (unchanged : List.Forall₂ (Unchanged devices) before now)
    (oldRest newRest : List Bus) :
    Ports.added devices.same (busPorts (before ++ oldRest)) (busPorts (now ++ newRest)) =
      Ports.added devices.same (busPorts oldRest) (busPorts newRest) := by
  induction unchanged with
  | nil => rfl
  | @cons left right lefts rights same rest ih =>
      rcases same.meets (lefts ++ oldRest) with ⟨gone, none⟩ |
        ⟨found, below, scanned, lower, present, faced, matched, meets⟩
      · simpa [busPorts, gone, none, Ports.added] using ih
      · simp only [List.cons_append, busPorts, present, faced, Ports.added] at meets ⊢
        rw [meets]
        simpa [matched.none_added] using ih

theorem unchanged_vacant (unchanged : List.Forall₂ (Unchanged devices) before now)
    (vacant : ∀ bus ∈ before, bus.found = none) : ∀ bus ∈ now, bus.found = none := by
  induction unchanged with
  | nil => exact fun bus member => absurd member List.not_mem_nil
  | @cons left right lefts rights same rest ih =>
      intro bus member
      rcases List.mem_cons.mp member with rfl | later
      · rcases same.meets [] with ⟨_, none⟩ | ⟨_, _, _, _, present, _⟩
        · exact none
        · rw [vacant left List.mem_cons_self] at present
          contradiction
      · exact ih (fun other inRest => vacant other (List.mem_cons_of_mem _ inRest)) bus later

end Unchanged

/-- Two equal devices on ports of different numbers do not meet, because the
one that stands at the new port is another one. -/
theorem shifted_unmet (devices : Devices Content) {old new : Ports Ref}
    (different : old.items.Pairwise fun left right => devices.same left right = false)
    {index moved : Nat} {device scanned : Ref} {below lower : Ports Ref}
    (present : old.slot index = some (device, below))
    (faced : new.slot moved = some (scanned, lower))
    (equal : devices.same device scanned = true) (shifted : moved ≠ index) :
    scanned ∈ Ports.added devices.same old new := by
  rw [← Ports.unmet_iff_mem_added]
  refine ⟨[moved], by simp [Ports.itemAt, faced], ?_⟩
  rintro ⟨other, under, _, _, here, there, accepted, _⟩
  rw [faced] at there
  obtain ⟨rfl, rfl⟩ := Prod.ext_iff.mp (Option.some.inj there)
  have alike : devices.same other device = true :=
    devices.same_law.trans accepted (devices.same_law.symm equal)
  rcases Nat.lt_or_gt_of_ne shifted with lower | higher
  · have apart := different.sublist (Ports.slots_sublist here present lower)
    simp [alike] at apart
  · have apart := different.sublist (Ports.slots_sublist present here higher)
    rw [devices.same_comm] at alike
    simp [alike] at apart

/-! ### One bus directory more or less -/

/-- Two listings that differ in one bus directory, which appears in the second
one or disappears from the first one. -/
structure BusChange (devices : Devices Content) where
  before : List Bus
  after : List Bus
  beforeNow : List Bus
  afterNow : List Bus
  changed : Bus
  appears : Bool
  sorted : (before ++ changed :: after).Pairwise fun left right => left.dName < right.dName
  beforeSame : List.Forall₂ (Unchanged devices) before beforeNow
  afterSame : List.Forall₂ (Unchanged devices) after afterNow

namespace BusChange

variable {devices : Devices Content}

def old (change : BusChange devices) : List Bus :=
  listing change.before (if change.appears then none else some change.changed) change.after

def now (change : BusChange devices) : List Bus :=
  listing change.beforeNow (if change.appears then some change.changed else none) change.afterNow

def others (change : BusChange devices) : List Bus :=
  change.before ++ change.after

def othersNow (change : BusChange devices) : List Bus :=
  change.beforeNow ++ change.afterNow

/-- No device on an unchanged bus is listed, and each keeps its object. -/
structure Undisturbed (change : BusChange devices) (root : Ref) (walked : WalkState)
    (updated : Updated) : Prop where
  disconnected : ∀ device ∈ devicesOf change.others, device ∉ walked.disconnected
  connected : ∀ device ∈ devicesOf change.othersNow, device ∉ walked.connected
  objects : ∀ device ∈ devicesOf change.others,
    ∃ path, updated.heap.deviceAt path root = some device

/-- No unchanged bus that sorts after the changed directory has a device. -/
def LastOccupied (change : BusChange devices) : Prop :=
  ∀ bus ∈ change.others, change.changed.dName < bus.dName → bus.found = none

theorem last_occupied_iff (change : BusChange devices) :
    change.LastOccupied ↔ ∀ bus ∈ change.after, bus.found = none := by
  obtain ⟨_, sortedTail, apart⟩ := List.pairwise_append.mp change.sorted
  constructor
  · intro vacant bus member
    exact vacant bus (List.mem_append_right _ member)
      ((List.pairwise_cons.mp sortedTail).1 bus member)
  · intro vacant bus member sorts
    rcases List.mem_append.mp member with early | late
    · exact absurd sorts (lt_asymm (apart bus early _ List.mem_cons_self))
    · exact vacant bus late

/-- The devices that the changed bus adds are its own. -/
theorem added_own (change : BusChange devices)
    (vacant : ∀ bus ∈ change.after, bus.found = none)
    (once : (devicesOf change.now).Nodup) {device : Ref}
    (added : device ∈ Ports.added devices.same (busPorts change.old) (busPorts change.now)) :
    device ∉ devicesOf change.othersNow := by
  have vacantNow := unchanged_vacant change.afterSame vacant
  unfold old now listing at added
  rw [front_adds_nothing change.beforeSame] at added
  have own := (Ports.added_sublist devices.same _ _).subset added
  change device ∈ devicesOf _ at own
  rw [devices_of_append, devices_of_vacant vacantNow, List.append_nil] at own
  unfold now listing at once
  rw [devices_of_append, devices_of_append, devices_of_vacant vacantNow, List.append_nil] at once
  unfold othersNow
  rw [devices_of_append, devices_of_vacant vacantNow, List.append_nil]
  intro other
  exact List.disjoint_of_nodup_append once other own

theorem others_kept (change : BusChange devices)
    (vacant : ∀ bus ∈ change.after, bus.found = none) {device : Ref}
    (member : device ∈ devicesOf change.others) :
    device ∈ Ports.kept devices.same (busPorts change.old) (busPorts change.now) := by
  unfold others at member
  rw [devices_of_append, devices_of_vacant vacant, List.append_nil] at member
  exact front_kept change.beforeSame _ _ member

/-- A device on a later bus has left its port. -/
theorem later_shifted (change : BusChange devices)
    (different : (devicesOf change.old).Pairwise
      fun left right => devices.same left right = false)
    {bus : Bus} (member : bus ∈ change.after) {device : Ref} {below : Ports Ref}
    (found : bus.found = some (device, below)) :
    ∃ scanned ∈ devicesOf change.othersNow,
      scanned ∈ Ports.added devices.same (busPorts change.old) (busPorts change.now) := by
  obtain ⟨index, bound, rfl⟩ := List.mem_iff_getElem.mp member
  have count := change.beforeSame.length_eq
  have laterBound : index < change.afterNow.length := by
    rw [← change.afterSame.length_eq]
    exact bound
  have same := change.afterSame.get bound laterBound
  simp only [List.get_eq_getElem] at same
  rcases same.meets [] with ⟨none, _⟩ | ⟨_, _, scanned, lower, present, faced, _, meets⟩
  · rw [found] at none
    contradiction
  obtain ⟨rfl, rfl⟩ := by simpa using Option.some.inj (found.symm.trans present)
  have equal := ((Ports.meet_eq_some devices.same).mp meets).2
  let missing := (if change.appears then none else some change.changed : Option Bus).toList
  let fresh := (if change.appears then some change.changed else none : Option Bus).toList
  have moved : missing.length ≠ fresh.length := by
    simp only [missing, fresh]
    cases change.appears <;> simp
  have oldSlot : (busPorts change.old).slot
      (change.before.length + (missing.length + index)) = some (device, below) := by
    rw [bus_ports_slot]
    simp [old, listing, missing, found, bound]
  have newSlot : (busPorts change.now).slot
      (change.beforeNow.length + (fresh.length + index)) = some (scanned, lower) := by
    rw [bus_ports_slot]
    simp [now, listing, fresh, faced, laterBound]
  have laterSlot : (busPorts change.afterNow).slot index = some (scanned, lower) := by
    rw [bus_ports_slot, List.getElem?_eq_getElem laterBound, Option.bind_some, faced]
  refine ⟨scanned, ?_, shifted_unmet devices different oldSlot newSlot equal (by omega)⟩
  unfold othersNow
  rw [devices_of_append]
  exact List.mem_append_right _ (Ports.slot_item laterSlot)

end BusChange

/-- The other buses are left alone if and only if none of them sorts after the
changed directory, apart from buses without devices. -/
theorem buses_undisturbed_iff (devices : Devices Content) (fuel : Nat) (heap : Heap) (root : Ref)
    (change : BusChange devices) (tree : DeviceTree devices heap root (busPorts change.old))
    (scan : Scan devices) (scanned : scan.ports = busPorts change.now)
    (fresh : Fresh scan root (busPorts change.old)) (deep : (busPorts change.old).depth < fuel)
    (different : (devicesOf change.old).Pairwise
      fun left right => devices.same left right = false) :
    ∃ walked updated,
      walkTopology devices fuel heap root scan.ports = some walked ∧
      updateTopology devices fuel heap root (some scan.ports) = some updated ∧
      (change.Undisturbed root walked updated ↔ change.LastOccupied) := by
  obtain ⟨walked, detached, updated, run⟩ :=
    update_topology_spec devices fuel heap root (busPorts change.old) scan tree fresh deep different
  refine ⟨walked, updated, run.walk, run.update, ?_⟩
  have once := scan.distinct
  have connected := run.connected
  have disconnected := run.disconnected
  have held := run.tree.holds
  rw [scanned] at once connected disconnected held
  rw [change.last_occupied_iff]
  constructor
  · intro undisturbed bus member
    by_contra present
    obtain ⟨pair, found⟩ := Option.ne_none_iff_exists'.mp present
    obtain ⟨device, onOther, added⟩ := change.later_shifted different member found
    rw [← connected] at added
    exact undisturbed.connected device onOther added
  · intro vacant
    refine ⟨?_, ?_, ?_⟩
    · intro device member gone
      exact ((disconnected device).mp gone).2 (change.others_kept vacant member)
    · intro device member added
      rw [connected] at added
      exact change.added_own vacant once added member
    · intro device member
      have merged := Ports.merged_items_perm devices.same id (busPorts change.old)
        (busPorts change.now)
      have inTree := merged.mem_iff.mpr (List.mem_append_left _ (change.others_kept vacant member))
      obtain ⟨path, present⟩ := (Ports.mem_items_iff _ device).mp inTree
      exact ⟨path, by rw [device_at_of_holds devices held path, present]⟩

def plainBus (dName : String) (host : Ref) : Bus :=
  ⟨dName, true, some [1], fun _ => some (host, .done), true⟩

/-- The bus 001 goes away. The device 3 on the bus 002 is then reported as the new object 5. -/
def firstBusGone : BusChange mouseAndKeyboard where
  before := []
  after := [plainBus "002" 3]
  beforeNow := []
  afterNow := [plainBus "002" 5]
  changed := plainBus "001" 2
  appears := false
  sorted := by decide
  beforeSame := .nil
  afterSame := .cons ⟨rfl, .some ⟨rfl, fun path => by cases path <;> exact .none⟩⟩ .nil

def twoBusHeap : Heap where
  numberOfPorts device := if device = 0 then 2 else 0
  attached port :=
    if port = ⟨0, 1⟩ then some 2 else if port = ⟨0, 2⟩ then some 3 else none
  usbPortImp device :=
    if device = 2 then some ⟨0, 1⟩ else if device = 3 then some ⟨0, 2⟩ else none

theorem two_bus_tree :
    DeviceTree mouseAndKeyboard twoBusHeap 0 (busPorts firstBusGone.old) where
  hub := rfl
  holds := by
    have plain : ∀ hub number : Nat, 2 < number ∨ 0 < hub →
        twoBusHeap.attached ⟨hub, number⟩ = none := by
      intro hub number beyond
      simp only [twoBusHeap, UsbPortImp.mk.injEq]
      grind
    refine ⟨⟨rfl, rfl, by decide, fun _ => rfl⟩, ?_, ⟨rfl, rfl, by decide, fun _ => rfl⟩, ?_, ?_⟩
    · exact fun number _ => plain 2 number (by omega)
    · exact fun number _ => plain 3 number (by omega)
    · exact fun number beyond => plain 0 number (by omega)
  nodup := by decide

def secondBusOnly : Scan mouseAndKeyboard where
  ports := busPorts firstBusGone.now
  reported := ⟨by decide, fun _ => rfl, trivial, trivial⟩
  narrow := by decide
  distinct := by decide

theorem second_bus_disturbed :
    DeviceTree mouseAndKeyboard twoBusHeap 0 (busPorts firstBusGone.old) ∧
      ∃ walked updated,
        walkTopology mouseAndKeyboard 3 twoBusHeap 0 secondBusOnly.ports = some walked ∧
        updateTopology mouseAndKeyboard 3 twoBusHeap 0 (some secondBusOnly.ports) =
          some updated ∧
        walked.connected = [5] ∧ walked.disconnected = [2, 3] ∧
        ¬ firstBusGone.Undisturbed 0 walked updated := by
  have lists : (walkTopology mouseAndKeyboard 3 twoBusHeap 0 secondBusOnly.ports).map
      (fun walked => (walked.connected, walked.disconnected)) = some ([5], [2, 3]) := by decide
  have ends : (updateTopology mouseAndKeyboard 3 twoBusHeap 0
      (some secondBusOnly.ports)).isSome = true := by decide
  obtain ⟨walked, walk, found⟩ := Option.map_eq_some_iff.mp lists
  obtain ⟨connected, disconnected⟩ := Prod.ext_iff.mp found
  obtain ⟨updated, update⟩ := Option.isSome_iff_exists.mp ends
  refine ⟨two_bus_tree, walked, updated, walk, update, connected, disconnected, ?_⟩
  intro undisturbed
  apply undisturbed.disconnected 3 (by decide)
  rw [show walked.disconnected = [2, 3] from disconnected]
  decide

theorem buses_undisturbed_iff_first_bus_gone :
    ∃ walked updated,
      walkTopology mouseAndKeyboard 3 twoBusHeap 0 secondBusOnly.ports = some walked ∧
      updateTopology mouseAndKeyboard 3 twoBusHeap 0 (some secondBusOnly.ports) = some updated ∧
      (firstBusGone.Undisturbed 0 walked updated ↔ firstBusGone.LastOccupied) :=
  buses_undisturbed_iff mouseAndKeyboard 3 twoBusHeap 0 firstBusGone two_bus_tree secondBusOnly
    rfl (by unfold Fresh; decide) (by decide) (by decide)

end JavaxUsbLinux.BusShift
