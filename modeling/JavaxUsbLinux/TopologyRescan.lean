import JavaxUsbLinux.TopologyUpdate

/-!
# Scanning an unchanged bus again

When the scan matches the tree port for port, every removal of the walk takes
some member of a class of equal devices out of the disconnected list. Each
class loses as many members as it has, so which ones are taken does not matter.
-/

namespace JavaxUsbLinux.TopologyRescan

open JavaxUsbLinux.EqualRemoval
open JavaxUsbLinux.PortForest
open JavaxUsbLinux.DeviceHeap
open JavaxUsbLinux.TopologyWalk
open JavaxUsbLinux.TopologyDiff
open JavaxUsbLinux.TopologyUpdate

set_option autoImplicit false

variable {Content : Type*}

/-- On every port the scan has an equal of the device in the tree, or both have none. -/
def Matches (devices : Devices Content) (old scan : Ports Ref) : Prop :=
  ∀ path, Option.Rel (fun device scanned => devices.same device scanned = true)
    (old.itemAt path) (scan.itemAt path)

namespace Matches

variable {devices : Devices Content} {old scan : Ports Ref}

theorem met (same : Matches devices old scan) {path : List Nat} {scanned : Ref}
    (present : scan.itemAt path = some scanned) : Ports.MetAt devices.same path old scan :=
  Ports.met_at_of_matched devices.same old scan same path present

theorem retained (same : Matches devices old scan) {device : Ref} (member : device ∈ old.items) :
    Ports.Retained devices.same old scan device := by
  obtain ⟨path, found⟩ := (Ports.mem_items_iff old device).mp member
  have faced := same path
  rw [found] at faced
  generalize present : scan.itemAt path = scanned at faced
  cases faced with
  | some equal => exact ⟨path, found, same.met present⟩

theorem none_added (same : Matches devices old scan) :
    Ports.added devices.same old scan = [] := by
  apply List.eq_nil_iff_forall_not_mem.mpr
  intro device member
  obtain ⟨path, found, unmet⟩ := (Ports.unmet_iff_mem_added devices.same old scan device).mpr member
  exact unmet (same.met found)

theorem lists_exact (same : Matches devices old scan) (fuel : Nat) (heap : Heap) (root : Ref)
    (tree : DeviceTree devices heap root old) (deep : old.depth < fuel) :
    ListsExact devices fuel heap root old scan := by
  intro listed listing
  obtain ⟨below, listedBelow, perm⟩ :=
    list_old_devices_spec devices fuel heap root old tree deep
  obtain rfl : below = listed := Option.some.inj (listedBelow.symm.trans listing)
  apply List.Pairwise.imp_of_mem _
    (List.pairwise_of_forall (R := fun _ _ => True) fun _ _ => trivial)
  intro earlier later earlierIn _ _ _ _
  exact same.retained (perm.mem_iff.mp earlierIn)

end Matches

/-- Scanning an unchanged bus again is a no-op, however many devices are equal
to each other: both lists end up empty, no event is fired, and every port keeps
its object. -/
theorem rescan_changes_nothing (devices : Devices Content) (fuel : Nat) (heap : Heap) (root : Ref)
    (old : Ports Ref) (scan : Scan devices) (tree : DeviceTree devices heap root old)
    (fresh : Fresh scan root old) (deep : old.depth < fuel)
    (unchanged : ∀ path, Option.Rel (fun device scanned => devices.same device scanned = true)
      (heap.deviceAt path root) (scan.ports.itemAt path)) :
    ∃ walked updated,
      walkTopology devices fuel heap root scan.ports = some walked ∧
      walked.connected = [] ∧ walked.disconnected = [] ∧
      updateTopology devices fuel heap root (some scan.ports) = some updated ∧
      updated.usbDeviceDetached = none ∧ updated.usbDeviceAttached = none ∧
      ∀ path, updated.heap.deviceAt path root = heap.deviceAt path root := by
  have same : Matches devices old scan.ports := by
    intro path
    rw [← device_at_of_holds devices tree.holds path]
    exact unchanged path
  obtain ⟨walked, detached, updated, run⟩ :=
    update_topology_exact devices fuel heap root old scan tree fresh deep
      (same.lists_exact fuel heap root tree deep)
  have noneNew : walked.connected = [] := by
    rw [run.connected]
    exact same.none_added
  have noneGone : walked.disconnected = [] := by
    apply List.eq_nil_iff_forall_not_mem.mpr
    intro device member
    obtain ⟨inOld, notKept⟩ := (run.disconnected device).mp member
    exact notKept ((Ports.retained_iff_mem_kept devices.same old scan.ports device).mp
      (same.retained inOld))
  obtain ⟨_, detachedEvent, attachedEvent⟩ := run.reports
  rw [if_pos noneGone] at detachedEvent
  rw [if_pos noneNew] at attachedEvent
  refine ⟨walked, updated, run.walk, noneNew, noneGone, run.update, detachedEvent, attachedEvent,
    ?_⟩
  intro path
  rw [device_at_of_holds devices run.tree.holds path, device_at_of_holds devices tree.holds path]
  have faced := same path
  cases present : scan.ports.itemAt path with
  | some scanned => exact Ports.merged_keeps devices.same id path old scan.ports (same.met present)
  | none =>
      have merged := Ports.merged_item_at devices.same id path old scan.ports
      rw [present] at merged faced
      generalize (Ports.merged devices.same id old scan.ports).itemAt path = after at merged ⊢
      generalize old.itemAt path = before at faced ⊢
      cases merged
      cases faced
      rfl

def bothMice : Scan equalMice where
  ports := .occupied 4 (.occupied 5 .done (.occupied 6 .done .done)) .done
  reported := by
    refine ⟨by decide, fun plain => ?_, ⟨by decide, fun _ => rfl, trivial, by decide,
      fun _ => rfl, trivial, trivial⟩, trivial⟩
    simp [Devices.isUsbHub, equalMice, exampleDevices, exampleJar] at plain
  narrow := by decide
  distinct := by decide

theorem both_mice_fresh : Fresh bothMice 0 twoMice := by
  intro device member
  have scanned : device = 4 ∨ device = 5 ∨ device = 6 := by
    simpa [bothMice, Ports.items] using member
  rcases scanned with rfl | rfl | rfl <;> decide

theorem both_mice_unchanged (path : List Nat) :
    Option.Rel (fun device scanned => equalMice.same device scanned = true)
      (twoMiceHeap.deviceAt path 0) (bothMice.ports.itemAt path) := by
  rw [device_at_of_holds equalMice (two_mice_tree _).holds path]
  have merged := Ports.merged_hit_at equalMice.same equalMice.same_law.refl path twoMice
    bothMice.ports
  have shape : Ports.merged equalMice.same id twoMice bothMice.ports = twoMice := by decide
  rwa [shape] at merged

theorem rescan_changes_nothing_two_mice :
    ∃ walked updated,
      walkTopology equalMice 3 twoMiceHeap 0 bothMice.ports = some walked ∧
      walked.connected = [] ∧ walked.disconnected = [] ∧
      updateTopology equalMice 3 twoMiceHeap 0 (some bothMice.ports) = some updated ∧
      updated.usbDeviceDetached = none ∧ updated.usbDeviceAttached = none ∧
      ∀ path, updated.heap.deviceAt path 0 = twoMiceHeap.deviceAt path 0 :=
  rescan_changes_nothing equalMice 3 twoMiceHeap 0 twoMice bothMice (two_mice_tree _)
    both_mice_fresh (by decide) both_mice_unchanged

end JavaxUsbLinux.TopologyRescan
