import JavaxUsbLinux.TopologyWalk

/-!
# The connected and the disconnected list

`updateTopology` lists all old devices as disconnected, lets the bus walk take
the ones that are still plugged in out of this list, and collects the new
devices. `List.remove` works by `equals`, so among equal old devices it may
take out another one than the device that was met. The theorem says for which
old trees this cannot happen.
-/

namespace JavaxUsbLinux.TopologyDiff

open JavaxUsbLinux.EqualRemoval
open JavaxUsbLinux.PortForest
open JavaxUsbLinux.DeviceHeap
open JavaxUsbLinux.TopologyWalk

set_option autoImplicit false

variable {Content : Type*}

def listOldDevices (devices : Devices Content) (fuel : Nat) (heap : Heap) (root : Ref) :
    Option (List Ref) := do
  let listed ← fillDeviceList devices heap fuel root []
  return removeEqual devices.same listed root

/-- The walk of `nativeTopologyUpdater` over a scan, from the lists of `updateTopology`. -/
def walkTopology (devices : Devices Content) (fuel : Nat) (heap : Heap) (root : Ref)
    (scan : Ports Ref) : Option WalkState := do
  let disconnected ← listOldDevices devices fuel heap root
  visitPorts devices root 0 scan ⟨heap, [], disconnected⟩

/-- Each list names its devices, by identity and exactly once each. -/
structure DiffExact (devices : Devices Content) (old scan : Ports Ref)
    (connected disconnected : List Ref) : Prop where
  disconnected_once : disconnected.Nodup
  disconnected_exact : ∀ device, device ∈ disconnected ↔
    device ∈ old.items ∧ ¬ Ports.Retained devices.same old scan device
  connected_once : connected.Nodup
  connected_exact : ∀ device, device ∈ connected ↔ Ports.Unmet devices.same old scan device

theorem list_old_devices_spec (devices : Devices Content) (fuel : Nat) (heap : Heap) (root : Ref)
    (old : Ports Ref) (tree : DeviceTree devices heap root old) (deep : old.depth < fuel) :
    ∃ below, listOldDevices devices fuel heap root = some below ∧ below.Perm old.items := by
  obtain ⟨below, filled, perm⟩ := fill_device_list_spec devices heap fuel root old []
    tree.holds (fun leaf => by simp [tree.hub] at leaf) deep
  refine ⟨below, ?_, perm⟩
  have first : devices.same root root = true := devices.same_law.refl root
  simp [listOldDevices, filled, removeEqual, first]

/-- After the walk the lists are those of the port-by-port comparison, with
the retained devices removed by equality. -/
theorem walk_topology_spec (devices : Devices Content) (fuel : Nat) (heap : Heap) (root : Ref)
    (old : Ports Ref) (scan : Scan devices) (tree : DeviceTree devices heap root old)
    (fresh : Fresh scan root old) (deep : old.depth < fuel) :
    ∃ below after, listOldDevices devices fuel heap root = some below ∧
      below.Perm old.items ∧
      walkTopology devices fuel heap root scan.ports =
        some ⟨after, Ports.added devices.same old scan.ports,
          removeEach devices.same below (Ports.kept devices.same old scan.ports)⟩ ∧
      Walked heap after scan.ports.items (placements devices.same root 0 old scan.ports) := by
  obtain ⟨below, listed, perm⟩ := list_old_devices_spec devices fuel heap root old tree deep
  have apart : ∀ device ∈ scan.ports.items, device ≠ root ∧ device ∉ old.items := by
    intro device member
    simpa using fresh device member
  obtain ⟨after, visited, walked⟩ := visit_ports_spec devices scan.ports root 0 old
    ⟨heap, [], below⟩ tree.holds scan.reported (by simpa using scan.narrow) scan.distinct apart
  refine ⟨below, after, listed, perm, ?_, walked⟩
  simpa [walkTopology, listed] using visited

/-- The diff is exact if and only if, in the order in which the old devices
are listed, no device that goes away stands before an equal one that stays. -/
theorem topology_diff_exact_iff (devices : Devices Content) (fuel : Nat) (heap : Heap)
    (root : Ref) (old : Ports Ref) (scan : Scan devices)
    (tree : DeviceTree devices heap root old) (fresh : Fresh scan root old)
    (deep : old.depth < fuel) :
    ∃ listed after, listOldDevices devices fuel heap root = some listed ∧
      walkTopology devices fuel heap root scan.ports = some after ∧
      (DiffExact devices old scan.ports after.connected after.disconnected ↔
        NoEarlierTwin devices.same (Ports.Retained devices.same old scan.ports) listed) := by
  obtain ⟨listed, after, listing, perm, walked, _⟩ :=
    walk_topology_spec devices fuel heap root old scan tree fresh deep
  refine ⟨listed, _, listing, walked, ?_⟩
  have oldOnce : old.items.Nodup := (List.nodup_cons.mp tree.nodup).2
  have once : listed.Nodup := perm.nodup_iff.mpr oldOnce
  have kept := Ports.kept_sublist devices.same old scan.ports
  have exact_iff := remove_each_exact_iff devices.same devices.same_law listed
    (Ports.kept devices.same old scan.ports) once (kept.nodup oldOnce)
    fun device member => perm.mem_iff.mpr (kept.subset member)
  simp only [perm.mem_iff, ← Ports.retained_iff_mem_kept] at exact_iff
  constructor
  · intro diff
    exact exact_iff.mp diff.disconnected_exact
  · intro noTwin
    refine ⟨(remove_each_sublist devices.same _ _).nodup once, exact_iff.mpr noTwin, ?_, ?_⟩
    · exact (Ports.added_sublist devices.same old scan.ports).nodup scan.distinct
    · intro device
      rw [Ports.unmet_iff_mem_added]

/-! ### Two equal mice -/

def exampleJar : CommonJar (Bool × Nat) where
  equals left right := decide (left = right)
  isUsbHub content := content.1
  portOrder := List.range
  equals_law := by
    constructor
    · intro content
      exact decide_eq_true rfl
    · intro left right equal
      exact decide_eq_true (of_decide_eq_true equal).symm
    · intro first second third left right
      exact decide_eq_true ((of_decide_eq_true left).trans (of_decide_eq_true right))
  hub_of_equals left right equal := by rw [of_decide_eq_true equal]
  port_order_perm ports := List.Perm.refl _

def exampleDevices (product : Ref → Nat) : Devices (Bool × Nat) where
  jar := exampleJar
  content device :=
    if device = 0 ∨ device = 1 ∨ device = 4 then (true, 1) else (false, product device)
  key _ := ""

def equalMice : Devices (Bool × Nat) :=
  exampleDevices fun _ => 7

/-- The root hub 0 carries the hub 1 with the mice 2 and 3. -/
def twoMice : Ports Ref :=
  .occupied 1 (.occupied 2 .done (.occupied 3 .done .done)) .done

def twoMiceHeap : Heap where
  numberOfPorts device := if device = 0 then 1 else if device = 1 then 2 else 0
  attached port :=
    if port = ⟨0, 1⟩ then some 1
    else if port = ⟨1, 1⟩ then some 2
    else if port = ⟨1, 2⟩ then some 3
    else none
  usbPortImp device :=
    if device = 1 then some ⟨0, 1⟩
    else if device = 2 then some ⟨1, 1⟩
    else if device = 3 then some ⟨1, 2⟩
    else none

/-- In the next scan the hub has a mouse on its second port only. -/
def firstMousePulled (product : Ref → Nat) : Scan (exampleDevices product) where
  ports := .occupied 4 (.vacant (.occupied 5 .done .done)) .done
  reported := by
    refine ⟨by decide, fun plain => ?_, ⟨by decide, fun _ => rfl, trivial, trivial⟩, trivial⟩
    simp [Devices.isUsbHub, exampleDevices, exampleJar] at plain
  narrow := by decide
  distinct := by decide

theorem two_mice_tree (product : Ref → Nat) :
    DeviceTree (exampleDevices product) twoMiceHeap 0 twoMice where
  hub := rfl
  holds := by
    have plain : ∀ hub number : Nat, 2 < number ∨ (hub = 0 ∧ 1 < number) ∨ 1 < hub →
        twoMiceHeap.attached ⟨hub, number⟩ = none := by
      intro hub number beyond
      simp only [twoMiceHeap, UsbPortImp.mk.injEq]
      grind
    refine ⟨⟨rfl, rfl, by decide, fun plain => ?_⟩, ⟨⟨rfl, rfl, by decide, fun _ => rfl⟩, ?_,
      ⟨rfl, rfl, by decide, fun _ => rfl⟩, ?_, ?_⟩, ?_⟩
    · simp [Devices.isUsbHub, exampleDevices, exampleJar] at plain
    · exact fun number _ => plain 2 number (by omega)
    · exact fun number _ => plain 3 number (by omega)
    · exact fun number beyond => plain 1 number (by omega)
    · exact fun number beyond => plain 0 number (by omega)
  nodup := by decide

def onlySecondMouse : Scan equalMice :=
  firstMousePulled fun _ => 7

theorem first_mouse_fresh (product : Ref → Nat) : Fresh (firstMousePulled product) 0 twoMice := by
  intro device member
  have scanned : device = 4 ∨ device = 5 := by
    simpa [firstMousePulled, Ports.items] using member
  rcases scanned with rfl | rfl <;> decide

/-- The mouse that was pulled out is taken for the one that stays: the
disconnected list names the device 3, which is still plugged in. -/
theorem topology_diff_two_mice :
    DeviceTree equalMice twoMiceHeap 0 twoMice ∧
      Fresh onlySecondMouse 0 twoMice ∧
      (walkTopology equalMice 3 twoMiceHeap 0 onlySecondMouse.ports).map
        (fun after => (after.connected, after.disconnected)) = some ([], [3]) ∧
      Ports.Retained equalMice.same twoMice onlySecondMouse.ports 3 ∧
      ¬ DiffExact equalMice twoMice onlySecondMouse.ports [] [3] := by
  have stays : Ports.Retained equalMice.same twoMice onlySecondMouse.ports 3 := by
    rw [Ports.retained_iff_mem_kept]
    decide
  refine ⟨two_mice_tree _, first_mouse_fresh _, by decide, stays, ?_⟩
  intro diff
  exact ((diff.disconnected_exact 3).mp (List.mem_singleton.mpr rfl)).2 stays

theorem topology_diff_exact_iff_two_mice :
    ∃ listed after, listOldDevices equalMice 3 twoMiceHeap 0 = some listed ∧
      walkTopology equalMice 3 twoMiceHeap 0 onlySecondMouse.ports = some after ∧
      (DiffExact equalMice twoMice onlySecondMouse.ports after.connected
          after.disconnected ↔
        NoEarlierTwin equalMice.same
          (Ports.Retained equalMice.same twoMice onlySecondMouse.ports) listed) :=
  topology_diff_exact_iff equalMice 3 twoMiceHeap 0 twoMice onlySecondMouse
    (two_mice_tree _) (first_mouse_fresh _) (by decide)

end JavaxUsbLinux.TopologyDiff
