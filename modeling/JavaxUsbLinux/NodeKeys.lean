import JavaxUsbLinux.Runs
import JavaxUsbLinux.BusDirectories

/-!
# The device nodes behind the device objects

A device object gets the path of its device node as key when it is built. The
walk keeps an old object when it equals the new one on the same port, and the
old object keeps its key. Over a sequence of scans every key names the right
node as long as no retained device has moved to another node meanwhile.
-/

namespace JavaxUsbLinux.NodeKeys

open JavaxUsbLinux.PortForest
open JavaxUsbLinux.DeviceHeap
open JavaxUsbLinux.TopologyWalk
open JavaxUsbLinux.TopologyDiff
open JavaxUsbLinux.TopologyUpdate hiding updateTopology nativeTopologyUpdater
open JavaxUsbLinux.BusDirectories
open JavaxUsbLinux.Runs

set_option autoImplicit false

variable {Content : Type*}

def digit (value : Nat) : Char :=
  Char.ofNat ('0'.toNat + value % 10)

def threeDigits (dev : Nat) : String :=
  String.ofList [digit (dev / 100), digit (dev / 10), digit dev]

/-- The key that `build_device` formats in the directory `path`: `%s/%3.03d`. -/
def nodeKey (path : Directory) (dev : Nat) : String :=
  subdirectory path (threeDigits dev)

/-- A scan in which every directory can be entered and left. The object of each
device is created with the key of the node at the device's address: the lowest one of
the bus for a host controller, the one in the port information of the hub for every
other device. A directory may list no nodes, or a host controller that cannot be built. -/
structure NodeScan (devices : Devices Content) where
  buses : List Bus
  address : Ref → Nat
  opened : ∀ bus ∈ buses, bus.entered = true ∧ bus.returned = true
  host : ∀ bus ∈ buses, ∀ built below, bus.found = some (built, below) →
    ∃ later, bus.devlist = some (address built :: later)
  created : ∀ bus ∈ buses, ∀ built below, bus.found = some (built, below) →
    ∀ device ∈ built :: below.items,
      devices.key device = nodeKey (bus.inside usbdevfsPath) (address device)
  reported : Reported devices (busPorts buses)
  narrow : (busPorts buses).width ≤ 127
  distinct : (busPorts buses).items.Nodup

namespace NodeScan

variable {devices : Devices Content}

def ports (scan : NodeScan devices) : Ports Ref :=
  busPorts scan.buses

def calls (scan : NodeScan devices) : SystemCalls :=
  ⟨true, some scan.buses, true⟩

def toScan (scan : NodeScan devices) : Scan devices :=
  ⟨scan.ports, scan.reported, scan.narrow, scan.distinct⟩

def nodeAt (scan : NodeScan devices) : List Nat → Option String
  | [] => none
  | port :: path => do
      let bus ← scan.buses[port]?
      let device ← scan.ports.itemAt (port :: path)
      return nodeKey (subdirectory usbdevfsPath bus.dName) (scan.address device)

def unseen : NodeScan devices where
  buses := []
  address _ := 0
  opened _ member := absurd member List.not_mem_nil
  host _ member := absurd member List.not_mem_nil
  created _ member := absurd member List.not_mem_nil
  reported := trivial
  narrow := Nat.zero_le _
  distinct := List.nodup_nil

end NodeScan

theorem NodeScan.key_at {devices : Devices Content} (scan : NodeScan devices) (path : List Nat) :
    (scan.ports.itemAt path).map devices.key = scan.nodeAt path := by
  cases path with
  | nil => simp [Ports.item_at_nil, NodeScan.nodeAt]
  | cons port path =>
      have slot := bus_ports_slot scan.buses port
      cases listed : scan.buses[port]? with
      | none =>
          rw [listed] at slot
          simp [NodeScan.nodeAt, listed, NodeScan.ports, Ports.itemAt, slot]
      | some bus =>
          rw [listed, Option.bind_some] at slot
          have member := List.mem_of_getElem? listed
          cases present : scan.ports.itemAt (port :: path) with
          | none => simp [NodeScan.nodeAt, listed, present]
          | some device =>
              simp only [NodeScan.nodeAt, listed, present, Option.map_some, Option.bind_eq_bind,
                Option.bind_some, Option.pure_def, Option.some.injEq]
              simp only [NodeScan.ports, Ports.itemAt, slot] at present
              cases found : bus.found with
              | none => simp [found] at present
              | some pair =>
                  simp only [found] at present
                  have inside : device ∈ pair.1 :: pair.2.items := by
                    split_ifs at present with last
                    · simp [Option.some.inj present]
                    · exact List.mem_cons_of_mem _
                        ((Ports.mem_items_iff pair.2 device).mpr ⟨path, present⟩)
                  rw [scan.created bus member pair.1 pair.2 found device inside]
                  simp [Bus.inside, chdir, (scan.opened bus member).1]

/-! ### Sequences of scans -/

structure Scanned (devices : Devices Content) where
  heap : Heap
  cwd : Directory
  latest : NodeScan devices
  objects : List Ref

def emptyRootHub (devices : Devices Content) (root : Ref) (heap : Heap) (cwd : Directory) :
    Scanned devices :=
  ⟨heap, cwd, .unseen, [root]⟩

/-- An update with a scan whose objects are new. The tree is as deep as the latest scan. -/
def rescan (devices : Devices Content) (root : Ref) (state : Scanned devices)
    (scan : NodeScan devices) : Option (Scanned devices) :=
  if ∀ device ∈ scan.ports.items, device ∉ state.objects then
    (updateTopology devices (state.latest.ports.depth + 1) state.heap root scan.calls
      state.cwd).map fun ended =>
        ⟨ended.1.heap, ended.2, scan, state.objects ++ scan.ports.items⟩
  else none

/-- The lists of the walk are exact, and a device that equals the one on its
port in the scan before is found at the same node as this one. -/
structure StaysAtNode (devices : Devices Content) (root : Ref) (state : Scanned devices)
    (scan : NodeScan devices) : Prop where
  lists : ∀ old, DeviceTree devices state.heap root old →
    ListsExact devices (state.latest.ports.depth + 1) state.heap root old scan.ports
  nodes : ∀ path, Ports.MetAt devices.same path state.latest.ports scan.ports →
    scan.nodeAt path = state.latest.nodeAt path

/-- The tree has the shape of the latest scan, and its keys name the nodes of this scan. -/
structure AtNodes (devices : Devices Content) (root : Ref) (state : Scanned devices)
    (tree : Ports Ref) : Prop where
  held : DeviceTree devices state.heap root tree
  known : ∀ device ∈ root :: tree.items, device ∈ state.objects
  depth : tree.depth = state.latest.ports.depth
  matched : ∀ path, Option.Rel (fun device scanned => devices.same device scanned = true)
    (tree.itemAt path) (state.latest.ports.itemAt path)
  keys : ∀ path, (tree.itemAt path).map devices.key = state.latest.nodeAt path

/-- One update keeps the keys at their nodes. -/
theorem rescan_at_nodes (devices : Devices Content) (root : Ref) {before after : Scanned devices}
    {scan : NodeScan devices} {old : Ports Ref} (at_nodes : AtNodes devices root before old)
    (stays : StaysAtNode devices root before scan)
    (taken : rescan devices root before scan = some after) :
    AtNodes devices root after (Ports.merged devices.same id old scan.ports) := by
  simp only [rescan, Option.ite_none_right_eq_some] at taken
  obtain ⟨new, taken⟩ := taken
  have fresh : Fresh scan.toScan root old :=
    fun device member inOld => new device member (at_nodes.known device inOld)
  have deep : old.depth < before.latest.ports.depth + 1 := by
    rw [at_nodes.depth]
    exact Nat.lt_succ_self _
  obtain ⟨walked, detached, updated, run⟩ :=
    update_topology_exact devices _ before.heap root old scan.toScan at_nodes.held fresh deep
      (stays.lists old at_nodes.held)
  have scanned : scan.calls.scan = some scan.ports := rfl
  rw [update_topology_walks, scanned] at taken
  rw [show TopologyUpdate.updateTopology devices (before.latest.ports.depth + 1) before.heap root
    (some scan.ports) = some updated from run.update] at taken
  obtain rfl := Option.some.inj taken
  refine ⟨run.tree, ?_, Ports.merged_depth devices.same id old scan.ports, ?_, ?_⟩
  · intro device member
    rcases List.mem_cons.mp member with rfl | inMerged
    · exact List.mem_append_left _ (at_nodes.known _ List.mem_cons_self)
    · rcases merged_items devices.same old scan.ports device inMerged with inOld | inScan
      · exact List.mem_append_left _ (at_nodes.known device (List.mem_cons_of_mem root inOld))
      · exact List.mem_append_right _ inScan
  · intro path
    exact Ports.merged_hit_at devices.same devices.same_law.refl path old scan.ports
  · intro path
    by_cases met : Ports.MetAt devices.same path old scan.ports
    · have metBefore := Ports.met_at_of_alike devices.same
        (fun item twin other equal alike =>
          devices.same_law.trans (devices.same_law.symm alike) equal)
        old before.latest.ports scan.ports at_nodes.matched path met
      rw [Ports.merged_keeps devices.same id path old scan.ports met, at_nodes.keys path]
      exact (stays.nodes path metBefore).symm
    · rw [Ports.merged_adds devices.same id path old scan.ports met, Option.map_id]
      exact scan.key_at path

theorem first_scan_stays (devices : Devices Content) (root : Ref) (heap : Heap) (cwd : Directory)
    (empty : ∀ number, heap.attached ⟨root, number⟩ = none) (scan : NodeScan devices) :
    StaysAtNode devices root (emptyRootHub devices root heap cwd) scan where
  lists old tree listed _ := by
    apply List.pairwise_of_forall
    intro earlier later _ ⟨path, present, _⟩
    rw [← device_at_of_holds devices tree.holds path] at present
    cases path with
    | nil => simp [Heap.deviceAt] at present
    | cons port path => simp [Heap.deviceAt, emptyRootHub, empty] at present
  nodes path met := by
    cases path with
    | nil => rfl
    | cons port path =>
        obtain ⟨device, below, _, _, present, _⟩ := met
        contradiction

/-- In every run in which the retained devices stay at their nodes, each device
in the tree has the path of the node at which the latest scan found the device
on its port as key. -/
theorem keys_name_nodes (devices : Devices Content) (root : Ref) (heap : Heap) (cwd : Directory)
    (hub : devices.isUsbHub root = true) (empty : ∀ number, heap.attached ⟨root, number⟩ = none)
    {state : Scanned devices}
    (reached : Reach (rescan devices root) (StaysAtNode devices root)
      (emptyRootHub devices root heap cwd) state) (path : List Nat) :
    (state.heap.deviceAt path root).map devices.key = state.latest.nodeAt path := by
  have start : AtNodes devices root (emptyRootHub devices root heap cwd) .done := by
    refine ⟨⟨hub, fun number _ => empty number, by simp [Ports.items]⟩, ?_, rfl, ?_, ?_⟩
    · intro device member
      exact member
    · intro path
      have vacant : (Ports.done : Ports Ref).itemAt path = none := by
        cases path <;> simp [Ports.itemAt, Ports.slot]
      rw [show (emptyRootHub devices root heap cwd).latest.ports = .done from rfl, vacant]
      exact Option.Rel.none
    · intro path
      cases path <;> simp [Ports.itemAt, Ports.slot, emptyRootHub, NodeScan.unseen,
        NodeScan.nodeAt]
  obtain ⟨tree, at_nodes⟩ := reached.invariant
    (fun state => ∃ tree, AtNodes devices root state tree)
    ⟨.done, start⟩ fun before scan after inv stays taken => by
      obtain ⟨old, at_nodes⟩ := inv
      exact ⟨_, rescan_at_nodes devices root at_nodes stays taken⟩
  rw [device_at_of_holds devices at_nodes.held.holds path]
  exact at_nodes.keys path

def pluggedAddress (device : Ref) : Nat :=
  if device = 1 ∨ device = 4 then 1 else if device = 2 then 2 else 3

def pluggedDevices : Devices (Bool × Nat) where
  jar := exampleJar
  content := equalMice.content
  key device := nodeKey (subdirectory usbdevfsPath "001") (pluggedAddress device)

def mouseBus (host mouse : Ref) : Bus :=
  ⟨"001", true, some [1], fun _ => some (host, .occupied mouse .done .done), true⟩

def mouseScan (host mouse : Ref) (hubAddress : pluggedAddress host = 1)
    (hub : pluggedDevices.isUsbHub host = true) (once : host ≠ mouse) :
    NodeScan pluggedDevices where
  buses := [mouseBus host mouse]
  address := pluggedAddress
  opened bus member := by
    rw [List.mem_singleton.mp member]
    exact ⟨rfl, rfl⟩
  host bus member built below found := by
    obtain rfl := List.mem_singleton.mp member
    obtain ⟨rfl, _⟩ := Prod.ext_iff.mp (Option.some.inj found)
    exact ⟨[], congrArg (fun first => some [first]) hubAddress.symm⟩
  created bus member built below found device inside := by
    rw [List.mem_singleton.mp member]
    rfl
  reported := by
    refine ⟨?_, fun plain => ?_, ⟨Nat.zero_le _, fun _ => rfl, trivial, trivial⟩, trivial⟩
    · exact Nat.le_of_ble_eq_true rfl
    rw [hub] at plain
    contradiction
  narrow := Nat.le_of_ble_eq_true rfl
  distinct := by simpa [busPorts, mouseBus, Bus.found, Ports.items] using once

def firstPlugged : NodeScan pluggedDevices :=
  mouseScan 1 2 rfl rfl (by decide)

/-- The mouse has been pulled out and plugged in again: it has a new address. -/
def replugged : NodeScan pluggedDevices :=
  mouseScan 4 5 rfl rfl (by decide)

def noDevices : Heap where
  numberOfPorts _ := 0
  attached _ := none
  usbPortImp _ := none

theorem keys_name_nodes_first_scan :
    ∃ state, rescan pluggedDevices 0 (emptyRootHub pluggedDevices 0 noDevices "/") firstPlugged =
        some state ∧
      ∀ path, (state.heap.deviceAt path 0).map pluggedDevices.key = state.latest.nodeAt path := by
  have ends : (rescan pluggedDevices 0 (emptyRootHub pluggedDevices 0 noDevices "/")
      firstPlugged).isSome = true := by decide
  obtain ⟨state, taken⟩ := Option.isSome_iff_exists.mp ends
  exact ⟨state, taken, keys_name_nodes pluggedDevices 0 noDevices "/" rfl (fun _ => rfl)
    (.next .start (first_scan_stays pluggedDevices 0 noDevices "/" (fun _ => rfl) firstPlugged)
      taken)⟩

/-- The object of the mouse keeps the key of the node that is gone. -/
theorem replugged_mouse_keeps_key :
    ∃ state, Reach (rescan pluggedDevices 0) anyStep
        (emptyRootHub pluggedDevices 0 noDevices "/") state ∧
      state.heap.deviceAt [0, 0] 0 = some 2 ∧
      ¬ ∀ path, (state.heap.deviceAt path 0).map pluggedDevices.key =
        state.latest.nodeAt path := by
  have ends : (run (rescan pluggedDevices 0) [firstPlugged, replugged]
      (emptyRootHub pluggedDevices 0 noDevices "/")).map
        (fun state => (state.heap.deviceAt [0, 0] 0, state.latest.nodeAt [0, 0])) =
      some (some 2, some "/proc/bus/usb/001/003") := by decide
  obtain ⟨state, ran, found⟩ := Option.map_eq_some_iff.mp ends
  obtain ⟨mouse, node⟩ := Prod.ext_iff.mp found
  refine ⟨state, reach_of_run _ ran, mouse, ?_⟩
  intro keyed
  have stale := keyed [0, 0]
  rw [show state.heap.deviceAt [0, 0] 0 = some 2 from mouse,
    show state.latest.nodeAt [0, 0] = some "/proc/bus/usb/001/003" from node] at stale
  exact absurd stale (by decide)

end JavaxUsbLinux.NodeKeys
