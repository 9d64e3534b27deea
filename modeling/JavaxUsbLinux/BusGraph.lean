import JavaxUsbLinux.PortUnfolding
import JavaxUsbLinux.NodeKeys

/-!
# The devices that the port information of the hubs names

`build_device` calls itself for every device that the port information of a hub
names. It keeps no list of the devices it has been at: whether it comes to an end,
and builds each device once, depends on these tables alone. Where the tables are a
tree no two devices of the topology have the same device node.
-/

namespace JavaxUsbLinux.BusGraph

open Relation
open JavaxUsbLinux.PortForest
open JavaxUsbLinux.PortUnfolding
open JavaxUsbLinux.DeviceHeap
open JavaxUsbLinux.TopologyUpdate hiding updateTopology nativeTopologyUpdater
open JavaxUsbLinux.BusDirectories
open JavaxUsbLinux.NodeKeys
open JavaxUsbLinux.Runs

set_option autoImplicit false

/-- A device node that can be opened and read. A device of the hub class has port
information: the address of the device on each of the `nports` ports, 0 for none. -/
structure DeviceNode where
  portinfo : Option (List UInt8)

/-- The nodes of a bus by address, `none` where a call up to `checkUsbDeviceImp` fails. -/
abbrev Nodes := UInt8 → Option DeviceNode

/-- A device and what is built on its ports, if it can be built, and the number of
devices built. -/
abbrev Built := Option (UInt8 × Ports UInt8) × Nat

def portLoop (buildDevice : UInt8 → Option Built) : List UInt8 → Option (Ports UInt8 × Nat)
  | [] => some (.done, 0)
  | dev :: port => do
      if dev = 0 then
        let (rest, devices) ← portLoop buildDevice port
        return (.vacant rest, devices)
      else
        let (built, below) ← buildDevice dev
        let (rest, devices) ← portLoop buildDevice port
        match built with
        | none => return (.vacant rest, below + devices)
        | some (device, under) => return (.occupied device under rest, below + devices)

/-- `build_device`, with at most so many devices built inside each other. -/
def buildDevice (nodes : Nodes) (fuel : Nat) (dev : UInt8) : Option Built :=
  match nodes dev with
  | none => some (none, 0)
  | some node =>
      match fuel with
      | 0 => none
      | fuel + 1 =>
          match node.portinfo with
          | none => some (some (dev, .done), 1)
          | some port => do
              let (below, devices) ← portLoop (buildDevice nodes fuel) port
              return (some (dev, below), 1 + devices)

/-! ### The tables as a graph -/

def entry (nodes : Nodes) (dev : UInt8) : Option UInt8 :=
  if dev ≠ 0 ∧ (nodes dev).isSome = true then some dev else none

def row (nodes : Nodes) (hub : UInt8) : List (Option UInt8) :=
  match (nodes hub).bind DeviceNode.portinfo with
  | none => []
  | some port => port.map (entry nodes)

abbrev Names (nodes : Nodes) : UInt8 → UInt8 → Prop :=
  Edge (row nodes)

theorem names_iff {nodes : Nodes} {hub dev : UInt8} :
    Names nodes hub dev ↔ dev ≠ 0 ∧ (nodes dev).isSome = true ∧
      ∃ node port, nodes hub = some node ∧ node.portinfo = some port ∧ dev ∈ port := by
  have named {port : List UInt8} : some dev ∈ port.map (entry nodes) ↔
      dev ≠ 0 ∧ (nodes dev).isSome = true ∧ dev ∈ port := by
    simp only [List.mem_map, entry, Option.ite_none_right_eq_some, Option.some.injEq]
    constructor
    · rintro ⟨_, member, present, rfl⟩
      exact ⟨present.1, present.2, member⟩
    · rintro ⟨nonzero, present, member⟩
      exact ⟨dev, member, ⟨nonzero, present⟩, rfl⟩
  cases here : nodes hub with
  | none => simp [Edge, row, here]
  | some node =>
      cases info : node.portinfo with
      | none => simp [Edge, row, here, info]
      | some port => simp [Edge, row, here, info, named]

theorem port_loop_unfolds {nodes : Nodes} {fuel : Nat} (port : List UInt8)
    (unfolds : ∀ dev, (nodes dev).isSome = true → buildDevice nodes fuel dev =
      (unfold (row nodes) fuel dev).map fun below => (some (dev, below), 1 + below.items.length)) :
    portLoop (buildDevice nodes fuel) port =
      (rowPorts (unfold (row nodes) fuel) (port.map (entry nodes))).map
        fun ports => (ports, ports.items.length) := by
  induction port with
  | nil => rfl
  | cons dev port ih =>
      rw [portLoop, ih, List.map_cons]
      by_cases zero : dev = 0
      · rw [if_pos zero, entry, if_neg fun present => present.1 zero]
        cases later : rowPorts (unfold (row nodes) fuel) (port.map (entry nodes)) with
        | none => simp [rowPorts, later]
        | some rest => simp [rowPorts, later, Ports.items]
      · rw [if_neg zero]
        cases here : nodes dev with
        | none =>
            have absent : buildDevice nodes fuel dev = some (none, 0) := by
              cases fuel <;> simp [buildDevice, here]
            rw [entry, if_neg fun present => by simp [here] at present, absent]
            cases later : rowPorts (unfold (row nodes) fuel) (port.map (entry nodes)) with
            | none => simp [rowPorts, later]
            | some rest => simp [rowPorts, later, Ports.items]
        | some node =>
            have present : (nodes dev).isSome = true := by rw [here, Option.isSome_some]
            rw [entry, if_pos ⟨zero, present⟩, unfolds dev present, rowPorts]
            cases unfolded : unfold (row nodes) fuel dev with
            | none => rfl
            | some under =>
                cases later : rowPorts (unfold (row nodes) fuel) (port.map (entry nodes)) with
                | none => rfl
                | some rest =>
                    simp [Ports.items]
                    omega

/-- The recursion unfolds the tables. -/
theorem build_device_unfolds (nodes : Nodes) (fuel : Nat) (dev : UInt8)
    (present : (nodes dev).isSome = true) :
    buildDevice nodes fuel dev = (unfold (row nodes) fuel dev).map
      fun below => (some (dev, below), 1 + below.items.length) := by
  obtain ⟨node, here⟩ := Option.isSome_iff_exists.mp present
  induction fuel generalizing dev node with
  | zero => simp [buildDevice, here, unfold]
  | succ fuel ih =>
      rw [buildDevice, here]
      cases info : node.portinfo with
      | none => simp [unfold, row, here, info, rowPorts, Ports.items]
      | some port =>
          have loop := port_loop_unfolds port fun dev present =>
            ih dev present (Option.isSome_iff_exists.mp present).choose
              (Option.isSome_iff_exists.mp present).choose_spec
          simp only [loop, unfold, row, here, info, Option.bind_some]
          cases rowPorts (unfold (row nodes) fuel) (port.map (entry nodes)) <;> rfl

theorem build_device_built {nodes : Nodes} {fuel : Nat} {dev : UInt8} {below : Ports UInt8}
    {devices : Nat} (built : buildDevice nodes fuel dev = some (some (dev, below), devices)) :
    unfold (row nodes) fuel dev = some below ∧ devices = 1 + below.items.length := by
  cases here : nodes dev with
  | none =>
      have absent : buildDevice nodes fuel dev = some (none, 0) := by
        cases fuel <;> simp [buildDevice, here]
      rw [absent] at built
      simp at built
  | some node =>
      have present : (nodes dev).isSome = true := by rw [here, Option.isSome_some]
      rw [build_device_unfolds nodes fuel dev present, Option.map_eq_some_iff] at built
      obtain ⟨ports, unfolded, same⟩ := built
      simp only [Prod.mk.injEq, Option.some.injEq, true_and] at same
      obtain ⟨rfl, rfl⟩ := same
      exact ⟨unfolded, rfl⟩

/-- No sequence of hubs in which each one's port information names the next goes on
from a device that has been reached to the same device again. -/
abbrev NoLoop (nodes : Nodes) (hcAddress : UInt8) : Prop :=
  Acyclic (row nodes) hcAddress

instance addressFintype : Fintype UInt8 :=
  Fintype.ofEquiv (Fin UInt8.size) ⟨UInt8.ofFin, UInt8.toFin, fun _ => rfl, fun _ => rfl⟩

theorem address_card : Fintype.card UInt8 = 256 :=
  (Fintype.ofEquiv_card _).trans (Fintype.card_fin 256)

/-- From the host controller on `build_device` comes to an end exactly if there is no
loop in the tables; then not more than 256 calls are inside each other. -/
theorem build_device_ends_iff (nodes : Nodes) (hcAddress : UInt8) :
    ((∃ fuel, (buildDevice nodes fuel hcAddress).isSome = true) ↔ NoLoop nodes hcAddress) ∧
      (NoLoop nodes hcAddress → (buildDevice nodes 256 hcAddress).isSome = true) := by
  cases present : (nodes hcAddress).isSome with
  | true =>
      have ends : ((∃ fuel, (unfold (row nodes) fuel hcAddress).isSome = true) ↔
          NoLoop nodes hcAddress) ∧ (NoLoop nodes hcAddress →
            (unfold (row nodes) (Fintype.card UInt8) hcAddress).isSome = true) :=
        unfold_ends_iff hcAddress
      rw [address_card] at ends
      simpa only [build_device_unfolds nodes _ hcAddress present, Option.isSome_map] using ends
  | false =>
      have here : nodes hcAddress = none := by simpa using present
      have ended (fuel : Nat) : buildDevice nodes fuel hcAddress = some (none, 0) := by
        cases fuel <;> simp [buildDevice, here]
      have noLoop : NoLoop nodes hcAddress := by
        intro reached above cycle
        have first : ¬ ∃ dev, Names nodes hcAddress dev := by
          rintro ⟨dev, names⟩
          obtain ⟨_, _, node, _, found, _⟩ := names_iff.mp names
          rw [here] at found
          contradiction
        obtain ⟨dev, names, _⟩ := TransGen.head'_iff.mp (TransGen.trans_right above cycle)
        exact first ⟨dev, names⟩
      simp [ended, noLoop]

/-- The devices built are those that can be reached over the tables, and they are
built once each exactly if no device is named by two ports and the host controller by
none. The result is then their number. -/
theorem devices_built_once_iff (nodes : Nodes) (fuel : Nat) (hcAddress : UInt8)
    (below : Ports UInt8) (devices : Nat)
    (built : buildDevice nodes fuel hcAddress = some (some (hcAddress, below), devices)) :
    (∀ dev, dev ∈ hcAddress :: below.items ↔ ReflTransGen (Names nodes) hcAddress dev) ∧
      ((hcAddress :: below.items).Nodup ↔ Treelike (row nodes) hcAddress) ∧
      devices = (hcAddress :: below.items).length := by
  obtain ⟨unfolded, rfl⟩ := build_device_built built
  refine ⟨fun dev => ?_, unfold_nodup_iff unfolded, by rw [List.length_cons, Nat.add_comm]⟩
  rw [List.mem_cons, unfold_items unfolded, reflTransGen_iff_eq_or_transGen]

def hubAndMouse : Nodes := fun dev =>
  if dev = 1 then some ⟨some [0, 2]⟩
  else if dev = 2 then some ⟨some [3]⟩
  else if dev = 3 then some ⟨none⟩
  else none

theorem devices_built_once_hub_and_mouse :
    (∀ dev, dev ∈ [1, 2, 3] ↔ ReflTransGen (Names hubAndMouse) 1 dev) ∧
      ([(1 : UInt8), 2, 3].Nodup ↔ Treelike (row hubAndMouse) 1) ∧ 3 = [(1 : UInt8), 2, 3].length :=
  devices_built_once_iff hubAndMouse 3 1
    (.vacant (.occupied 2 (.occupied 3 .done .done) .done)) 3 rfl

/-! ### Device nodes and devices -/

variable {Content : Type*} {devices : Devices Content}

/-- What `build_device` builds on the bus from the tables of its hubs, at the same
addresses, where no device is named twice. -/
structure BuiltFrom (scan : NodeScan devices) (nodes : Nodes) (built : Ref)
    (below : Ports Ref) where
  fuel : Nat
  dev : UInt8
  under : Ports UInt8
  count : Nat
  builds : buildDevice nodes fuel dev = some (some (dev, under), count)
  once : Treelike (row nodes) dev
  addressed : ∀ path,
    (standing built below path).map scan.address = (standing dev under path).map UInt8.toNat

/-- The buses are listed once each, and what is found on them comes from tables. -/
structure FromTables (scan : NodeScan devices) : Prop where
  names : (scan.buses.map Bus.dName).Nodup
  tables : ∀ bus ∈ scan.buses, ∀ built below, bus.found = some (built, below) →
    ∃ nodes, Nonempty (BuiltFrom scan nodes built below)

theorem digit_to_nat (value : Nat) : (digit value).toNat = 48 + value % 10 := by
  have valid : Nat.isValidChar (48 + value % 10) := Or.inl (by omega)
  show (Char.ofNat (48 + value % 10)).toNat = 48 + value % 10
  rw [Char.ofNat, dif_pos valid]
  rfl

theorem digit_injective {value other : Nat} (same : digit value = digit other) :
    value % 10 = other % 10 := by
  have equal := congrArg Char.toNat same
  rw [digit_to_nat, digit_to_nat] at equal
  omega

theorem three_digits_injective {dev other : Nat} (small : dev < 256) (otherSmall : other < 256)
    (same : threeDigits dev = threeDigits other) : dev = other := by
  have digits := String.ofList_injective same
  simp only [List.cons.injEq, and_true] at digits
  have hundreds := digit_injective digits.1
  have tens := digit_injective digits.2.1
  have ones := digit_injective digits.2.2
  omega

theorem node_key_injective {path other : Directory} {dev otherDev : Nat} (small : dev < 256)
    (otherSmall : otherDev < 256) (same : nodeKey path dev = nodeKey other otherDev) :
    path = other ∧ dev = otherDev := by
  have letters := congrArg String.toList same
  simp only [nodeKey, subdirectory, String.toList_append] at letters
  obtain ⟨front, digits⟩ := List.append_inj' letters (by simp [threeDigits])
  obtain ⟨directory, _⟩ := List.append_inj' front rfl
  exact ⟨String.toList_injective directory,
    three_digits_injective small otherSmall (String.toList_injective digits)⟩

theorem node_at_found (scan : NodeScan devices) {port : Nat} {path : List Nat} {key : String}
    (present : scan.nodeAt (port :: path) = some key) :
    ∃ bus built below device, scan.buses[port]? = some bus ∧ bus.found = some (built, below) ∧
      standing built below path = some device ∧
      nodeKey (subdirectory usbdevfsPath bus.dName) (scan.address device) = key := by
  simp only [NodeScan.nodeAt, Option.bind_eq_bind, Option.bind_eq_some_iff, Option.pure_def,
    Option.some.injEq] at present
  obtain ⟨bus, listed, device, stands, same⟩ := present
  have slot := bus_ports_slot scan.buses port
  rw [listed, Option.bind_some] at slot
  cases built : bus.found with
  | none =>
      rw [built] at slot
      simp [NodeScan.ports, Ports.itemAt, slot] at stands
  | some pair =>
      rw [built] at slot
      refine ⟨bus, pair.1, pair.2, device, listed, built, ?_, same⟩
      exact (standing_below pair.1 slot).symm.trans stands

theorem BuiltFrom.at_address {scan : NodeScan devices} {nodes : Nodes} {built : Ref}
    {below : Ports Ref} (tables : BuiltFrom scan nodes built below) {path : List Nat}
    {device : Ref} (stands : standing built below path = some device) :
    ∃ dev, standing tables.dev tables.under path = some dev ∧
      scan.address device = dev.toNat := by
  have addressed := tables.addressed path
  rw [stands, Option.map_some] at addressed
  obtain ⟨dev, found, same⟩ := Option.map_eq_some_iff.mp addressed.symm
  exact ⟨dev, found, same.symm⟩

theorem BuiltFrom.nodup {scan : NodeScan devices} {nodes : Nodes} {built : Ref}
    {below : Ports Ref} (tables : BuiltFrom scan nodes built below) :
    (tables.dev :: tables.under.items).Nodup :=
  tables.once.unfold_nodup .refl (build_device_built tables.builds).1

theorem node_at_injective (scan : NodeScan devices) (fromTables : FromTables scan)
    {path other : List Nat} {key : String} (here : scan.nodeAt path = some key)
    (there : scan.nodeAt other = some key) : path = other := by
  match path, other with
  | [], _ => simp [NodeScan.nodeAt] at here
  | _, [] => simp [NodeScan.nodeAt] at there
  | port :: path, place :: other =>
      obtain ⟨bus, built, below, device, listed, found, stands, sameKey⟩ :=
        node_at_found scan here
      obtain ⟨otherBus, otherBuilt, otherBelow, otherDevice, otherListed, otherFound,
        otherStands, rfl⟩ := node_at_found scan there
      obtain ⟨nodes, ⟨tables⟩⟩ :=
        fromTables.tables bus (List.mem_of_getElem? listed) built below found
      obtain ⟨otherNodes, ⟨otherTables⟩⟩ := fromTables.tables otherBus
        (List.mem_of_getElem? otherListed) otherBuilt otherBelow otherFound
      obtain ⟨dev, devStands, address⟩ := tables.at_address stands
      obtain ⟨otherDev, otherDevStands, otherAddress⟩ := otherTables.at_address otherStands
      rw [address, otherAddress] at sameKey
      obtain ⟨directory, sameAddress⟩ :=
        node_key_injective dev.toNat_lt otherDev.toNat_lt sameKey
      have sameName : bus.dName = otherBus.dName := by
        have letters := congrArg String.toList directory
        simp only [subdirectory, String.toList_append] at letters
        exact String.toList_injective (List.append_cancel_left letters)
      -- the names tell the buses apart, and on one bus the addresses tell the devices apart
      have samePort : port = place := by
        have inside : port < (scan.buses.map Bus.dName).length := by
          rw [List.length_map]
          exact (List.getElem?_eq_some_iff.mp listed).1
        refine (List.getElem?_inj inside fromTables.names).mp ?_
        rw [List.getElem?_map, List.getElem?_map, listed, otherListed]
        exact congrArg some sameName
      subst samePort
      obtain rfl : bus = otherBus := Option.some.inj (listed.symm.trans otherListed)
      obtain ⟨rfl, rfl⟩ := Prod.ext_iff.mp (Option.some.inj (found.symm.trans otherFound))
      obtain ⟨dev', again, otherSame⟩ := tables.at_address otherStands
      rw [otherAddress] at otherSame
      rw [UInt8.toNat_inj.mp sameAddress, UInt8.toNat_inj.mp otherSame] at devStands
      exact congrArg (port :: ·) (standing_injective tables.nodup devStands again)

theorem empty_at_nodes (devices : Devices Content) (root : Ref) (heap : Heap) (cwd : Directory)
    (hub : devices.isUsbHub root = true) (empty : ∀ number, heap.attached ⟨root, number⟩ = none) :
    AtNodes devices root (emptyRootHub devices root heap cwd) .done := by
  have vacant (path : List Nat) : (Ports.done : Ports Ref).itemAt path = none := by
    cases path <;> rfl
  refine ⟨⟨hub, fun number _ => empty number, by simp [Ports.items]⟩, fun _ member => member,
    rfl, fun path => ?_, fun path => ?_⟩
  · rw [show (emptyRootHub devices root heap cwd).latest.ports = .done from rfl, vacant]
    exact Option.Rel.none
  · rw [vacant]
    cases path <;> rfl

theorem unseen_from_tables : FromTables (NodeScan.unseen : NodeScan devices) :=
  ⟨List.nodup_nil, fun _ member => absurd member List.not_mem_nil⟩

/-- No two devices in the tree have the same device node, in every run in which the
disconnected lists are exact (`StaysAtNode.lists`), the port tables describe a tree and
each bus is listed once (`FromTables`). -/
theorem keys_distinct (devices : Devices Content) (root : Ref) (heap : Heap) (cwd : Directory)
    (hub : devices.isUsbHub root = true) (empty : ∀ number, heap.attached ⟨root, number⟩ = none)
    {state : Scanned devices}
    (reached : Reach (rescan devices root)
      (fun state scan => StaysAtNode devices root state scan ∧ FromTables scan)
      (emptyRootHub devices root heap cwd) state)
    (path otherPath : List Nat) (device other : Ref)
    (here : state.heap.deviceAt path root = some device)
    (there : state.heap.deviceAt otherPath root = some other)
    (same : devices.key device = devices.key other) : path = otherPath ∧ device = other := by
  obtain ⟨⟨tree, at_nodes⟩, fromTables⟩ := reached.invariant
    (fun state => (∃ tree, AtNodes devices root state tree) ∧ FromTables state.latest)
    ⟨⟨.done, empty_at_nodes devices root heap cwd hub empty⟩, unseen_from_tables⟩
    fun before scan after inv allowed taken => by
      obtain ⟨⟨old, at_nodes⟩, _⟩ := inv
      refine ⟨⟨_, rescan_at_nodes devices root at_nodes allowed.1 taken⟩, ?_⟩
      simp only [rescan, Option.ite_none_right_eq_some] at taken
      obtain ⟨updated, _, rfl⟩ := Option.map_eq_some_iff.mp taken.2
      exact allowed.2
  have keyed {path : List Nat} {device : Ref}
      (present : state.heap.deviceAt path root = some device) :
      state.latest.nodeAt path = some (devices.key device) := by
    rw [device_at_of_holds devices at_nodes.held.holds path] at present
    rw [← at_nodes.keys path, present, Option.map_some]
  have samePath := node_at_injective state.latest fromTables (keyed here) (same ▸ keyed there)
  exact ⟨samePath, by simpa [samePath, there, eq_comm] using here⟩

def mouseTables : Nodes := fun dev =>
  if dev = 1 then some ⟨some [2]⟩ else if dev = 2 then some ⟨none⟩ else none

theorem first_plugged_from_tables : FromTables firstPlugged where
  names := by decide
  tables bus member built below found := by
    obtain rfl := List.mem_singleton.mp member
    obtain ⟨rfl, rfl⟩ := Prod.ext_iff.mp (Option.some.inj found)
    have unfolded : unfold (row mouseTables) 2 1 = some (.occupied 2 .done .done) := rfl
    refine ⟨mouseTables, ⟨⟨2, 1, .occupied 2 .done .done, 2, rfl,
      (unfold_nodup_iff unfolded).mp (by decide), fun path => ?_⟩⟩⟩
    match path with
    | [] => rfl
    | [0] => rfl
    | 0 :: _ :: _ => rfl
    | (_ + 1) :: _ => rfl

theorem keys_distinct_first_scan :
    ∃ state, rescan pluggedDevices 0 (emptyRootHub pluggedDevices 0 noDevices "/") firstPlugged =
        some state ∧
      ∀ device other, state.heap.deviceAt [0] 0 = some device →
        state.heap.deviceAt [0, 0] 0 = some other →
        pluggedDevices.key device ≠ pluggedDevices.key other := by
  have ends : (rescan pluggedDevices 0 (emptyRootHub pluggedDevices 0 noDevices "/")
      firstPlugged).isSome = true := by decide
  obtain ⟨state, taken⟩ := Option.isSome_iff_exists.mp ends
  refine ⟨state, taken, fun device other here there same => ?_⟩
  have apart := keys_distinct pluggedDevices 0 noDevices "/" rfl (fun _ => rfl)
    (.next .start ⟨first_scan_stays pluggedDevices 0 noDevices "/" (fun _ => rfl) firstPlugged,
      first_plugged_from_tables⟩ taken) [0] [0, 0] device other here there same
  simp at apart

end JavaxUsbLinux.BusGraph
