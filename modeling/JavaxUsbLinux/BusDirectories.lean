import JavaxUsbLinux.TopologyUpdate

/-!
# The bus directories under the working directory

`nativeTopologyUpdater` changes the working directory of the process on its way
through the bus directories. Every system call may fail: its outcome is part of
the input. On what the calls report, the walk is the one over the scanned forest.
A scan that fails returns early, past the walk and past the change back.
-/

namespace JavaxUsbLinux.BusDirectories

open JavaxUsbLinux.EqualRemoval
open JavaxUsbLinux.PortForest
open JavaxUsbLinux.DeviceHeap
open JavaxUsbLinux.TopologyWalk
open JavaxUsbLinux.TopologyDiff
open JavaxUsbLinux.TopologyUpdate

set_option autoImplicit false

variable {Content : Type*}

abbrev Directory := String

def usbdevfsPath : Directory := "/proc/bus/usb"

/-- A directory of the bus listing and what the calls made for it return:
`chdir(d_name)`, the `scandir` of its device nodes (`none` is a negative result),
`build_device` for the node of an address, and `chdir(USBDEVFS_PATH)`. -/
structure Bus where
  dName : String
  entered : Bool
  devlist : Option (List Nat)
  build : Nat → Option (Ref × Ports Ref)
  returned : Bool

/-- The outcomes of `chdir(USBDEVFS_PATH)`, of the `scandir` there and of the
last `chdir(orig_dir)`. -/
structure SystemCalls where
  entered : Bool
  buslist : Option (List Bus)
  restored : Bool

def chdir (succeeds : Bool) (path cwd : Directory) : Directory :=
  if succeeds then path else cwd

def subdirectory (cwd : Directory) (dName : String) : Directory :=
  cwd ++ "/" ++ dName

/-- The host controller is the device with the lowest address of the bus. -/
def Bus.found (bus : Bus) : Option (Ref × Ports Ref) :=
  if bus.entered then
    match bus.devlist with
    | some (hcAddress :: _) => bus.build hcAddress
    | _ => none
  else none

def Bus.inside (bus : Bus) (cwd : Directory) : Directory :=
  chdir bus.entered (subdirectory cwd bus.dName) cwd

def visitBus (devices : Devices Content) (root : Ref) (port : Nat) (bus : Bus)
    (state : WalkState) (cwd : Directory) : Option (WalkState × Directory) := do
  let state ← match bus.found with
    | none => some state
    | some (built, below) =>
        buildDevice devices (fun device => visitPorts devices device 0 below) root port built
          below.width state
  return (state, chdir bus.returned usbdevfsPath (bus.inside cwd))

def busLoop (devices : Devices Content) (root : Ref) :
    Nat → List Bus → WalkState → Directory → Option (WalkState × Directory)
  | _, [], state, cwd => some (state, cwd)
  | port, bus :: buses, state, cwd => do
      let (state, cwd) ← visitBus devices root port bus state cwd
      busLoop devices root (port + 1) buses state cwd

def nativeTopologyUpdater (devices : Devices Content) (root : Ref) (calls : SystemCalls)
    (state : WalkState) (cwd : Directory) : Option (Int × WalkState × Directory) :=
  let origDir := cwd
  if calls.entered then
    match calls.buslist with
    | none => some (-1, state, usbdevfsPath)
    | some buses => do
        let (state, cwd) ← busLoop devices root 0 buses state usbdevfsPath
        return (0, state, chdir calls.restored origDir cwd)
  else some (-1, state, cwd)

def updateTopology (devices : Devices Content) (fuel : Nat) (heap : Heap) (root : Ref)
    (calls : SystemCalls) (cwd : Directory) : Option (Updated × Directory) := do
  let disconnectedDevices ← listOldDevices devices fuel heap root
  let (result, walked, cwd) ←
    nativeTopologyUpdater devices root calls ⟨heap, [], disconnectedDevices⟩ cwd
  let detached ← disconnectAll walked.heap walked.disconnected
  let attached ← attachAll detached walked.connected
  let updated : Updated := {
    heap := attached
    topologyUpdateResult := result
    usbDeviceDetached := if walked.disconnected = [] then none else some walked.disconnected
    usbDeviceAttached := if walked.connected = [] then none else some walked.connected }
  return (updated, cwd)

/-! ### What the calls report -/

/-- The buses are the ports of the root hub, in the order of the listing. -/
def busPorts : List Bus → Ports Ref
  | [] => .done
  | bus :: buses =>
      match bus.found with
      | none => .vacant (busPorts buses)
      | some (built, below) => .occupied built below (busPorts buses)

theorem bus_ports_slot (buses : List Bus) (port : Nat) :
    (busPorts buses).slot port = buses[port]?.bind Bus.found := by
  induction buses generalizing port with
  | nil => simp [busPorts, Ports.slot]
  | cons bus buses ih =>
      cases found : bus.found with
      | none =>
          cases port with
          | zero => simp [busPorts, found, Ports.slot]
          | succ port => simpa [busPorts, found] using ih port
      | some pair =>
          cases port with
          | zero => simp [busPorts, found, Ports.slot]
          | succ port => simpa [busPorts, found] using ih port

def SystemCalls.scan (calls : SystemCalls) : Option (Ports Ref) :=
  if calls.entered then calls.buslist.map busPorts else none

def whereLeft (buses : List Bus) (cwd : Directory) : Directory :=
  buses.foldl (fun cwd bus => chdir bus.returned usbdevfsPath (bus.inside cwd)) cwd

def SystemCalls.leavesIn (calls : SystemCalls) (cwd : Directory) : Directory :=
  if calls.entered then
    match calls.buslist with
    | none => usbdevfsPath
    | some buses => chdir calls.restored cwd (whereLeft buses usbdevfsPath)
  else cwd

theorem bus_loop_walks (devices : Devices Content) (root : Ref) (port : Nat) (buses : List Bus)
    (state : WalkState) (cwd : Directory) :
    busLoop devices root port buses state cwd =
      (visitPorts devices root port (busPorts buses) state).map
        fun after => (after, whereLeft buses cwd) := by
  induction buses generalizing port state cwd with
  | nil => rfl
  | cons bus buses ih =>
      cases found : bus.found with
      | none =>
          simp only [busLoop, visitBus, busPorts, found, visitPorts, Option.bind_eq_bind,
            Option.bind_some, Option.pure_def, ih]
          rfl
      | some pair =>
          simp only [busLoop, visitBus, busPorts, found, visitPorts, Option.bind_eq_bind,
            Option.pure_def]
          cases buildDevice devices (fun device => visitPorts devices device 0 pair.2) root port
              pair.1 pair.2.width state with
          | none => rfl
          | some after =>
              simp only [Option.bind_some, ih]
              rfl

theorem native_topology_updater_walks (devices : Devices Content) (root : Ref)
    (calls : SystemCalls) (state : WalkState) (cwd : Directory) :
    nativeTopologyUpdater devices root calls state cwd =
      (TopologyUpdate.nativeTopologyUpdater devices root calls.scan state).map
        fun after => (after.1, after.2, calls.leavesIn cwd) := by
  unfold nativeTopologyUpdater SystemCalls.scan SystemCalls.leavesIn
  cases calls.entered with
  | false => rfl
  | true =>
      cases calls.buslist with
      | none => rfl
      | some buses =>
          simp only [if_true, bus_loop_walks, Option.map_some,
            TopologyUpdate.nativeTopologyUpdater, Option.map_map, Option.bind_eq_bind,
            Option.pure_def]
          cases visitPorts devices root 0 (busPorts buses) state <;> rfl

/-- Apart from the working directory, the calls only matter through their scan. -/
theorem update_topology_walks (devices : Devices Content) (fuel : Nat) (heap : Heap) (root : Ref)
    (calls : SystemCalls) (cwd : Directory) :
    updateTopology devices fuel heap root calls cwd =
      (TopologyUpdate.updateTopology devices fuel heap root calls.scan).map
        fun updated => (updated, calls.leavesIn cwd) := by
  unfold updateTopology TopologyUpdate.updateTopology
  simp only [native_topology_updater_walks, Option.bind_eq_bind, Option.pure_def]
  cases listOldDevices devices fuel heap root with
  | none => rfl
  | some listed =>
      simp only [Option.bind_some]
      cases TopologyUpdate.nativeTopologyUpdater devices root calls.scan ⟨heap, [], listed⟩ with
      | none => rfl
      | some after =>
          simp only [Option.map_some, Option.bind_some]
          cases disconnectAll after.2.heap after.2.disconnected with
          | none => rfl
          | some detached =>
              simp only [Option.bind_some]
              cases attachAll detached after.2.connected <;> rfl

/-! ### Where the bus loop ends -/

/-- The directories entered since the last successful `chdir(USBDEVFS_PATH)`. -/
def strayedInto (buses : List Bus) : List String :=
  ((buses.reverse.takeWhile fun bus => !bus.returned).reverse.filter Bus.entered).map Bus.dName

def pathOf (names : List String) : Directory :=
  names.foldl subdirectory usbdevfsPath

theorem where_left (buses : List Bus) :
    whereLeft buses usbdevfsPath = pathOf (strayedInto buses) := by
  induction buses using List.reverseRecOn with
  | nil => rfl
  | append_singleton buses bus ih =>
      have last : whereLeft (buses ++ [bus]) usbdevfsPath =
          chdir bus.returned usbdevfsPath (bus.inside (whereLeft buses usbdevfsPath)) := by
        simp only [whereLeft, List.foldl_append, List.foldl_cons, List.foldl_nil]
      rw [last, ih]
      cases back : bus.returned with
      | true => simp [chdir, strayedInto, back, pathOf]
      | false =>
          have stays : strayedInto (buses ++ [bus]) =
              strayedInto buses ++ ([bus].filter Bus.entered).map Bus.dName := by
            simp [strayedInto, back]
          rw [stays]
          cases enters : bus.entered <;>
            simp [chdir, Bus.inside, enters, pathOf]

/-! ### What a failed scan leaves behind -/

structure NoTrace (before : Heap) (updated : Updated) : Prop where
  detached : updated.usbDeviceDetached = none
  attached : updated.usbDeviceAttached = none
  heap : updated.heap = before

/-- A successful scan has to come back by its last `chdir`, unless it ends in
the entry directory anyway. A failed one disconnects every device that there is. -/
def Unharmed (old : Ports Ref) (calls : SystemCalls) (entry : Directory) : Prop :=
  if calls.entered then
    match calls.buslist with
    | some buses => calls.restored = true ∨ entry = pathOf (strayedInto buses)
    | none => old.items = [] ∧ entry = usbdevfsPath
  else old.items = []

theorem leaves_in_entry_iff (buses : List Bus) (restored : Bool) (entry : Directory) :
    chdir restored entry (whereLeft buses usbdevfsPath) = entry ↔
      restored = true ∨ entry = pathOf (strayedInto buses) := by
  rw [where_left]
  cases restored with
  | true => simp [chdir]
  | false => simp [chdir, eq_comm]

/-- Without a scan nothing happens if and only if there was nothing to lose. -/
theorem no_trace_without_scan (devices : Devices Content) (fuel : Nat) (heap : Heap) (root : Ref)
    (old : Ports Ref) (tree : DeviceTree devices heap root old) (deep : old.depth < fuel) :
    ∃ updated, TopologyUpdate.updateTopology devices fuel heap root none = some updated ∧
      updated.topologyUpdateResult = -1 ∧ (NoTrace heap updated ↔ old.items = []) := by
  obtain ⟨listed, detached, perm, looped, update⟩ :=
    update_without_scan devices fuel heap root old tree deep
  refine ⟨_, update, rfl, ?_⟩
  constructor
  · intro traceless
    have quiet := traceless.detached
    have none_listed : listed = [] := by
      by_contra nonempty
      simp [nonempty] at quiet
    rw [none_listed] at perm
    exact perm.nil_eq.symm
  · intro empty
    rw [empty] at perm
    have none_listed := perm.eq_nil
    rw [none_listed] at looped ⊢
    exact ⟨rfl, rfl, (Option.some.inj looped).symm⟩

/-- When the update leaves no trace of a failed scan and the process where it was. -/
theorem failed_scan_traceless_iff (devices : Devices Content) (fuel : Nat) (heap : Heap)
    (root : Ref) (old : Ports Ref) (tree : DeviceTree devices heap root old)
    (deep : old.depth < fuel) (calls : SystemCalls)
    (created : ∀ ports, calls.scan = some ports →
      ∃ scan : Scan devices, scan.ports = ports ∧ Fresh scan root old)
    (entry : Directory) :
    ∃ updated after, updateTopology devices fuel heap root calls entry = some (updated, after) ∧
      (((updated.topologyUpdateResult ≠ 0 → NoTrace heap updated) ∧ after = entry) ↔
        Unharmed old calls entry) := by
  obtain ⟨updated, update, failed, traceless⟩ :=
    no_trace_without_scan devices fuel heap root old tree deep
  rw [update_topology_walks]
  unfold SystemCalls.scan at created ⊢
  unfold SystemCalls.leavesIn Unharmed
  cases enters : calls.entered with
  | false =>
      simp only [Bool.false_eq_true, if_false, update, Option.map_some]
      refine ⟨updated, entry, rfl, ?_⟩
      rw [← traceless, failed]
      simp
  | true =>
      cases listing : calls.buslist with
      | none =>
          simp only [if_true, Option.map_none, update, Option.map_some]
          refine ⟨updated, usbdevfsPath, rfl, ?_⟩
          rw [← traceless, failed]
          simp [eq_comm]
      | some buses =>
          obtain ⟨scan, ports, fresh⟩ := created (busPorts buses) (by simp [listing, enters])
          obtain ⟨updated, update, succeeded⟩ :=
            update_topology_ends devices fuel heap root old scan tree fresh deep
          rw [ports] at update
          simp only [if_true, Option.map_some, update]
          refine ⟨updated, _, rfl, ?_⟩
          rw [leaves_in_entry_iff, succeeded]
          simp

def noUsbdevfs : SystemCalls :=
  ⟨false, none, true⟩

def unlistedUsbdevfs : SystemCalls :=
  ⟨true, none, true⟩

/-- Both early returns leave the devices 1, 2 and 3 on the disconnected list,
and the second one leaves the process in the bus directory. -/
theorem failed_scan_detaches :
    (updateTopology equalMice 3 twoMiceHeap 0 noUsbdevfs "/").map
        (fun ended => (ended.1.topologyUpdateResult, ended.1.usbDeviceDetached, ended.2)) =
      some (-1, some [1, 2, 3], "/") ∧
    (updateTopology equalMice 3 twoMiceHeap 0 unlistedUsbdevfs "/").map
        (fun ended => (ended.1.topologyUpdateResult, ended.1.usbDeviceDetached, ended.2)) =
      some (-1, some [1, 2, 3], usbdevfsPath) ∧
    ¬ ∃ updated after,
      updateTopology equalMice 3 twoMiceHeap 0 noUsbdevfs "/" = some (updated, after) ∧
        (updated.topologyUpdateResult ≠ 0 → NoTrace twoMiceHeap updated) ∧ after = "/" := by
  have first : (updateTopology equalMice 3 twoMiceHeap 0 noUsbdevfs "/").map
      (fun ended => (ended.1.topologyUpdateResult, ended.1.usbDeviceDetached, ended.2)) =
        some (-1, some [1, 2, 3], "/") := by decide
  refine ⟨first, by decide, ?_⟩
  rintro ⟨updated, after, update, traceless, _⟩
  rw [update] at first
  simp only [Option.map_some, Option.some.injEq, Prod.mk.injEq] at first
  have quiet := (traceless (by rw [first.1]; decide)).detached
  rw [first.2.1] at quiet
  contradiction

def strandedScan : SystemCalls :=
  ⟨true, some [⟨"001", true, some [1],
    fun _ => some (4, .vacant (.occupied 5 .done .done)), true⟩], false⟩

theorem failed_scan_traceless_iff_stranded :
    ∃ updated after,
      updateTopology equalMice 3 twoMiceHeap 0 strandedScan "/" = some (updated, after) ∧
        (((updated.topologyUpdateResult ≠ 0 → NoTrace twoMiceHeap updated) ∧ after = "/") ↔
          Unharmed twoMice strandedScan "/") := by
  apply failed_scan_traceless_iff equalMice 3 twoMiceHeap 0 twoMice (two_mice_tree _) (by decide)
  intro ports found
  exact ⟨onlySecondMouse, Option.some.inj found, first_mouse_fresh _⟩

end JavaxUsbLinux.BusDirectories
