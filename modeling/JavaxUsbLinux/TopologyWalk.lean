import Mathlib.Data.Int.Order.Basic
import Mathlib.Data.List.Perm.Basic
import JavaxUsbLinux.DeviceHeap

/-!
# The bus walk

`nativeTopologyUpdater` and `build_device` visit the devices of every bus port
by port and report each one to `checkUsbDeviceImp`, which compares it with the
device on the same port of the old tree. A scan is given as the forest of device
objects that the native code creates: the buses are the ports of the root hub.
A device that cannot be built is never reported, so its port counts as vacant.
-/

namespace JavaxUsbLinux.TopologyWalk

open JavaxUsbLinux.EqualRemoval
open JavaxUsbLinux.PortForest
open JavaxUsbLinux.DeviceHeap

set_option autoImplicit false

variable {Content : Type*}

structure WalkState where
  heap : Heap
  connected : List Ref
  disconnected : List Ref

def javaByte (value : Nat) : Int := Int.bmod value 256

theorem java_byte_of_le {value : Nat} (small : value ≤ 127) : javaByte value = value := by
  unfold javaByte
  exact Int.bmod_eq_of_le (by omega) (by omega)

def fillDeviceList (devices : Devices Content) (heap : Heap) :
    Nat → Ref → List Ref → Option (List Ref)
  | 0, _, _ => none
  | fuel + 1, device, list =>
      if devices.isUsbHub device then
        (heap.getAttachedUsbDevices devices.jar device).foldlM
          (fun filled attached => fillDeviceList devices heap fuel attached filled)
          (list ++ [device])
      else some (list ++ [device])

/-- `getUsbPortImp` with the `resize` that follows its exception. A second
exception leaves `checkUsbDeviceImp` uncaught, which is `none`. -/
def obtainUsbPortImp (heap : Heap) (hub : Ref) (port : Int) : Option (UsbPortImp × Heap) :=
  match heap.getUsbPortImp hub port with
  | some usbPortImp => some (usbPortImp, heap)
  | none =>
      let resized := heap.resize hub port
      (resized.getUsbPortImp hub port).map fun usbPortImp => (usbPortImp, resized)

def connectDevice (state : WalkState) (device : Ref) (usbPortImp : UsbPortImp) : WalkState where
  heap := state.heap.setUsbPortImp device usbPortImp
  connected := state.connected ++ [device]
  disconnected := state.disconnected

def checkUsbDeviceImp (devices : Devices Content) (hub : Ref) (p : Nat) (device : Ref)
    (state : WalkState) : Option (Ref × WalkState) := do
  let (usbPortImp, heap) ← obtainUsbPortImp state.heap hub (javaByte p)
  let state := { state with heap := heap }
  if ¬ heap.isUsbDeviceAttached usbPortImp then
    return (device, connectDevice state device usbPortImp)
  let existingDevice ← heap.getUsbDeviceImp usbPortImp
  if devices.same existingDevice device then
    return (existingDevice,
      { state with disconnected := removeEqual devices.same state.disconnected existingDevice })
  else
    return (device, connectDevice state device usbPortImp)

def createImp (devices : Devices Content) (heap : Heap) (built : Ref) (nports : Nat) : Heap :=
  if devices.isUsbHub built then heap.createUsbHubImp built nports
  else heap.createUsbDeviceImp built

/-- `build_device` for a device that can be built. Only a hub has its ports
visited, through the object that `checkUsbDeviceImp` returned. -/
def buildDevice (devices : Devices Content)
    (visitBelow : Ref → WalkState → Option WalkState) (parent : Ref) (parentport : Nat)
    (built : Ref) (nports : Nat) (state : WalkState) : Option WalkState := do
  let (device, state) ← checkUsbDeviceImp devices parent (parentport + 1) built
    { state with heap := createImp devices state.heap built nports }
  if devices.isUsbHub built then visitBelow device state else return state

/-- The port loop of `build_device`, and the bus loop of `nativeTopologyUpdater`
with the root hub as parent. -/
def visitPorts (devices : Devices Content) : Ref → Nat → Ports Ref → WalkState → Option WalkState
  | _, _, .done, state => some state
  | parent, port, .vacant rest, state => visitPorts devices parent (port + 1) rest state
  | parent, port, .occupied built below rest, state => do
      let state ← buildDevice devices (fun device => visitPorts devices device 0 below)
        parent port built below.width state
      visitPorts devices parent (port + 1) rest state

/-- What the native code can report: hubs have at most 127 ports, since
`usbdevfs_hub_portinfo` has no room for more, and nothing is below other devices. -/
def Reported (devices : Devices Content) : Ports Ref → Prop
  | .done => True
  | .vacant rest => Reported devices rest
  | .occupied built below rest =>
      below.width ≤ 127 ∧ (devices.isUsbHub built = false → below = .done) ∧
        Reported devices below ∧ Reported devices rest

/-- A scan creates each device object once. Bus directories are numbered from 1 to 127. -/
structure Scan (devices : Devices Content) where
  ports : Ports Ref
  reported : Reported devices ports
  narrow : ports.width ≤ 127
  distinct : ports.items.Nodup

/-- The devices below the root hub form the tree `old`. -/
structure DeviceTree (devices : Devices Content) (heap : Heap) (root : Ref)
    (old : Ports Ref) : Prop where
  hub : devices.isUsbHub root = true
  holds : Holds devices heap root 0 old
  nodup : (root :: old.items).Nodup

def Fresh {devices : Devices Content} (scan : Scan devices) (root : Ref) (old : Ports Ref) : Prop :=
  ∀ device ∈ scan.ports.items, device ∉ root :: old.items

/-- Where the walk asks for each new device to be attached. -/
def placements (same : Ref → Ref → Bool) :
    Ref → Nat → Ports Ref → Ports Ref → List (Ref × UsbPortImp)
  | _, _, _, .done => []
  | hub, index, old, .vacant rest => placements same hub (index + 1) old.rest rest
  | hub, index, old, .occupied built below rest =>
      (match old.meet same built with
        | some (found, under) => placements same found 0 under below
        | none => (built, ⟨hub, index + 1⟩) :: placements same built 0 .done below) ++
          placements same hub (index + 1) old.rest rest

theorem placements_devices (same : Ref → Ref → Bool) (hub : Ref) (index : Nat)
    (old scan : Ports Ref) :
    (placements same hub index old scan).map Prod.fst = Ports.added same old scan := by
  induction scan generalizing hub index old with
  | done => rfl
  | vacant rest ih => exact ih hub (index + 1) old.rest
  | occupied built below rest ihBelow ihRest =>
      cases meets : old.meet same built with
      | none => simp only [placements, Ports.added, meets, List.map_append, List.map_cons,
          ihBelow, ihRest]
      | some pair => simp only [placements, Ports.added, meets, List.map_append, ihBelow, ihRest]

theorem placed_mem {same : Ref → Ref → Bool} {hub : Ref} {index : Nat} {old scan : Ports Ref}
    {entry : Ref × UsbPortImp} (member : entry ∈ placements same hub index old scan) :
    entry.1 ∈ scan.items := by
  have listed : entry.1 ∈ (placements same hub index old scan).map Prod.fst :=
    List.mem_map_of_mem member
  rw [placements_devices] at listed
  exact (Ports.added_sublist same old scan).subset listed

theorem placements_port (same : Ref → Ref → Bool) (hub : Ref) (index : Nat) (old scan : Ports Ref)
    (entry : Ref × UsbPortImp) (member : entry ∈ placements same hub index old scan) :
    (entry.2.hub = hub ∧ index < entry.2.number) ∨ entry.2.hub ∈ old.items ∨
      entry.2.hub ∈ scan.items := by
  induction scan generalizing hub index old with
  | done => simp [placements] at member
  | vacant rest ih =>
      rcases ih hub (index + 1) old.rest member with here | inOld | inScan
      · exact Or.inl ⟨here.1, by omega⟩
      · exact Or.inr (Or.inl ((Ports.rest_items old).subset inOld))
      · exact Or.inr (Or.inr inScan)
  | occupied built below rest ihBelow ihRest =>
      simp only [placements, List.mem_append] at member
      rcases member with member | member
      · cases meets : old.meet same built with
        | none =>
            rw [meets] at member
            rcases List.mem_cons.mp member with rfl | member
            · exact Or.inl ⟨rfl, by simp⟩
            · rcases ihBelow built 0 .done member with here | inOld | inScan
              · exact Or.inr (Or.inr (by simp [Ports.items, here.1]))
              · simp [Ports.items] at inOld
              · exact Or.inr (Or.inr (by simp [Ports.items, inScan]))
        | some pair =>
            rw [meets] at member
            have present := Ports.slot_zero_some.mp ((Ports.meet_eq_some same).mp meets).1
            rcases ihBelow pair.1 0 pair.2 member with here | inOld | inScan
            · exact Or.inr (Or.inl (by rw [present]; simp [Ports.items, here.1]))
            · exact Or.inr (Or.inl (by rw [present]; simp [Ports.items, inOld]))
            · exact Or.inr (Or.inr (by simp [Ports.items, inScan]))
      · rcases ihRest hub (index + 1) old.rest member with here | inOld | inScan
        · exact Or.inl ⟨here.1, by omega⟩
        · exact Or.inr (Or.inl ((Ports.rest_items old).subset inOld))
        · exact Or.inr (Or.inr (by simp [Ports.items, inScan]))

/-! ### Listing the old devices -/

theorem holds_rows (devices : Devices Content) {heap : Heap} {hub : Ref} {index : Nat}
    {ports : Ports Ref} (holds : Holds devices heap hub index ports)
    (row : Ref × Ports Ref) (member : row ∈ ports.rows) :
    Holds devices heap row.1 0 row.2 ∧ (devices.isUsbHub row.1 = false → row.2 = .done) := by
  induction ports generalizing index with
  | done => simp [Ports.rows] at member
  | vacant rest ih => exact ih holds.2 member
  | occupied device below rest _ ihRest =>
      rcases List.mem_cons.mp member with rfl | member
      · exact ⟨holds.2.1, holds.1.leaf⟩
      · exact ihRest holds.2.2 member

theorem attached_devices (devices : Devices Content) {heap : Heap} {hub : Ref}
    {ports : Ports Ref} (holds : Holds devices heap hub 0 ports) :
    ∃ rows : List (Ref × Ports Ref), rows.Perm ports.rows ∧
      heap.getAttachedUsbDevices devices.jar hub = rows.map Prod.fst := by
  have bound : ∀ index, ports.slot index ≠ none → index < heap.numberOfPorts hub := by
    intro index present
    have slot := held_slot devices holds index
    cases found : ports.slot index with
    | none => exact absurd found present
    | some pair =>
        rw [found] at slot
        have counted := slot.1.counted
        simp only [Nat.zero_add] at counted
        omega
  have attached : ∀ index, heap.attached ⟨hub, index + 1⟩ = (ports.slot index).map Prod.fst := by
    intro index
    have slot := held_slot devices holds index
    rw [Nat.zero_add] at slot
    cases found : ports.slot index with
    | none => simpa [found] using slot
    | some pair =>
        rw [found] at slot
        exact slot.1.attached
  refine ⟨(devices.jar.portOrder (heap.numberOfPorts hub)).filterMap ports.slot, ?_, ?_⟩
  · rw [← ports.range_slots _ bound]
    exact (devices.jar.port_order_perm _).filterMap _
  · simp only [Heap.getAttachedUsbDevices, attached, List.map_filterMap]

theorem fill_device_list_spec (devices : Devices Content) (heap : Heap) (fuel : Nat)
    (device : Ref) (ports : Ports Ref) (list : List Ref)
    (holds : Holds devices heap device 0 ports)
    (leaf : devices.isUsbHub device = false → ports = .done) (deep : ports.depth < fuel) :
    ∃ below, fillDeviceList devices heap fuel device list = some (list ++ device :: below) ∧
      below.Perm ports.items := by
  induction fuel generalizing device ports list with
  | zero => omega
  | succ fuel ih =>
      have rowsFilled : ∀ (rows : List (Ref × Ports Ref)) (filled : List Ref),
          (∀ row ∈ rows, row ∈ ports.rows) →
          ∃ below, (rows.map Prod.fst).foldlM
              (fun filled attached => fillDeviceList devices heap fuel attached filled) filled =
                some (filled ++ below) ∧
            below.Perm (rows.flatMap fun row => row.1 :: row.2.items) := by
        intro rows
        induction rows with
        | nil =>
            intro filled _
            exact ⟨[], by simp, List.Perm.nil⟩
        | cons row rows ihRows =>
            intro filled members
            have held := holds_rows devices holds row (members row (by simp))
            have shallow := ports.rows_depth row (members row (by simp))
            obtain ⟨first, firstFilled, firstPerm⟩ :=
              ih row.1 row.2 filled held.1 held.2 (by omega)
            obtain ⟨rest, restFilled, restPerm⟩ := ihRows (filled ++ row.1 :: first)
              fun other member => members other (by simp [member])
            refine ⟨row.1 :: first ++ rest, ?_, ?_⟩
            · simp [firstFilled, restFilled]
            · simp only [List.flatMap_cons]
              exact (firstPerm.cons row.1).append restPerm
      cases hub : devices.isUsbHub device with
      | false =>
          rw [leaf hub]
          exact ⟨[], by simp [fillDeviceList, hub], List.Perm.nil⟩
      | true =>
          obtain ⟨rows, rowsPerm, attached⟩ := attached_devices devices holds
          obtain ⟨below, filled, perm⟩ := rowsFilled rows (list ++ [device])
            fun row member => rowsPerm.mem_iff.mp member
          refine ⟨below, ?_, ?_⟩
          · simp only [fillDeviceList, hub, if_true, attached, filled]
            simp
          · rw [ports.items_eq_rows]
            exact perm.trans (rowsPerm.flatMap_right _)

/-! ### One reported device -/

/-- What a part of the walk does to the heap: it creates objects with empty
ports, extends hubs, and gives each placed device its port. Nothing is
attached or detached. -/
structure Walked (before after : Heap) (created : List Ref)
    (placed : List (Ref × UsbPortImp)) : Prop where
  attached : ∀ port, port.hub ∉ created → after.attached port = before.attached port
  empty : ∀ port, port.hub ∈ created → after.attached port = none
  port : ∀ device, device ∉ created → after.usbPortImp device = before.usbPortImp device
  grown : ∀ device, device ∉ created → before.numberOfPorts device ≤ after.numberOfPorts device
  placed : ∀ entry ∈ placed, after.usbPortImp entry.1 = some entry.2 ∧
    entry.2.number ≤ after.numberOfPorts entry.2.hub

theorem Walked.refl (heap : Heap) : Walked heap heap [] [] where
  attached _ _ := rfl
  empty _ member := absurd member (List.not_mem_nil)
  port _ _ := rfl
  grown _ _ := le_refl _
  placed _ member := absurd member (List.not_mem_nil)

theorem Walked.trans {first second third : Heap} {created more : List Ref}
    {placed further : List (Ref × UsbPortImp)}
    (before : Walked first second created placed) (after : Walked second third more further)
    (apart : ∀ device ∈ created, device ∉ more)
    (own : ∀ entry ∈ placed, entry.1 ∈ created ∧ entry.2.hub ∉ more) :
    Walked first third (created ++ more) (placed ++ further) where
  attached port outside := by
    simp only [List.mem_append, not_or] at outside
    rw [after.attached port outside.2, before.attached port outside.1]
  empty port member := by
    rcases List.mem_append.mp member with early | late
    · rw [after.attached port (apart _ early), before.empty port early]
    · exact after.empty port late
  port device outside := by
    simp only [List.mem_append, not_or] at outside
    rw [after.port device outside.2, before.port device outside.1]
  grown device outside := by
    simp only [List.mem_append, not_or] at outside
    exact (before.grown device outside.1).trans (after.grown device outside.2)
  placed entry member := by
    rcases List.mem_append.mp member with early | late
    · have known := before.placed entry early
      have ownHub := own entry early
      refine ⟨?_, known.2.trans (after.grown _ ownHub.2)⟩
      rw [after.port _ (apart _ ownHub.1), known.1]
    · exact after.placed entry late

theorem Walked.same_on {before after : Heap} {created : List Ref}
    {placed : List (Ref × UsbPortImp)} (walked : Walked before after created placed)
    (hub : Ref) (index : Nat) (members : List Ref) (outside : hub ∉ created)
    (apart : ∀ device ∈ members, device ∉ created) : SameOn before after hub index members where
  own _ _ := walked.attached _ outside
  grown := walked.grown hub outside
  below device member _ := walked.attached _ (apart device member)
  belowGrown device member := walked.grown device (apart device member)
  port device member := walked.port device (apart device member)

theorem obtain_usb_port_imp_spec (heap : Heap) (hub : Ref) (index : Nat) (small : index + 1 ≤ 127) :
    ∃ after, obtainUsbPortImp heap hub (javaByte (index + 1)) = some (⟨hub, index + 1⟩, after) ∧
      after.attached = heap.attached ∧ after.usbPortImp = heap.usbPortImp ∧
      (∀ device, heap.numberOfPorts device ≤ after.numberOfPorts device) ∧
      index + 1 ≤ after.numberOfPorts hub := by
  rw [java_byte_of_le small]
  by_cases inRange : index + 1 ≤ heap.numberOfPorts hub
  · refine ⟨heap, ?_, rfl, rfl, fun _ => le_refl _, inRange⟩
    have known : heap.getUsbPortImp hub ((index + 1 : Nat) : Int) = some ⟨hub, index + 1⟩ := by
      rw [Heap.getUsbPortImp, if_pos ⟨by omega, by exact_mod_cast inRange⟩, Int.toNat_natCast]
    simp only [obtainUsbPortImp, known]
  · refine ⟨heap.resize hub (index + 1 : Nat), ?_, rfl, rfl, ?_, ?_⟩
    · have thrown : heap.getUsbPortImp hub ((index + 1 : Nat) : Int) = none := by
        rw [Heap.getUsbPortImp, if_neg]
        rintro ⟨_, bound⟩
        exact inRange (by exact_mod_cast bound)
      have found : (heap.resize hub (index + 1 : Nat)).getUsbPortImp hub ((index + 1 : Nat) : Int) =
          some ⟨hub, index + 1⟩ := by
        rw [Heap.getUsbPortImp, if_pos ⟨by omega, by simp [Heap.resize]⟩, Int.toNat_natCast]
      simp only [obtainUsbPortImp, thrown, found, Option.map_some]
    · intro device
      simp only [Heap.resize, Function.update_apply]
      split_ifs with isHub
      · subst isHub
        omega
      · exact le_refl _
    · simp [Heap.resize]

theorem check_met (devices : Devices Content) (state : WalkState) (hub : Ref) (index : Nat)
    (small : index + 1 ≤ 127) {old : Ports Ref} (holds : Holds devices state.heap hub index old)
    (built : Ref) {found : Ref} {under : Ports Ref}
    (meets : old.meet devices.same built = some (found, under)) :
    ∃ after, checkUsbDeviceImp devices hub (index + 1) built state =
        some (found, ⟨after, state.connected,
          removeEqual devices.same state.disconnected found⟩) ∧
      after.attached = state.heap.attached ∧ after.usbPortImp = state.heap.usbPortImp ∧
      ∀ device, state.heap.numberOfPorts device ≤ after.numberOfPorts device := by
  obtain ⟨after, obtained, attached, ports, grown, _⟩ :=
    obtain_usb_port_imp_spec state.heap hub index small
  refine ⟨after, ?_, attached, ports, grown⟩
  obtain ⟨present, equal⟩ := (Ports.meet_eq_some devices.same).mp meets
  have slot := held_slot devices holds 0
  rw [present, Nat.add_zero] at slot
  have here : after.attached ⟨hub, index + 1⟩ = some found := by
    rw [attached]
    exact slot.1.attached
  simp [checkUsbDeviceImp, obtained, Heap.isUsbDeviceAttached, Heap.getUsbDeviceImp, here, equal]

theorem check_unmet (devices : Devices Content) (state : WalkState) (hub : Ref) (index : Nat)
    (small : index + 1 ≤ 127) {old : Ports Ref} (holds : Holds devices state.heap hub index old)
    (built : Ref) (meets : old.meet devices.same built = none) :
    ∃ after, checkUsbDeviceImp devices hub (index + 1) built state =
        some (built, ⟨after, state.connected ++ [built], state.disconnected⟩) ∧
      after.attached = state.heap.attached ∧
      after.usbPortImp = Function.update state.heap.usbPortImp built (some ⟨hub, index + 1⟩) ∧
      (∀ device, state.heap.numberOfPorts device ≤ after.numberOfPorts device) ∧
      index + 1 ≤ after.numberOfPorts hub := by
  obtain ⟨after, obtained, attached, ports, grown, counted⟩ :=
    obtain_usb_port_imp_spec state.heap hub index small
  refine ⟨after.setUsbPortImp built ⟨hub, index + 1⟩, ?_, attached, ?_, grown, counted⟩
  · have slot := held_slot devices holds 0
    rw [Nat.add_zero] at slot
    cases present : old.slot 0 with
    | none =>
        rw [present] at slot
        have here : after.attached ⟨hub, index + 1⟩ = none := by rw [attached]; exact slot
        simp [checkUsbDeviceImp, obtained, Heap.isUsbDeviceAttached, here, connectDevice]
    | some pair =>
        rw [present] at slot
        have here : after.attached ⟨hub, index + 1⟩ = some pair.1 := by
          rw [attached]
          exact slot.1.attached
        have different := (Ports.meet_eq_none devices.same).mp meets pair.1 pair.2 present
        simp [checkUsbDeviceImp, obtained, Heap.isUsbDeviceAttached, Heap.getUsbDeviceImp, here,
          different, connectDevice]
  · rw [← ports]
    rfl

theorem create_imp_walked (devices : Devices Content) (heap : Heap) (built : Ref) (nports : Nat) :
    Walked heap (createImp devices heap built nports) [built] [] := by
  have hubCase : ∀ ports, Walked heap (heap.createUsbHubImp built ports) [built] [] := by
    intro ports
    refine ⟨?_, ?_, ?_, ?_, fun _ member => absurd member List.not_mem_nil⟩
    · intro port outside
      simp [Heap.createUsbHubImp, List.mem_singleton.not.mp outside]
    · intro port inside
      simp [Heap.createUsbHubImp, List.mem_singleton.mp inside]
    · intro device outside
      simp [Heap.createUsbHubImp, List.mem_singleton.not.mp outside]
    · intro device outside
      simp [Heap.createUsbHubImp, List.mem_singleton.not.mp outside]
  unfold createImp
  split_ifs
  · exact hubCase nports
  · exact hubCase 0

theorem build_device_spec (devices : Devices Content)
    (visitBelow : Ref → WalkState → Option WalkState) (hub : Ref) (index : Nat)
    (small : index + 1 ≤ 127) (old : Ports Ref) (built : Ref) (nports : Nat) (state : WalkState)
    (holds : Holds devices state.heap hub index old) (outside : hub ≠ built)
    (apart : ∀ device ∈ old.items, device ≠ built) :
    match old.meet devices.same built with
    | some (found, _) => ∃ heap,
        buildDevice devices visitBelow hub index built nports state =
          (let checked : WalkState := ⟨heap, state.connected,
            removeEqual devices.same state.disconnected found⟩
          if devices.isUsbHub built then visitBelow found checked else some checked) ∧
        Walked state.heap heap [built] []
    | none => ∃ heap,
        buildDevice devices visitBelow hub index built nports state =
          (let checked : WalkState := ⟨heap, state.connected ++ [built], state.disconnected⟩
          if devices.isUsbHub built then visitBelow built checked else some checked) ∧
        Walked state.heap heap [built] [(built, ⟨hub, index + 1⟩)] := by
  have fresh := create_imp_walked devices state.heap built nports
  have held : Holds devices (createImp devices state.heap built nports) hub index old :=
    holds_frame devices holds (fresh.same_on hub index old.items
      (by simpa using outside) fun device member => by simpa using apart device member)
  cases meets : old.meet devices.same built with
  | some pair =>
      obtain ⟨after, checked, attached, ports, grown⟩ :=
        check_met devices { state with heap := createImp devices state.heap built nports }
          hub index small held built meets
      refine ⟨after, ?_, ?_⟩
      · simp only [buildDevice, checked, Option.bind_eq_bind, Option.bind_some]
        rfl
      · refine ⟨?_, ?_, ?_, ?_, fun _ member => absurd member List.not_mem_nil⟩
        · intro port away
          rw [attached, fresh.attached port away]
        · intro port inside
          rw [attached, fresh.empty port inside]
        · intro device away
          rw [ports, fresh.port device away]
        · intro device away
          exact (fresh.grown device away).trans (grown device)
  | none =>
      obtain ⟨after, checked, attached, ports, grown, counted⟩ :=
        check_unmet devices { state with heap := createImp devices state.heap built nports }
          hub index small held built meets
      refine ⟨after, ?_, ?_⟩
      · simp only [buildDevice, checked, Option.bind_eq_bind, Option.bind_some]
        rfl
      · refine ⟨?_, ?_, ?_, ?_, ?_⟩
        · intro port away
          rw [attached, fresh.attached port away]
        · intro port inside
          rw [attached, fresh.empty port inside]
        · intro device away
          rw [ports, Function.update_apply, if_neg (List.mem_singleton.not.mp away),
            fresh.port device away]
        · intro device away
          exact (fresh.grown device away).trans (grown device)
        · intro entry member
          rw [List.mem_singleton.mp member]
          exact ⟨by rw [ports, Function.update_self], counted⟩

/-! ### The whole walk -/

/-- The walk goes on below `target`, whose ports carry `under`: this is a
retained hub with its old ports, or the new object with empty ones. -/
structure Entered (devices : Devices Content) (old : Ports Ref) (built target : Ref)
    (under : Ports Ref) (keptHead addedHead : List Ref) (placed : List (Ref × UsbPortImp))
    (hub : Ref) (index : Nat) : Prop where
  kept : ∀ below rest, Ports.kept devices.same old (.occupied built below rest) =
    keptHead ++ Ports.kept devices.same under below ++ Ports.kept devices.same old.rest rest
  added : ∀ below rest, Ports.added devices.same old (.occupied built below rest) =
    addedHead ++ Ports.added devices.same under below ++ Ports.added devices.same old.rest rest
  placements : ∀ below rest, placements devices.same hub index old (.occupied built below rest) =
    placed ++ TopologyWalk.placements devices.same target 0 under below ++
      TopologyWalk.placements devices.same hub (index + 1) old.rest rest
  own : ∀ entry ∈ placed, entry.1 = built ∧ entry.2.hub = hub
  scope : ∀ device, device = target ∨ device ∈ under.items → device = built ∨ device ∈ old.items

namespace Entered

variable {devices : Devices Content} {old under : Ports Ref} {built target hub : Ref}
variable {keptHead addedHead : List Ref} {placed : List (Ref × UsbPortImp)} {index : Nat}

theorem away (entered : Entered devices old built target under keptHead addedHead placed hub index)
    {device : Ref} (notBuilt : device ≠ built) (notOld : device ∉ old.items) :
    device ≠ target ∧ device ∉ under.items := by
  constructor
  · intro same
    exact (entered.scope device (Or.inl same)).elim notBuilt notOld
  · intro inUnder
    exact (entered.scope device (Or.inr inUnder)).elim notBuilt notOld

/-- The devices placed on this port and below it are created there, on hubs
that are none of those reported on later ports. -/
theorem placed_apart
    (entered : Entered devices old built target under keptHead addedHead placed hub index)
    {below rest : Ports Ref} (builtRest : built ∉ rest.items) (hubRest : hub ∉ rest.items)
    (oldRest : ∀ device ∈ old.items, device ∉ rest.items)
    (belowRest : ∀ device ∈ below.items, device ∉ rest.items) :
    ∀ entry ∈ placed ++ TopologyWalk.placements devices.same target 0 under below,
      entry.1 ∈ [built] ++ below.items ∧ entry.2.hub ∉ rest.items := by
  have unseen : ∀ device, device = target ∨ device ∈ under.items → device ∉ rest.items := by
    intro device inside
    rcases entered.scope device inside with same | inOld
    · rw [same]
      exact builtRest
    · exact oldRest device inOld
  intro entry member
  rcases List.mem_append.mp member with head | later
  · obtain ⟨isBuilt, onHub⟩ := entered.own entry head
    rw [isBuilt, onHub]
    exact ⟨by simp, hubRest⟩
  · refine ⟨List.mem_append.mpr (Or.inr (placed_mem later)), ?_⟩
    rcases placements_port devices.same target 0 under below entry later with
      here | inUnder | inBelow
    · exact unseen _ (Or.inl here.1)
    · exact unseen _ (Or.inr inUnder)
    · exact belowRest _ inBelow

end Entered

theorem holds_rest (devices : Devices Content) {heap : Heap} {hub : Ref} {index : Nat}
    {old : Ports Ref} (holds : Holds devices heap hub index old) :
    Holds devices heap hub (index + 1) old.rest := by
  cases old with
  | done => exact fun number bound => holds number (by omega)
  | vacant tail => exact holds.2
  | occupied device below tail => exact holds.2.2

theorem visit_step (devices : Devices Content) (hub : Ref) (index : Nat)
    (small : index + 1 ≤ 127) (old : Ports Ref) (built : Ref) (below : Ports Ref)
    (leaf : devices.isUsbHub built = false → below = .done) (state : WalkState)
    (holds : Holds devices state.heap hub index old) (outside : hub ≠ built)
    (apart : ∀ device ∈ old.items, device ≠ built) :
    ∃ target under keptHead addedHead placed heap,
      Entered devices old built target under keptHead addedHead placed hub index ∧
        buildDevice devices (fun device => visitPorts devices device 0 below) hub index built
            below.width state =
          visitPorts devices target 0 below ⟨heap, state.connected ++ addedHead,
            removeEach devices.same state.disconnected keptHead⟩ ∧
        Walked state.heap heap [built] placed ∧ Holds devices heap target 0 under := by
  have enter : ∀ (target : Ref) (checked : WalkState),
      (if devices.isUsbHub built then visitPorts devices target 0 below checked else some checked) =
        visitPorts devices target 0 below checked := by
    intro target checked
    split_ifs with isHub
    · rfl
    · rw [leaf (by simpa using isHub)]
      rfl
  have step := build_device_spec devices (fun device => visitPorts devices device 0 below) hub
    index small old built below.width state holds outside apart
  cases meets : old.meet devices.same built with
  | some pair =>
      obtain ⟨found, under⟩ := pair
      rw [meets] at step
      obtain ⟨heap, built_, walked⟩ := step
      have present := ((Ports.meet_eq_some devices.same).mp meets).1
      have shape := Ports.slot_zero_some.mp present
      have scope : ∀ device, device = found ∨ device ∈ under.items → device ∈ old.items := by
        intro device inside
        rw [shape]
        rcases inside with same | inside
        · simp [Ports.items, same]
        · simp [Ports.items, inside]
      have slot := held_slot devices holds 0
      rw [present] at slot
      refine ⟨found, under, [found], [], [], heap, ⟨?_, ?_, ?_, ?_, ?_⟩, ?_, walked, ?_⟩
      · intro below rest
        simp [Ports.kept, meets]
      · intro below rest
        simp [Ports.added, meets]
      · intro below rest
        simp [placements, meets]
      · intro entry member
        simp at member
      · intro device inside
        exact Or.inr (scope device inside)
      · rw [built_]
        simpa [removeEach] using enter found _
      · refine holds_frame devices slot.2 (walked.same_on found 0 under.items ?_ ?_)
        · simpa using apart found (scope found (Or.inl rfl))
        · intro device member
          simpa using apart device (scope device (Or.inr member))
  | none =>
      rw [meets] at step
      obtain ⟨heap, built_, walked⟩ := step
      refine ⟨built, .done, [], [built], [(built, ⟨hub, index + 1⟩)], heap, ⟨?_, ?_, ?_, ?_, ?_⟩,
        ?_, walked, ?_⟩
      · intro below rest
        simp [Ports.kept, meets]
      · intro below rest
        simp [Ports.added, meets]
      · intro below rest
        simp [placements, meets]
      · intro entry member
        rw [List.mem_singleton.mp member]
        exact ⟨rfl, rfl⟩
      · intro device inside
        exact Or.inl (by simpa [Ports.items] using inside)
      · rw [built_]
        simpa [removeEach] using enter built _
      · intro number _
        exact walked.empty _ (by simp)

/-- The walk computes the port-by-port comparison of the two forests: it
connects what meets nothing and removes what is retained from the disconnected
list, by equality. The induction follows the scanned forest. -/
theorem visit_ports_spec (devices : Devices Content) (scan : Ports Ref) (hub : Ref) (index : Nat)
    (old : Ports Ref) (state : WalkState)
    (holds : Holds devices state.heap hub index old) (reported : Reported devices scan)
    (narrow : index + scan.width ≤ 127) (distinct : scan.items.Nodup)
    (apart : ∀ device ∈ scan.items, device ≠ hub ∧ device ∉ old.items) :
    ∃ heap, visitPorts devices hub index scan state =
        some ⟨heap, state.connected ++ Ports.added devices.same old scan,
          removeEach devices.same state.disconnected (Ports.kept devices.same old scan)⟩ ∧
      Walked state.heap heap scan.items (placements devices.same hub index old scan) := by
  induction scan generalizing hub index old state with
  | done =>
      exact ⟨state.heap, by simp [visitPorts, Ports.added, Ports.kept, removeEach],
        Walked.refl state.heap⟩
  | vacant rest ih =>
      refine ih hub (index + 1) old.rest state (holds_rest devices holds) reported ?_ distinct ?_
      · simp only [Ports.width] at narrow
        omega
      · intro device member
        exact ⟨(apart device member).1, fun inRest =>
          (apart device member).2 ((Ports.rest_items old).subset inRest)⟩
  | occupied built below rest ihBelow ihRest =>
      obtain ⟨narrowBelow, leaf, reportedBelow, reportedRest⟩ := reported
      simp only [Ports.width] at narrow
      simp only [Ports.items, List.nodup_cons, List.mem_append, not_or,
        List.nodup_append] at distinct
      obtain ⟨⟨builtBelow, builtRest⟩, distinctBelow, distinctRest, disjoint⟩ := distinct
      have builtApart := apart built (by simp [Ports.items])
      have belowApart : ∀ device ∈ below.items, device ≠ hub ∧ device ∉ old.items :=
        fun device member => apart device (by simp [Ports.items, member])
      have restApart : ∀ device ∈ rest.items, device ≠ hub ∧ device ∉ old.items :=
        fun device member => apart device (by simp [Ports.items, member])
      obtain ⟨target, under, keptHead, addedHead, placed, entry, entered, stepped, walkedStep,
        holdsUnder⟩ := visit_step devices hub index (by omega) old built below leaf state holds
          builtApart.1.symm fun device member same => builtApart.2 (same ▸ member)
      obtain ⟨lower, visitedBelow, walkedBelow⟩ := ihBelow target 0 under
        ⟨entry, state.connected ++ addedHead, removeEach devices.same state.disconnected keptHead⟩
        holdsUnder reportedBelow (by omega) distinctBelow fun device member =>
          entered.away (fun same => builtBelow (same ▸ member)) (belowApart device member).2
      have walkedHere := walkedStep.trans walkedBelow
        (fun device member => by rw [List.mem_singleton.mp member]; exact builtBelow)
        fun entry member => by
          have own := entered.own entry member
          refine ⟨by simp [own.1], ?_⟩
          rw [own.2]
          exact fun inBelow => (belowApart hub inBelow).1 rfl
      have createdApart : ∀ device, device = hub ∨ device ∈ old.rest.items →
          device ∉ [built] ++ below.items := by
        intro device inside created
        have inBelow : device = built ∨ device ∈ below.items := by simpa using created
        have unknown : device ≠ hub ∧ device ∉ old.items := by
          rcases inBelow with same | inBelow
          · rw [same]
            exact builtApart
          · exact belowApart device inBelow
        exact inside.elim unknown.1 fun inRest => unknown.2 ((Ports.rest_items old).subset inRest)
      have holdsRest : Holds devices lower hub (index + 1) old.rest :=
        holds_frame devices (holds_rest devices holds) (walkedHere.same_on hub (index + 1)
          old.rest.items (createdApart hub (Or.inl rfl))
          fun device member => createdApart device (Or.inr member))
      obtain ⟨heap, visitedRest, walkedRest⟩ := ihRest hub (index + 1) old.rest
        ⟨lower, state.connected ++ addedHead ++ Ports.added devices.same under below,
          removeEach devices.same (removeEach devices.same state.disconnected keptHead)
            (Ports.kept devices.same under below)⟩
        holdsRest reportedRest (by omega) distinctRest fun device member =>
          ⟨(restApart device member).1, fun inRest =>
            (restApart device member).2 ((Ports.rest_items old).subset inRest)⟩
      refine ⟨heap, ?_, ?_⟩
      · rw [visitPorts, Option.bind_eq_bind, stepped, visitedBelow, Option.bind_some, visitedRest,
          entered.kept, entered.added, remove_each_append, remove_each_append]
        simp only [List.append_assoc]
      · rw [entered.placements]
        refine walkedHere.trans walkedRest ?_ ?_
        · intro device member inRest
          have inBelow : device = built ∨ device ∈ below.items := by simpa using member
          rcases inBelow with same | inBelow
          · exact builtRest (same ▸ inRest)
          · exact disjoint device inBelow device inRest rfl
        · apply entered.placed_apart
          · exact builtRest
          · exact fun inRest => (restApart hub inRest).1 rfl
          · exact fun device inOld inRest => (restApart device inRest).2 inOld
          · exact fun device inBelow inRest => disjoint device inBelow device inRest rfl

end JavaxUsbLinux.TopologyWalk
