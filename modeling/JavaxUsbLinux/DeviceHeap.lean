import Mathlib.Logic.Function.Basic
import Mathlib.Data.List.Range
import JavaxUsbLinux.EqualRemoval
import JavaxUsbLinux.PortForest

/-!
# Device objects and the ports that hold them

`UsbDeviceImp`, `UsbHubImp` and `UsbPortImp` come from the common jar, which is
not part of this repository. They are modelled as far as the topology code uses
them: objects with an identity, contents that `equals` compares, a native key,
and for each hub a row of ports. `Holds` says that the objects below a hub form
a given forest; it depends on the ports of these objects only.
-/

namespace JavaxUsbLinux.DeviceHeap

open JavaxUsbLinux.EqualRemoval
open JavaxUsbLinux.PortForest

set_option autoImplicit false

abbrev Ref := Nat

/-- A port object is the port of one hub with one number, counted from 1. -/
structure UsbPortImp where
  hub : Ref
  number : Nat
  deriving DecidableEq

/-- What the topology code relies on in the common jar: `equals` compares
device contents and these fix the class of the object. A hub lists the devices
on its ports in an order of its own. -/
structure CommonJar (Content : Type*) where
  equals : Content → Content → Bool
  isUsbHub : Content → Bool
  portOrder : Nat → List Nat
  equals_law : EqualityLaw equals
  hub_of_equals : ∀ left right, equals left right = true → isUsbHub left = isUsbHub right
  port_order_perm : ∀ ports, (portOrder ports).Perm (List.range ports)

/-- The device objects. An object gets its contents and its key while it is
built, before any other code sees it, and keeps them. -/
structure Devices (Content : Type*) where
  jar : CommonJar Content
  content : Ref → Content
  key : Ref → String

namespace Devices

variable {Content : Type*}

def isUsbHub (devices : Devices Content) (device : Ref) : Bool :=
  devices.jar.isUsbHub (devices.content device)

def same (devices : Devices Content) (left right : Ref) : Bool :=
  devices.jar.equals (devices.content left) (devices.content right)

theorem same_law (devices : Devices Content) : EqualityLaw devices.same where
  refl device := devices.jar.equals_law.refl (devices.content device)
  symm equal := devices.jar.equals_law.symm equal
  trans first second := devices.jar.equals_law.trans first second

theorem same_comm (devices : Devices Content) (left right : Ref) :
    devices.same left right = devices.same right left := by
  rw [Bool.eq_iff_iff]
  exact ⟨devices.same_law.symm, devices.same_law.symm⟩

theorem hub_of_same (devices : Devices Content) {left right : Ref}
    (equal : devices.same left right = true) : devices.isUsbHub left = devices.isUsbHub right :=
  devices.jar.hub_of_equals _ _ equal

end Devices

/-- The mutable part: which ports a hub has, what is attached to them, and
the port that each device object knows as its own. -/
structure Heap where
  numberOfPorts : Ref → Nat
  attached : UsbPortImp → Option Ref
  usbPortImp : Ref → Option UsbPortImp

namespace Heap

/-- `hub.getUsbPortImp(port)`; `none` is the `UsbRuntimeException` for a number
outside the hub's ports. -/
def getUsbPortImp (heap : Heap) (hub : Ref) (port : Int) : Option UsbPortImp :=
  if 0 < port ∧ port ≤ heap.numberOfPorts hub then some ⟨hub, port.toNat⟩ else none

def resize (heap : Heap) (hub : Ref) (ports : Int) : Heap :=
  { heap with numberOfPorts := Function.update heap.numberOfPorts hub ports.toNat }

def isUsbDeviceAttached (heap : Heap) (port : UsbPortImp) : Bool :=
  (heap.attached port).isSome

def getUsbDeviceImp (heap : Heap) (port : UsbPortImp) : Option Ref :=
  heap.attached port

def setUsbPortImp (heap : Heap) (device : Ref) (port : UsbPortImp) : Heap :=
  { heap with usbPortImp := Function.update heap.usbPortImp device (some port) }

def attachUsbDeviceImp (heap : Heap) (port : UsbPortImp) (device : Ref) : Heap :=
  { heap with attached := Function.update heap.attached port (some device) }

/-- `device.disconnect()` empties the device's own port; `none` is the
`NullPointerException` of a device that was never given a port. -/
def disconnect (heap : Heap) (device : Ref) : Option Heap :=
  (heap.usbPortImp device).map fun port =>
    { heap with attached := Function.update heap.attached port none }

def createUsbHubImp (heap : Heap) (device : Ref) (maxPorts : Nat) : Heap where
  numberOfPorts := Function.update heap.numberOfPorts device maxPorts
  attached := fun port => if port.hub = device then none else heap.attached port
  usbPortImp := Function.update heap.usbPortImp device none

def createUsbDeviceImp (heap : Heap) (device : Ref) : Heap :=
  heap.createUsbHubImp device 0

def getAttachedUsbDevices {Content : Type*} (jar : CommonJar Content) (heap : Heap)
    (hub : Ref) : List Ref :=
  (jar.portOrder (heap.numberOfPorts hub)).filterMap fun index => heap.attached ⟨hub, index + 1⟩

def deviceAt (heap : Heap) : List Nat → Ref → Option Ref
  | [], _ => none
  | index :: path, hub =>
      match heap.attached ⟨hub, index + 1⟩ with
      | none => none
      | some device => if path = [] then some device else deviceAt heap path device

inductive InTree (heap : Heap) (root : Ref) : Ref → Prop
  | root : InTree heap root root
  | step {hub device : Ref} {number : Nat} (above : InTree heap root hub)
      (attached : heap.attached ⟨hub, number⟩ = some device) : InTree heap root device

end Heap

variable {Content : Type*}

/-- `device` sits on the given port, knows it, and has nothing below it unless it is a hub. -/
structure Plugged (devices : Devices Content) (heap : Heap) (port : UsbPortImp)
    (device : Ref) (below : Ports Ref) : Prop where
  attached : heap.attached port = some device
  known : heap.usbPortImp device = some port
  counted : port.number ≤ heap.numberOfPorts port.hub
  leaf : devices.isUsbHub device = false → below = .done

/-- From the port after `index` on, the ports of `hub` carry the given forest. -/
def Holds (devices : Devices Content) (heap : Heap) : Ref → Nat → Ports Ref → Prop
  | hub, index, .done => ∀ number, index < number → heap.attached ⟨hub, number⟩ = none
  | hub, index, .vacant rest =>
      heap.attached ⟨hub, index + 1⟩ = none ∧ Holds devices heap hub (index + 1) rest
  | hub, index, .occupied device below rest =>
      Plugged devices heap ⟨hub, index + 1⟩ device below ∧ Holds devices heap device 0 below ∧
        Holds devices heap hub (index + 1) rest

structure SameOn (before after : Heap) (hub : Ref) (index : Nat)
    (members : List Ref) : Prop where
  own : ∀ number, index < number →
    after.attached ⟨hub, number⟩ = before.attached ⟨hub, number⟩
  grown : before.numberOfPorts hub ≤ after.numberOfPorts hub
  below : ∀ device ∈ members, ∀ number,
    after.attached ⟨device, number⟩ = before.attached ⟨device, number⟩
  belowGrown : ∀ device ∈ members, before.numberOfPorts device ≤ after.numberOfPorts device
  port : ∀ device ∈ members, after.usbPortImp device = before.usbPortImp device

theorem SameOn.mono {before after : Heap} {hub : Ref} {index later : Nat}
    {members fewer : List Ref} (same : SameOn before after hub index members)
    (beyond : index ≤ later) (subset : ∀ device ∈ fewer, device ∈ members) :
    SameOn before after hub later fewer where
  own number bound := same.own number (by omega)
  grown := same.grown
  below device member := same.below device (subset device member)
  belowGrown device member := same.belowGrown device (subset device member)
  port device member := same.port device (subset device member)

theorem SameOn.down {before after : Heap} {hub : Ref} {index : Nat}
    {members fewer : List Ref} (same : SameOn before after hub index members)
    {device : Ref} (member : device ∈ members) (subset : ∀ device ∈ fewer, device ∈ members) :
    SameOn before after device 0 fewer where
  own number _ := same.below device member number
  grown := same.belowGrown device member
  below device member := same.below device (subset device member)
  belowGrown device member := same.belowGrown device (subset device member)
  port device member := same.port device (subset device member)

theorem holds_frame (devices : Devices Content) {before after : Heap}
    {hub : Ref} {index : Nat} {ports : Ports Ref}
    (holds : Holds devices before hub index ports)
    (same : SameOn before after hub index ports.items) :
    Holds devices after hub index ports := by
  induction ports generalizing hub index with
  | done =>
      intro number bound
      rw [same.own number bound]
      exact holds number bound
  | vacant rest ih =>
      refine ⟨?_, ih holds.2 (same.mono (by omega) fun _ member => member)⟩
      rw [same.own _ (by omega)]
      exact holds.1
  | occupied device below rest ihBelow ihRest =>
      obtain ⟨plugged, holdsBelow, holdsRest⟩ := holds
      have here : device ∈ (Ports.occupied device below rest).items := by simp [Ports.items]
      have belowSubset : ∀ item ∈ below.items, item ∈ (Ports.occupied device below rest).items := by
        intro item member
        simp [Ports.items, member]
      have restSubset : ∀ item ∈ rest.items, item ∈ (Ports.occupied device below rest).items := by
        intro item member
        simp [Ports.items, member]
      refine ⟨⟨?_, ?_, ?_, ?_⟩, ihBelow holdsBelow (same.down here belowSubset),
        ihRest holdsRest (same.mono (by omega) restSubset)⟩
      · rw [same.own _ (by omega)]
        exact plugged.attached
      · rw [same.port device here]
        exact plugged.known
      · exact plugged.counted.trans same.grown
      · exact plugged.leaf

theorem holds_attached (devices : Devices Content) {heap : Heap} {hub : Ref}
    {index : Nat} {ports : Ports Ref} (holds : Holds devices heap hub index ports)
    (device : Ref) (member : device ∈ ports.items) :
    ∃ port, heap.usbPortImp device = some port ∧ heap.attached port = some device := by
  induction ports generalizing hub index with
  | done => simp [Ports.items] at member
  | vacant rest ih => exact ih holds.2 member
  | occupied head below rest ihBelow ihRest =>
      obtain ⟨plugged, holdsBelow, holdsRest⟩ := holds
      simp only [Ports.items, List.mem_cons, List.mem_append] at member
      rcases member with rfl | member | member
      · exact ⟨_, plugged.known, plugged.attached⟩
      · exact ihBelow holdsBelow member
      · exact ihRest holdsRest member

theorem held_slot (devices : Devices Content) {heap : Heap} {hub : Ref}
    {index : Nat} {ports : Ports Ref} (holds : Holds devices heap hub index ports) (offset : Nat) :
    match ports.slot offset with
    | none => heap.attached ⟨hub, index + offset + 1⟩ = none
    | some (device, below) =>
        Plugged devices heap ⟨hub, index + offset + 1⟩ device below ∧
          Holds devices heap device 0 below := by
  induction ports generalizing index offset with
  | done => exact holds _ (by omega)
  | vacant rest ih =>
      cases offset with
      | zero => exact holds.1
      | succ offset =>
          have later := ih holds.2 offset
          rwa [show index + 1 + offset = index + (offset + 1) by omega] at later
  | occupied device below rest _ ihRest =>
      cases offset with
      | zero => exact ⟨holds.1, holds.2.1⟩
      | succ offset =>
          have later := ihRest holds.2.2 offset
          rwa [show index + 1 + offset = index + (offset + 1) by omega] at later

/-- Following ports through the heap is following them through the held forest. -/
theorem device_at_of_holds (devices : Devices Content) {heap : Heap} {hub : Ref}
    {ports : Ports Ref} (holds : Holds devices heap hub 0 ports) (path : List Nat) :
    heap.deviceAt path hub = ports.itemAt path := by
  induction path generalizing hub ports with
  | nil => simp [Heap.deviceAt, Ports.itemAt]
  | cons index path ih =>
      have slot := held_slot devices holds index
      rw [Nat.zero_add] at slot
      cases found : ports.slot index with
      | none =>
          rw [found] at slot
          simp [Heap.deviceAt, Ports.itemAt, found, slot]
      | some pair =>
          rw [found] at slot
          simp [Heap.deviceAt, Ports.itemAt, found, slot.1.attached, ih slot.2]

end JavaxUsbLinux.DeviceHeap
