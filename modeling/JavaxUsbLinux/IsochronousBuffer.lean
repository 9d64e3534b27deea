import Mathlib.Algebra.Ring.Int.Defs
import Mathlib.Data.List.GetD
import JavaxUsbLinux.ByteBlocks
import JavaxUsbLinux.Descriptors
import JavaxUsbLinux.LinuxRequests

/-!
# The packets of an isochronous request

`isochronous_request` copies the arrays of all packets into one buffer and notes
the length of each in a frame descriptor. When the URB is back, the packets are
copied out of the buffer into the same arrays. Both loops run their own offset,
and Java adds up the size of the buffer.
-/

namespace JavaxUsbLinux.IsochronousBuffer

open JavaxUsbLinux.ByteBlocks
open JavaxUsbLinux.Descriptors (Buffer)
open JavaxUsbLinux.LinuxRequests (UsbException nativeGetErrorMessage)
open JavaxUsbLinux.NativeUrb

set_option autoImplicit false

/-! ### Numbers -/

def asInt (value : Int) : Int := Int.bmod value (2 ^ 32)

/-- An `int` as a `size_t` or as a distance of addresses; these have 32 bits. -/
def asSize (value : Int) : Nat := (value % 2 ^ 32).toNat

theorem as_size_as_int (value : Int) : asSize (asInt value) = asSize value := by
  unfold asSize asInt
  have same : Int.bmod value (2 ^ 32) % (2 ^ 32 : Nat) = value % (2 ^ 32 : Nat) := Int.bmod_emod
  exact congrArg Int.toNat same

theorem as_size_nat (value : Nat) : asSize value = value % 2 ^ 32 := by
  unfold asSize
  omega

theorem as_int_nat {value : Nat} (small : value < 2 ^ 31) : asInt value = value := by
  apply Int.bmod_eq_of_le <;> omega

theorem as_size_add (value : Int) {sum : Nat} (kept : asSize value = sum % 2 ^ 32) (more : Nat) :
    asSize (asInt (value + more)) = (sum + more) % 2 ^ 32 := by
  rw [as_size_as_int]
  unfold asSize at kept ⊢
  omega

/-! ### The request and the URB -/

/-- What the code takes from the kernel headers: the sizes of `struct usbdevfs_urb`
and `struct usbdevfs_iso_packet_desc`, and whether a frame's status is signed. -/
structure Headers where
  urbSize : Nat
  isoPacketDescSize : Nat
  statusSigned : Bool

abbrev ArrayRef := Nat

abbrev Arrays := ArrayRef → List UInt8

structure UsbIrpImp where
  data : Option ArrayRef
  dataLength : Int
  exceptions : List UsbException
  deriving DecidableEq

structure IsoPacketDesc where
  length : Nat
  actualLength : Nat
  status : Int

namespace UsbIrpImp

def setStatus (irp : UsbIrpImp) (len : Int) : UsbIrpImp :=
  { irp with dataLength := len }

def setError (irp : UsbIrpImp) (error : Int) : UsbIrpImp :=
  { irp with exceptions := irp.exceptions ++ [⟨nativeGetErrorMessage error, error⟩] }

end UsbIrpImp

/-- `getBufferSize`; `none` is the exception for a missing array. -/
def getBufferSize (arrays : Arrays) (packets : List (Option ArrayRef)) : Option Int :=
  packets.foldlM (fun totalSize data => data.map fun data =>
    asInt (totalSize + (arrays data).length)) 0

/-- The buffer and the frame descriptors as far as they are written, and the
ranges of the buffer that `GetByteArrayRegion` has written, as starts and lengths. -/
structure IsoBuffer where
  buffer : List UInt8
  lengths : List Nat
  writes : List (Nat × Nat)

def IsoBuffer.blank (size : Nat) : IsoBuffer := ⟨List.replicate size 0, [], []⟩

def createIsoBuffer (arrays : Arrays) :
    List (Option ArrayRef) → Int → IsoBuffer → Int × IsoBuffer
  | [], _, iso => (0, iso)
  | none :: _, _, iso => (-einval, iso)
  | some data :: packets, offset, iso =>
      let length := (arrays data).length
      createIsoBuffer arrays packets (asInt (offset + length)) {
        buffer := overwrite iso.buffer (asSize offset) (arrays data)
        lengths := iso.lengths ++ [length]
        writes := iso.writes ++ [(asSize offset, length)] }

def region (buffer : Buffer) (offset count : Nat) : List UInt8 :=
  (List.range count).map fun index => buffer.byte (offset + index)

/-- What `destroy_iso_buffer` leaves behind. -/
structure Destroyed where
  err : Int
  arrays : Arrays
  usbIrpImps : List UsbIrpImp

def negativeStatus (headers : Headers) (frame : IsoPacketDesc) : Bool :=
  headers.statusSigned && decide (frame.status < 0)

/-- The length that is copied: that of the array if the kernel reports more. -/
def copiedLength (arrays : Arrays) (data : ArrayRef) (frame : IsoPacketDesc) : Nat :=
  if frame.actualLength > (arrays data).length then (arrays data).length else frame.actualLength

/-- The loop of `destroy_iso_buffer` from an offset on. -/
def destroyIsoBuffer (headers : Headers) (status : Int) (buffer : Buffer) :
    List (UsbIrpImp × IsoPacketDesc) → Int → Arrays → Destroyed
  | [], _, arrays => ⟨status, arrays, []⟩
  | (irp, frame) :: packets, offset, arrays =>
      match irp.data with
      | none => ⟨-einval, arrays, irp :: packets.map Prod.fst⟩
      | some data =>
          let actualLength := copiedLength arrays data frame
          let array := overwrite (arrays data) 0 (region buffer (asSize offset) actualLength)
          let later := destroyIsoBuffer headers status buffer packets
            (asInt (offset + frame.length)) (Function.update arrays data array)
          ⟨later.err, later.arrays,
            irp.setStatus (if negativeStatus headers frame then frame.status else actualLength) ::
              later.usbIrpImps⟩

/-- `completeRequest` on an isochronous request, with the status of the URB. The source
first looks `getData` up as `()[B`, which the class does not have: a `NoSuchMethodError`
is then pending in what follows, which is modelled as if the lookup had not been made. -/
def completeRequest (headers : Headers) (status : Int) (buffer : Buffer)
    (packets : List (UsbIrpImp × IsoPacketDesc)) (arrays : Arrays) : List UsbIrpImp :=
  let done := destroyIsoBuffer headers status buffer packets 0 arrays
  if done.err = 0 then done.usbIrpImps
  else done.usbIrpImps.map fun irp => irp.setError done.err

/-! ### Submission -/

def lengthsOf (arrays : Arrays) (packets : List ArrayRef) : List Nat :=
  packets.map fun data => (arrays data).length

theorem buffer_size_from (arrays : Arrays) (packets : List ArrayRef) (start : Int) :
    (packets.map some).foldlM (fun totalSize data => data.map fun data =>
      asInt (totalSize + (arrays data).length)) (asInt start) =
        some (asInt (start + (lengthsOf arrays packets).sum)) := by
  induction packets generalizing start with
  | nil => simp [lengthsOf]
  | cons data packets ih =>
      rw [List.map_cons, List.foldlM_cons]
      change (packets.map some).foldlM _ (asInt (asInt start + (arrays data).length)) = _
      have joined : asInt (asInt start + (arrays data).length) =
          asInt (start + (arrays data).length) := Int.bmod_add_bmod
      rw [joined, ih]
      simp only [lengthsOf, List.map_cons, List.sum_cons, Int.natCast_add, Int.add_assoc]

theorem buffer_size (arrays : Arrays) (packets : List ArrayRef) :
    getBufferSize arrays (packets.map some) =
      some (asInt ((lengthsOf arrays packets).sum : Nat)) := by
  have total := buffer_size_from arrays packets 0
  rw [Int.zero_add] at total
  exact total

theorem create_writes (arrays : Arrays) (packets : List ArrayRef) {offset : Int} {sum : Nat}
    (kept : asSize offset = sum % 2 ^ 32) (iso : IsoBuffer) :
    (createIsoBuffer arrays (packets.map some) offset iso).1 = 0 ∧
      (createIsoBuffer arrays (packets.map some) offset iso).2.lengths =
        iso.lengths ++ lengthsOf arrays packets ∧
      (createIsoBuffer arrays (packets.map some) offset iso).2.writes =
        iso.writes ++ (ranges sum (lengthsOf arrays packets)).map fun range =>
          (range.1 % 2 ^ 32, range.2) := by
  induction packets generalizing offset sum iso with
  | nil => simp [createIsoBuffer, lengthsOf, ranges]
  | cons data packets ih =>
      obtain ⟨returned, lengths, writes⟩ := ih (as_size_add offset kept (arrays data).length) {
        buffer := overwrite iso.buffer (asSize offset) (arrays data)
        lengths := iso.lengths ++ [(arrays data).length]
        writes := iso.writes ++ [(asSize offset, (arrays data).length)] }
      rw [List.map_cons, createIsoBuffer]
      refine ⟨returned, lengths.trans ?_, writes.trans ?_⟩
      · simp [lengthsOf]
      · simp [lengthsOf, ranges, kept]

/-- The buffer behind what is written already is filled with the arrays. -/
theorem create_buffer (arrays : Arrays) (packets : List ArrayRef) (front rest : List UInt8)
    (lengths : List Nat) (writes : List (Nat × Nat))
    (small : front.length + (lengthsOf arrays packets).sum < 2 ^ 31)
    (room : rest.length = (lengthsOf arrays packets).sum) :
    (createIsoBuffer arrays (packets.map some) (front.length : Int)
      ⟨front ++ rest, lengths, writes⟩).2.buffer = front ++ (packets.map arrays).flatten := by
  induction packets generalizing front rest lengths writes with
  | nil =>
      have empty : rest = [] := List.eq_nil_of_length_eq_zero (by simpa [lengthsOf] using room)
      simp [createIsoBuffer, empty]
  | cons data packets ih =>
      have sum : (lengthsOf arrays (data :: packets)).sum =
          (arrays data).length + (lengthsOf arrays packets).sum := by simp [lengthsOf]
      rw [sum] at small room
      have here : asSize (front.length : Int) = front.length := by
        rw [as_size_nat, Nat.mod_eq_of_lt (by omega)]
      have next : asInt ((front.length : Int) + (arrays data).length) =
          ((front ++ arrays data).length : Nat) := by
        rw [List.length_append, ← Int.natCast_add]
        exact as_int_nat (by omega)
      rw [List.map_cons, createIsoBuffer]
      simp only [here, overwrite_front, next]
      rw [ih (front ++ arrays data) (rest.drop (arrays data).length)]
      · simp
      · rw [List.length_append]
        omega
      · rw [List.length_drop]
        omega

/-! ### Completion -/

theorem region_inside {buffer : Buffer} {front cells rest : List UInt8}
    (bytes : buffer.bytes = front ++ (cells ++ rest)) {count : Nat} (fits : count ≤ cells.length) :
    region buffer front.length count = cells.take count := by
  apply List.ext_getElem
  · simp [region, fits]
  · intro index inside _
    have within : index < count := by simpa [region] using inside
    have cell : index < cells.length := by omega
    simp only [region, List.getElem_map, List.getElem_range, List.getElem_take, Buffer.byte, bytes]
    rw [List.getD_append_right _ _ _ _ (by omega), Nat.add_sub_cancel_left,
      List.getD_append _ _ _ _ cell, List.getD_eq_getElem _ _ cell]

/-- A packet with its array, the bytes that the kernel has left in its slot of
the buffer, and its frame descriptor. The kernel has received no more than the
slot holds, and without an error. -/
structure Slot (arrays : Arrays) where
  irp : UsbIrpImp
  data : ArrayRef
  array : irp.data = some data
  left : List UInt8
  frame : IsoPacketDesc
  whole : left.length = (arrays data).length
  framed : frame.length = (arrays data).length
  short : frame.actualLength ≤ frame.length
  good : 0 ≤ frame.status

namespace Slot

variable {arrays : Arrays}

def packet (slot : Slot arrays) : UsbIrpImp × IsoPacketDesc := (slot.irp, slot.frame)

def received (slot : Slot arrays) : List UInt8 :=
  slot.left.take slot.frame.actualLength ++ (arrays slot.data).drop slot.frame.actualLength

theorem not_negative (slot : Slot arrays) (headers : Headers) :
    negativeStatus headers slot.frame = false := by
  have good := slot.good
  simp [negativeStatus, good]

theorem copied_all (slot : Slot arrays) {current : Arrays}
    (same : current slot.data = arrays slot.data) :
    copiedLength current slot.data slot.frame = slot.frame.actualLength := by
  have short := slot.short
  rw [slot.framed] at short
  unfold copiedLength
  rw [same, if_neg (by omega)]

end Slot

/-- The loop copies the slots from the offset on into their arrays. -/
theorem destroy_slots (headers : Headers) (status : Int) {arrays : Arrays} {buffer : Buffer}
    (slots : List (Slot arrays)) (front : List UInt8) (current : Arrays)
    (bytes : buffer.bytes = front ++ (slots.map Slot.left).flatten)
    (small : front.length + (lengthsOf arrays (slots.map Slot.data)).sum < 2 ^ 31)
    (distinct : (slots.map Slot.data).Nodup)
    (same : ∀ slot ∈ slots, current slot.data = arrays slot.data) :
    (∀ slot ∈ slots, (destroyIsoBuffer headers status buffer (slots.map Slot.packet) front.length
        current).arrays slot.data = slot.received) ∧
      (∀ data, data ∉ slots.map Slot.data → (destroyIsoBuffer headers status buffer
        (slots.map Slot.packet) front.length current).arrays data = current data) ∧
      (destroyIsoBuffer headers status buffer (slots.map Slot.packet) front.length
        current).usbIrpImps = slots.map fun slot => slot.irp.setStatus slot.frame.actualLength := by
  induction slots generalizing front current with
  | nil => simp [destroyIsoBuffer]
  | cons slot slots ih =>
      have sum : (lengthsOf arrays ((slot :: slots).map Slot.data)).sum =
          (arrays slot.data).length + (lengthsOf arrays (slots.map Slot.data)).sum := by
        simp [lengthsOf]
      have pieces : ((slot :: slots).map Slot.left).flatten =
          slot.left ++ (slots.map Slot.left).flatten := by simp
      rw [sum] at small
      rw [pieces] at bytes
      rw [List.map_cons, List.nodup_cons] at distinct
      have whole := slot.whole
      have own := same slot List.mem_cons_self
      have here : asSize (front.length : Int) = front.length := by
        rw [as_size_nat, Nat.mod_eq_of_lt (by omega)]
      have next : asInt ((front.length : Int) + slot.frame.length) =
          ((front ++ slot.left).length : Nat) := by
        rw [slot.framed, List.length_append, whole, ← Int.natCast_add]
        exact as_int_nat (by omega)
      have short := slot.short
      rw [slot.framed] at short
      have copied : overwrite (current slot.data) 0
          (region buffer front.length slot.frame.actualLength) = slot.received := by
        rw [region_inside bytes (by omega), overwrite_start, own, List.length_take,
          Nat.min_eq_left (by omega), Slot.received]
      have later := ih (front ++ slot.left) (Function.update current slot.data slot.received)
        (by rw [bytes, List.append_assoc]) (by rw [List.length_append]; omega) distinct.2 (by
          intro other member
          rw [Function.update_of_ne]
          · exact same other (List.mem_cons_of_mem _ member)
          · intro equal
            exact distinct.1 (equal ▸ List.mem_map_of_mem member))
      obtain ⟨arraysOf, others, irps⟩ := later
      simp only [List.map_cons, Slot.packet, destroyIsoBuffer, slot.array, slot.copied_all own,
        slot.not_negative headers, here, next, copied, Bool.false_eq_true, if_false]
      refine ⟨?_, ?_, ?_⟩
      · intro other member
        rcases List.mem_cons.mp member with rfl | member
        · rw [others _ distinct.1, Function.update_self]
        · exact arraysOf other member
      · intro data outside
        rw [List.mem_cons, not_or] at outside
        rw [others data outside.2, Function.update_of_ne outside.1]
      · rw [irps]

theorem slots_data {arrays : Arrays} (slots : List (Slot arrays)) :
    slots.map (fun slot => slot.irp.data) = (slots.map Slot.data).map some := by
  rw [List.map_map]
  exact List.map_congr_left fun slot _ => slot.array

theorem concat_length (arrays : Arrays) (packets : List ArrayRef) :
    (packets.map arrays).flatten.length = (lengthsOf arrays packets).sum := by
  simp [lengthsOf, List.length_flatten, Function.comp_def]

/-- The buffer is the concatenation of the arrays and has the size that Java has
added up. After the completion each array starts with what the kernel has
received in its slot, the rest of it and all other arrays are as before, and the
data length is what was received. -/
theorem packets_keep_slots (headers : Headers) (status : Int) (past : Nat → UInt8)
    {arrays : Arrays} (slots : List (Slot arrays)) (distinct : (slots.map Slot.data).Nodup)
    (small : (lengthsOf arrays (slots.map Slot.data)).sum ≤ 2 ^ 31 - 1) :
    (∃ size : Nat, getBufferSize arrays (slots.map fun slot => slot.irp.data) =
        some (size : Int) ∧
      ∃ iso, createIsoBuffer arrays (slots.map fun slot => slot.irp.data) 0
          (IsoBuffer.blank size) = (0, iso) ∧
        iso.buffer = ((slots.map Slot.data).map arrays).flatten ∧ iso.buffer.length = size ∧
        iso.lengths = lengthsOf arrays (slots.map Slot.data)) ∧
      ∃ done, destroyIsoBuffer headers status ⟨(slots.map Slot.left).flatten, past⟩
          (slots.map Slot.packet) 0 arrays = done ∧
        (∀ slot ∈ slots, done.arrays slot.data = slot.left.take slot.frame.actualLength ++
          (arrays slot.data).drop slot.frame.actualLength) ∧
        (∀ data, data ∉ slots.map Slot.data → done.arrays data = arrays data) ∧
        done.usbIrpImps.map UsbIrpImp.dataLength =
          slots.map fun slot => (slot.frame.actualLength : Int) := by
  constructor
  · refine ⟨(lengthsOf arrays (slots.map Slot.data)).sum, ?_, ?_⟩
    · rw [slots_data, buffer_size, as_int_nat (by omega)]
    · rw [slots_data]
      obtain ⟨returned, lengths, _⟩ :=
        create_writes arrays (slots.map Slot.data) (show asSize 0 = 0 % 2 ^ 32 from rfl)
          (IsoBuffer.blank (lengthsOf arrays (slots.map Slot.data)).sum)
      have filled := create_buffer arrays (slots.map Slot.data) []
        (List.replicate (lengthsOf arrays (slots.map Slot.data)).sum 0) [] []
        (by rw [List.length_nil]; omega) List.length_replicate
      exact ⟨_, Prod.ext returned rfl, filled,
        (congrArg List.length filled).trans (concat_length arrays _), lengths⟩
  · have bytes : (⟨(slots.map Slot.left).flatten, past⟩ : Buffer).bytes =
        [] ++ (slots.map Slot.left).flatten := rfl
    obtain ⟨received, others, irps⟩ := destroy_slots headers status slots [] arrays bytes
      (by rw [List.length_nil]; omega) distinct fun _ _ => rfl
    refine ⟨_, rfl, received, others, (congrArg _ irps).trans ?_⟩
    rw [List.map_map]
    rfl

def twoArrays : Arrays := fun data => if data = 0 then [1, 2, 3] else [4, 5]

def twoSlots : List (Slot twoArrays) :=
  [{ irp := ⟨some 0, 3, []⟩
     data := 0
     array := rfl
     left := [9, 2, 3]
     frame := ⟨3, 1, 0⟩
     whole := rfl
     framed := rfl
     short := by decide
     good := by decide },
   { irp := ⟨some 1, 2, []⟩
     data := 1
     array := rfl
     left := [7, 8]
     frame := ⟨2, 2, 0⟩
     whole := rfl
     framed := rfl
     short := by decide
     good := by decide }]

theorem packets_keep_slots_two :
    ∃ done, destroyIsoBuffer ⟨44, 12, false⟩ 0 ⟨[9, 2, 3, 7, 8], fun _ => 0⟩
        (twoSlots.map Slot.packet) 0 twoArrays = done ∧
      done.arrays 0 = [9, 2, 3] ∧ done.arrays 1 = [7, 8] ∧
      done.usbIrpImps.map UsbIrpImp.dataLength = [1, 2] := by
  obtain ⟨_, done, is, received, _, lengths⟩ :=
    packets_keep_slots ⟨44, 12, false⟩ 0 (fun _ => 0) twoSlots (by decide) (by decide)
  refine ⟨done, is, ?_, ?_, lengths⟩
  · exact received twoSlots[0] (List.getElem_mem _)
  · exact received twoSlots[1] (List.getElem_mem _)

end JavaxUsbLinux.IsochronousBuffer
