import JavaxUsbLinux.IsochronousBuffer

/-!
# The status of the packets of an isochronous request

`destroy_iso_buffer` reports each packet through `setStatus`: its length if the
status is not negative, and the status if it is. `setStatus` sets the data
length, so a failed packet gets no exception.
-/

namespace JavaxUsbLinux.IsochronousStatus

open JavaxUsbLinux.ByteBlocks
open JavaxUsbLinux.Descriptors (Buffer)
open JavaxUsbLinux.IsochronousBuffer

set_option autoImplicit false

def processed (packets : List (UsbIrpImp × IsoPacketDesc)) : List (UsbIrpImp × IsoPacketDesc) :=
  packets.takeWhile fun packet => packet.1.data.isSome

def arrayLength (arrays : Arrays) (irp : UsbIrpImp) : Nat :=
  match irp.data with
  | none => 0
  | some data => (arrays data).length

/-- A packet with a negative status gets an exception that carries it, one with
another status gets none and has the received length, cut off at its array. -/
structure Told (arrays : Arrays) (packet : UsbIrpImp × IsoPacketDesc) (after : UsbIrpImp) :
    Prop where
  failed : packet.2.status < 0 → ∃ exception,
    after.exceptions = packet.1.exceptions ++ [exception] ∧ exception.errorCode = packet.2.status
  received : 0 ≤ packet.2.status → after.exceptions = packet.1.exceptions ∧
    after.dataLength = (min packet.2.actualLength (arrayLength arrays packet.1) : Nat)

def Bounded (arrays : Arrays) (packet : UsbIrpImp × IsoPacketDesc) (after : UsbIrpImp) : Prop :=
  0 ≤ after.dataLength ∧ after.dataLength ≤ arrayLength arrays packet.1

/-- Every packet is told after the loop, and has a sensible length after the
completion of the request. -/
def StatusTold (headers : Headers) (status : Int) (buffer : Buffer)
    (packets : List (UsbIrpImp × IsoPacketDesc)) (arrays : Arrays) : Prop :=
  List.Forall₂ (Told arrays) (processed packets)
      ((destroyIsoBuffer headers status buffer packets 0 arrays).usbIrpImps.take
        (processed packets).length) ∧
    List.Forall₂ (Bounded arrays) (processed packets)
      ((completeRequest headers status buffer packets arrays).take (processed packets).length)

def reported (headers : Headers) (arrays : Arrays) (packet : UsbIrpImp × IsoPacketDesc) :
    UsbIrpImp :=
  packet.1.setStatus (if negativeStatus headers packet.2 then packet.2.status
    else (min packet.2.actualLength (arrayLength arrays packet.1) : Nat))

theorem copied_length_eq (arrays : Arrays) {irp : UsbIrpImp} {data : ArrayRef}
    (array : irp.data = some data) (frame : IsoPacketDesc) :
    copiedLength arrays data frame = min frame.actualLength (arrayLength arrays irp) := by
  have length : arrayLength arrays irp = (arrays data).length := by simp only [arrayLength, array]
  rw [length, copiedLength]
  split_ifs <;> omega

theorem copied_keeps_length {array : List UInt8} (buffer : Buffer) (offset : Nat) {count : Nat}
    (fits : count ≤ array.length) :
    (overwrite array 0 (region buffer offset count)).length = array.length := by
  rw [overwrite_start, List.length_append, List.length_drop]
  simp only [region, List.length_map, List.length_range]
  omega

theorem destroy_reports (headers : Headers) (status : Int) (buffer : Buffer) (arrays : Arrays)
    (packets : List (UsbIrpImp × IsoPacketDesc)) (offset : Int) (current : Arrays)
    (same : ∀ data, (current data).length = (arrays data).length) :
    (destroyIsoBuffer headers status buffer packets offset current).usbIrpImps =
      (processed packets).map (reported headers arrays) ++
        (packets.drop (processed packets).length).map Prod.fst := by
  induction packets generalizing offset current with
  | nil => rfl
  | cons packet packets ih =>
      obtain ⟨irp, frame⟩ := packet
      rw [destroyIsoBuffer]
      cases array : irp.data with
      | none => simp [processed, array]
      | some data =>
          have length : arrayLength current irp = arrayLength arrays irp := by
            simp only [arrayLength, array, same]
          have kept : ∀ other, (Function.update current data (overwrite (current data) 0
              (region buffer (asSize offset) (copiedLength current data frame))) other).length =
                (arrays other).length := by
            intro other
            by_cases here : other = data
            · rw [here, Function.update_self, copied_keeps_length, same]
              unfold copiedLength
              split_ifs <;> omega
            · rw [Function.update_of_ne here, same]
          have later := ih (asInt (offset + frame.length)) _ kept
          have first : processed ((irp, frame) :: packets) =
              (irp, frame) :: processed packets := by simp [processed, array]
          simp only [later, first, List.map_cons, List.length_cons, List.drop_succ_cons,
            List.cons_append]
          rw [reported, copied_length_eq current array, length]

section Outcome

variable (headers : Headers) (status : Int) (buffer : Buffer) (arrays : Arrays)
variable (packets : List (UsbIrpImp × IsoPacketDesc))

theorem destroyed_processed :
    (destroyIsoBuffer headers status buffer packets 0 arrays).usbIrpImps.take
        (processed packets).length = (processed packets).map (reported headers arrays) := by
  rw [destroy_reports headers status buffer arrays packets 0 arrays fun _ => rfl]
  exact List.take_left' (List.length_map _)

theorem completed_lengths :
    (completeRequest headers status buffer packets arrays).map UsbIrpImp.dataLength =
      (destroyIsoBuffer headers status buffer packets 0 arrays).usbIrpImps.map
        UsbIrpImp.dataLength := by
  simp only [completeRequest]
  split_ifs
  · rfl
  · rw [List.map_map]
    rfl

end Outcome

theorem reported_told_iff (headers : Headers) (arrays : Arrays)
    (packet : UsbIrpImp × IsoPacketDesc) :
    Told arrays packet (reported headers arrays packet) ↔ 0 ≤ packet.2.status := by
  constructor
  · intro told
    by_contra negative
    obtain ⟨exception, set, _⟩ := told.failed (Int.not_le.mp negative)
    -- `setStatus` has left the exceptions alone.
    have longer := congrArg List.length set
    simp [reported, UsbIrpImp.setStatus] at longer
  · intro good
    have positive : negativeStatus headers packet.2 = false := by simp [negativeStatus, good]
    constructor
    · intro failed
      omega
    · intro _
      rw [reported, positive]
      exact ⟨rfl, rfl⟩

theorem reported_bounded {headers : Headers} {arrays : Arrays}
    {packet : UsbIrpImp × IsoPacketDesc} (good : 0 ≤ packet.2.status) :
    0 ≤ (reported headers arrays packet).dataLength ∧
      (reported headers arrays packet).dataLength ≤ arrayLength arrays packet.1 := by
  have positive : negativeStatus headers packet.2 = false := by simp [negativeStatus, good]
  rw [reported, positive]
  simp only [UsbIrpImp.setStatus, Bool.false_eq_true, if_false]
  omega

/-- The packets are told what became of them exactly if none has failed. -/
theorem status_told_iff (headers : Headers) (status : Int) (buffer : Buffer)
    (packets : List (UsbIrpImp × IsoPacketDesc)) (arrays : Arrays) :
    StatusTold headers status buffer packets arrays ↔
      ∀ packet ∈ processed packets, 0 ≤ packet.2.status := by
  unfold StatusTold
  rw [destroyed_processed, List.forall₂_map_right_iff, List.forall₂_same]
  constructor
  · rintro ⟨told, _⟩ packet member
    exact (reported_told_iff headers arrays packet).mp (told packet member)
  · intro good
    constructor
    · intro packet member
      exact (reported_told_iff headers arrays packet).mpr (good packet member)
    · have lengths := congrArg (List.take (processed packets).length)
        (completed_lengths headers status buffer arrays packets)
      rw [← List.map_take, ← List.map_take, destroyed_processed, List.map_map] at lengths
      have bounded : List.Forall₂ (fun packet (length : Int) => 0 ≤ length ∧
          length ≤ arrayLength arrays packet.1) (processed packets)
          ((completeRequest headers status buffer packets arrays).take
            (processed packets).length |>.map UsbIrpImp.dataLength) := by
        rw [lengths, List.forall₂_map_right_iff, List.forall₂_same]
        intro packet member
        exact reported_bounded (good packet member)
      rw [List.forall₂_map_right_iff] at bounded
      exact bounded

def skippedFrame : List (UsbIrpImp × IsoPacketDesc) := [(⟨some 0, 2, []⟩, ⟨2, 0, -18⟩)]

theorem failed_packet_untold :
    (destroyIsoBuffer ⟨44, 12, false⟩ 0 ⟨[0, 0], fun _ => 0⟩ skippedFrame 0
        fun _ => [1, 2]).usbIrpImps = [⟨some 0, 0, []⟩] ∧
      ¬ StatusTold ⟨44, 12, false⟩ 0 ⟨[0, 0], fun _ => 0⟩ skippedFrame fun _ => [1, 2] := by
  refine ⟨by decide, ?_⟩
  rintro ⟨told, _⟩
  rw [destroyed_processed, List.forall₂_map_right_iff, List.forall₂_same] at told
  have good := (reported_told_iff _ _ _).mp (told (⟨some 0, 2, []⟩, ⟨2, 0, -18⟩) (by
    exact List.mem_singleton.mpr rfl))
  contradiction

end JavaxUsbLinux.IsochronousStatus
