import JavaxUsbLinux.IsochronousBuffer
import JavaxUsbLinux.SubmitFunctions

/-!
# The sizes of the blocks of an isochronous request

`isochronous_request` computes the size of both of its blocks in 32 bits, and
`create_iso_buffer` then fills them by the true count and lengths of the packets.
-/

namespace JavaxUsbLinux.IsochronousSizes

open JavaxUsbLinux.ByteBlocks
open JavaxUsbLinux.IsochronousBuffer

set_option autoImplicit false

structure Filled where
  urbBlock : Nat
  bufferBlock : Nat
  iso : IsoBuffer

def urbsize (headers : Headers) (npackets : Nat) : Int :=
  asInt (headers.urbSize + npackets * headers.isoPacketDescSize : Nat)

/-- `isochronous_request` as far as `create_iso_buffer`; the two last arguments
tell whether `malloc` gives the blocks. -/
def isochronousRequest (headers : Headers) (arrays : Arrays) (packets : List (Option ArrayRef))
    (urbGiven bufferGiven : Bool) : Option Filled :=
  match getBufferSize arrays packets with
  | none => none
  | some bufsize =>
      if urbGiven && bufferGiven then some {
        urbBlock := asSize (urbsize headers packets.length)
        bufferBlock := asSize bufsize
        iso := (createIsoBuffer arrays packets 0 (IsoBuffer.blank (asSize bufsize))).2 }
      else none

/-- Where the frame descriptor of a packet starts in the block of the URB. -/
def frameStart (headers : Headers) (index : Nat) : Nat :=
  (headers.urbSize + index * headers.isoPacketDescSize) % 2 ^ 32

structure WritesInside (headers : Headers) (filled : Filled) : Prop where
  data : ∀ write ∈ filled.iso.writes, ∀ cell < write.2, write.1 + cell < filled.bufferBlock
  frames : ∀ index < filled.iso.lengths.length, ∀ cell < headers.isoPacketDescSize,
    frameStart headers index + cell < filled.urbBlock

/-- Both blocks have room for what is written once they are allocated. -/
def BlocksSuffice (headers : Headers) (arrays : Arrays) (packets : List ArrayRef)
    (urbGiven bufferGiven : Bool) : Prop :=
  ∀ filled, isochronousRequest headers arrays (packets.map some) urbGiven bufferGiven =
    some filled → WritesInside headers filled

section Sizes

variable (headers : Headers) (arrays : Arrays) (packets : List ArrayRef)

theorem request_filled (urbGiven bufferGiven : Bool) :
    isochronousRequest headers arrays (packets.map some) urbGiven bufferGiven =
      if urbGiven && bufferGiven then some {
        urbBlock := (headers.urbSize + packets.length * headers.isoPacketDescSize) % 2 ^ 32
        bufferBlock := (lengthsOf arrays packets).sum % 2 ^ 32
        iso := (createIsoBuffer arrays (packets.map some) 0
          (IsoBuffer.blank ((lengthsOf arrays packets).sum % 2 ^ 32))).2 } else none := by
  simp only [isochronousRequest, urbsize, buffer_size, List.length_map, as_size_as_int,
    as_size_nat]

/-- The data is written inside its block exactly if the sum of the lengths fits. -/
theorem data_inside_iff (size : Nat) :
    (∀ write ∈ (createIsoBuffer arrays (packets.map some) 0 (IsoBuffer.blank size)).2.writes,
      ∀ cell < write.2, write.1 + cell < (lengthsOf arrays packets).sum % 2 ^ 32) ↔
      (lengthsOf arrays packets).sum < 2 ^ 32 := by
  obtain ⟨_, _, writes⟩ :=
    create_writes arrays packets (show asSize 0 = 0 % 2 ^ 32 from rfl) (IsoBuffer.blank size)
  rw [writes, ← wrapped_ranges_inside_iff (by decide : 0 < 2 ^ 32)]
  constructor
  · intro inside range member
    exact inside (range.1 % 2 ^ 32, range.2)
      (List.mem_append_right _ (List.mem_map_of_mem member))
  · intro inside write member
    rw [IsoBuffer.blank, List.nil_append] at member
    obtain ⟨range, ranged, rfl⟩ := List.mem_map.mp member
    exact inside range ranged

/-- The frame descriptors lie inside the block of the URB exactly if its size fits. -/
theorem frames_inside_iff (npackets : Nat) (fits : headers.urbSize < 2 ^ 32) :
    (∀ index < npackets, ∀ cell < headers.isoPacketDescSize, frameStart headers index + cell <
      (headers.urbSize + npackets * headers.isoPacketDescSize) % 2 ^ 32) ↔
      headers.urbSize + npackets * headers.isoPacketDescSize < 2 ^ 32 := by
  unfold frameStart
  generalize descs : npackets * headers.isoPacketDescSize = total
  constructor
  · intro inside
    by_contra wrapped
    -- The first cell that is behind the end of the block and not in the header.
    have place : ∃ cell, headers.urbSize + cell < 2 ^ 32 ∧ cell < total ∧
        (headers.urbSize + total) % 2 ^ 32 ≤ headers.urbSize + cell := by
      have small := Nat.mod_lt (headers.urbSize + total) (by decide : 0 < 2 ^ 32)
      exact ⟨(headers.urbSize + total) % 2 ^ 32 - headers.urbSize, by omega, by omega, by omega⟩
    obtain ⟨cell, low, within, behind⟩ := place
    have size : 0 < headers.isoPacketDescSize := by
      apply Nat.pos_of_ne_zero
      intro zero
      rw [zero, Nat.mul_zero] at descs
      omega
    have split := Nat.div_add_mod' cell headers.isoPacketDescSize
    have outside := inside (cell / headers.isoPacketDescSize)
      (Nat.div_lt_of_lt_mul (by rwa [Nat.mul_comm, descs]))
      (cell % headers.isoPacketDescSize) (Nat.mod_lt _ size)
    rw [Nat.mod_eq_of_lt (by omega)] at outside
    omega
  · intro whole index below cell within
    have upper := Nat.mul_le_mul_right headers.isoPacketDescSize (Nat.succ_le_of_lt below)
    rw [Nat.succ_mul, descs] at upper
    rw [Nat.mod_eq_of_lt whole, Nat.mod_eq_of_lt (by omega)]
    omega

theorem frames_written (size : Nat) :
    (createIsoBuffer arrays (packets.map some) 0 (IsoBuffer.blank size)).2.lengths.length =
      packets.length := by
  obtain ⟨_, lengths, _⟩ :=
    create_writes arrays packets (show asSize 0 = 0 % 2 ^ 32 from rfl) (IsoBuffer.blank size)
  rw [lengths]
  simp [IsoBuffer.blank, lengthsOf]

end Sizes

theorem sum_fits {headers : Headers} {arrays : Arrays} {packets : List ArrayRef}
    (enough : BlocksSuffice headers arrays packets true true) :
    (lengthsOf arrays packets).sum < 2 ^ 32 := by
  have inside := enough _ (request_filled headers arrays packets true true)
  exact (data_inside_iff arrays packets _).mp inside.data

theorem frames_fit {headers : Headers} {arrays : Arrays} {packets : List ArrayRef}
    (fits : headers.urbSize < 2 ^ 32) (enough : BlocksSuffice headers arrays packets true true) :
    headers.urbSize + packets.length * headers.isoPacketDescSize < 2 ^ 32 := by
  have frames := (enough _ (request_filled headers arrays packets true true)).frames
  rw [frames_written] at frames
  exact (frames_inside_iff headers packets.length fits).mp frames

theorem lengths_of_four (array : List UInt8) :
    (lengthsOf (fun _ => array) [0, 0, 0, 0]).sum = 4 * array.length := by
  simp only [lengthsOf, List.map_cons, List.map_nil, List.sum_cons, List.sum_nil]
  omega

theorem packets_packed (arrays : Arrays) (packets : List ArrayRef) :
    SubmitFunctions.createIsoBuffer (packets.map fun data => some (arrays data)) =
      some (lengthsOf arrays packets, (packets.map arrays).flatten) := by
  induction packets with
  | nil => rfl
  | cons data packets ih =>
      rw [List.map_cons, SubmitFunctions.createIsoBuffer, ih]
      rfl

theorem packets_agree (arrays : Arrays) (packets : List ArrayRef)
    (small : (lengthsOf arrays packets).sum < 2 ^ 31) :
    SubmitFunctions.createIsoBuffer (packets.map fun data => some (arrays data)) =
      some ((createIsoBuffer arrays (packets.map some) 0
          (IsoBuffer.blank (lengthsOf arrays packets).sum)).2.lengths,
        (createIsoBuffer arrays (packets.map some) 0
          (IsoBuffer.blank (lengthsOf arrays packets).sum)).2.buffer) := by
  obtain ⟨_, lengths, _⟩ := create_writes arrays packets (show asSize 0 = 0 % 2 ^ 32 from rfl)
    (IsoBuffer.blank (lengthsOf arrays packets).sum)
  have filled := create_buffer arrays packets []
    (List.replicate (lengthsOf arrays packets).sum 0) [] []
    (by rw [List.length_nil]; omega) List.length_replicate
  rw [packets_packed, lengths]
  exact congrArg some (Prod.ext rfl filled.symm)

/-- The blocks suffice exactly if one of them is not given or neither size wraps around. -/
theorem blocks_suffice_iff (headers : Headers) (arrays : Arrays) (packets : List ArrayRef)
    (urbGiven bufferGiven : Bool) (fits : headers.urbSize < 2 ^ 32) :
    BlocksSuffice headers arrays packets urbGiven bufferGiven ↔
      urbGiven = false ∨ bufferGiven = false ∨
        (lengthsOf arrays packets).sum < 2 ^ 32 ∧
          headers.urbSize + packets.length * headers.isoPacketDescSize < 2 ^ 32 := by
  constructor
  · intro enough
    cases urbGiven
    · exact Or.inl rfl
    · cases bufferGiven
      · exact Or.inr (Or.inl rfl)
      · exact Or.inr (Or.inr ⟨sum_fits enough, frames_fit fits enough⟩)
  · intro condition filled returned
    rw [request_filled] at returned
    by_cases given : (urbGiven && bufferGiven) = true
    · rw [if_pos given] at returned
      rw [Bool.and_eq_true] at given
      obtain ⟨data, frames⟩ : (lengthsOf arrays packets).sum < 2 ^ 32 ∧
          headers.urbSize + packets.length * headers.isoPacketDescSize < 2 ^ 32 := by
        simpa [given.1, given.2] using condition
      cases returned
      constructor
      · exact (data_inside_iff arrays packets _).mpr data
      · rw [frames_written]
        exact (frames_inside_iff headers packets.length fits).mpr frames
    · rw [if_neg given] at returned
      cases returned

theorem blocks_suffice_two :
    BlocksSuffice ⟨44, 12, false⟩ (fun _ => [1, 2]) [0, 0] true true :=
  (blocks_suffice_iff ⟨44, 12, false⟩ (fun _ => [1, 2]) [0, 0] true true (by decide)).mpr
    (Or.inr (Or.inr (by decide)))

def gigabyte : List UInt8 := List.replicate (2 ^ 30) 0

theorem wrapped_buffer_overflows :
    ¬ BlocksSuffice ⟨44, 12, false⟩ (fun _ => gigabyte) [0, 0, 0, 0] true true := by
  intro enough
  have small := sum_fits enough
  rw [lengths_of_four] at small
  have length : gigabyte.length = 2 ^ 30 := List.length_replicate
  rw [length] at small
  exact absurd small (by decide)

end JavaxUsbLinux.IsochronousSizes
