import Mathlib.Algebra.Ring.Nat
import Mathlib.Data.List.Basic

/-!
# Blocks that are filled piece by piece

A block is a list of cells. Consecutive pieces occupy consecutive ranges of it;
an offset that is kept modulo some number may lose its place.
-/

namespace JavaxUsbLinux.ByteBlocks

set_option autoImplicit false

variable {Cell : Type}

/-- The block after a write of cells at an offset. -/
def overwrite (block : List Cell) (offset : Nat) (cells : List Cell) : List Cell :=
  block.take offset ++ cells ++ block.drop (offset + cells.length)

theorem overwrite_front (front rest cells : List Cell) :
    overwrite (front ++ rest) front.length cells = front ++ cells ++ rest.drop cells.length := by
  rw [overwrite, List.take_left, List.drop_append, List.drop_of_length_le (by omega),
    List.nil_append, Nat.add_sub_cancel_left]

theorem overwrite_start (block cells : List Cell) :
    overwrite block 0 cells = cells ++ block.drop cells.length := by
  simp [overwrite]

/-! ### Ranges -/

/-- The ranges of consecutive pieces, each with its start and its length. -/
def ranges : Nat → List Nat → List (Nat × Nat)
  | _, [] => []
  | offset, length :: lengths => (offset, length) :: ranges (offset + length) lengths

theorem range_inside {lengths : List Nat} {offset : Nat} {range : Nat × Nat}
    (member : range ∈ ranges offset lengths) :
    offset ≤ range.1 ∧ range.1 + range.2 ≤ offset + lengths.sum := by
  induction lengths generalizing offset with
  | nil => cases member
  | cons length lengths ih =>
      rw [List.sum_cons]
      rcases List.mem_cons.mp member with rfl | later
      · exact ⟨Nat.le_refl _, by dsimp only; omega⟩
      · obtain ⟨lower, upper⟩ := ih later
        exact ⟨by omega, by omega⟩

theorem ranges_cover {lengths : List Nat} {offset cell : Nat} (lower : offset ≤ cell)
    (upper : cell < offset + lengths.sum) :
    ∃ range ∈ ranges offset lengths, range.1 ≤ cell ∧ cell < range.1 + range.2 := by
  induction lengths generalizing offset with
  | nil => exact absurd upper (by simpa using lower)
  | cons length lengths ih =>
      rw [List.sum_cons] at upper
      by_cases here : cell < offset + length
      · exact ⟨(offset, length), List.mem_cons_self, lower, here⟩
      · obtain ⟨range, member, inside⟩ := ih (Nat.not_lt.mp here) (by omega)
        exact ⟨range, List.mem_cons_of_mem _ member, inside⟩

/-- With offsets and total kept modulo a number, all ranges lie inside the
total exactly if it has not wrapped around. -/
theorem wrapped_ranges_inside_iff {modulus : Nat} (positive : 0 < modulus) (lengths : List Nat) :
    (∀ range ∈ ranges 0 lengths, ∀ cell < range.2,
      range.1 % modulus + cell < lengths.sum % modulus) ↔ lengths.sum < modulus := by
  constructor
  · intro inside
    by_contra wrapped
    have small := Nat.mod_lt lengths.sum positive
    obtain ⟨range, member, starts, ends⟩ :=
      ranges_cover (show 0 ≤ lengths.sum % modulus from Nat.zero_le _)
        (show lengths.sum % modulus < 0 + lengths.sum by omega)
    have outside := inside range member (lengths.sum % modulus - range.1) (by omega)
    rw [Nat.mod_eq_of_lt (by omega : range.1 < modulus)] at outside
    omega
  · intro whole range member cell within
    have upper := (range_inside member).2
    rw [Nat.mod_eq_of_lt whole, Nat.mod_eq_of_lt (by omega : range.1 < modulus)]
    omega

end JavaxUsbLinux.ByteBlocks
