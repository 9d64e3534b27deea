import JavaxUsbLinux.DescriptorLayout

/-!
# The descriptors in a stream of bytes

Apart from the fields of the objects, the parser only cuts the stream into
descriptors by their lengths, and stops at one whose type may not stand inside
a configuration. `cut` and `cutItems` do this on the bytes alone; the parser
leaves the same bytes to read.
-/

namespace JavaxUsbLinux.DescriptorStream

open JavaxUsbLinux.Descriptors
open JavaxUsbLinux.DescriptorLayout

set_option autoImplicit false

def cut : List UInt8 → Option (List UInt8 × List UInt8)
  | [] => none
  | len :: left =>
      if len = 0 then none
      else if left.length < len.toNat - 1 then none
      else some (len :: left.take (len.toNat - 1), left.drop (len.toNat - 1))

theorem get_descriptor_eq (node : Node) (bytes : List UInt8) :
    getDescriptor node bytes =
      (cut bytes).map fun parts => (⟨parts.1, node.stray parts.2⟩, parts.2) := by
  cases bytes with
  | nil => rfl
  | cons len left =>
      simp only [getDescriptor, cut]
      split_ifs <;> rfl

theorem read_missing (node : Node) {bytes : List UInt8} (missing : cut bytes = none) :
    getDescriptor node bytes = none := by
  rw [get_descriptor_eq, missing]
  rfl

theorem read_found (node : Node) {bytes desc left : List UInt8}
    (found : cut bytes = some (desc, left)) :
    getDescriptor node bytes = some (⟨desc, node.stray left⟩, left) := by
  rw [get_descriptor_eq, found]
  rfl

theorem cut_append {desc : List UInt8} (framed : Framed desc) (left : List UInt8) :
    cut (desc ++ left) = some (desc, left) := by
  obtain ⟨len, tail, rfl, length⟩ := framed
  have nonzero : len ≠ 0 := by
    intro zero
    rw [zero] at length
    simp at length
  have long : ¬ (tail ++ left).length < tail.length := by simp
  have size : len.toNat - 1 = tail.length := by omega
  simp only [cut, List.cons_append, size, if_neg nonzero, if_neg long, List.drop_left,
    List.take_left]

theorem cut_framed {bytes desc left : List UInt8} (found : cut bytes = some (desc, left)) :
    Framed desc ∧ bytes = desc ++ left := by
  cases bytes with
  | nil => cases found
  | cons len rest =>
      simp only [cut] at found
      split_ifs at found with zero short
      cases found
      have positive : 0 < len.toNat := by
        rw [Nat.pos_iff_ne_zero]
        exact fun none => zero (UInt8.toNat_inj.mp none)
      constructor
      · refine ⟨len, rest.take (len.toNat - 1), rfl, ?_⟩
        rw [List.length_take]
        omega
      · simp

theorem framed_positive {desc : List UInt8} (framed : Framed desc) : 0 < desc.length := by
  obtain ⟨len, tail, rfl, _⟩ := framed
  exact Nat.succ_pos _

theorem cut_shorter {bytes desc left : List UInt8} (found : cut bytes = some (desc, left)) :
    left.length < bytes.length := by
  obtain ⟨framed, rfl⟩ := cut_framed found
  have positive := framed_positive framed
  rw [List.length_append]
  omega

theorem framed_length {desc : List UInt8} (framed : Framed desc) (past : Nat → UInt8) :
    ((⟨desc, past⟩ : Buffer).byte 0).toNat = desc.length := by
  obtain ⟨len, tail, rfl, length⟩ := framed
  simpa [Buffer.byte] using length

/-- A descriptor that `build_config` goes past: it has a type, and this is not
that of a device or of a configuration. -/
def ordinary : List UInt8 → Bool
  | _ :: type :: _ => type != usbDtDevice && type != usbDtConfig
  | _ => false

theorem ordinary_long {desc : List UInt8} (passes : ordinary desc = true) : 2 ≤ desc.length := by
  match desc with
  | [] => cases passes
  | [_] => cases passes
  | _ :: _ :: _ => simp

theorem build_by_type_ordinary (node : Node) (left : List UInt8) (device : UsbDeviceImp)
    (config : Nat) (iface : Option Nat) {desc : List UInt8} (past : Nat → UInt8)
    (long : 2 ≤ desc.length) :
    (buildByType node left device config iface ⟨desc, past⟩).isSome = ordinary desc := by
  match desc with
  | [] => simp at long
  | [_] => simp at long
  | len :: type :: payload =>
      have byte : (⟨len :: type :: payload, past⟩ : Buffer).byte 1 = type := rfl
      simp only [buildByType, byte, ordinary]
      split_ifs <;> simp_all

/-- The descriptors that the loop of `build_config` reads, and the bytes after
them if it comes to the end. -/
def cutItems (total pos : Nat) (bytes : List UInt8) : List (List UInt8) × Option (List UInt8) :=
  if pos < total then
    match _found : cut bytes with
    | none => ([], none)
    | some (desc, left) =>
        if ordinary desc then
          let later := cutItems total (pos + desc.length) left
          (desc :: later.1, later.2)
        else ([desc], none)
  else ([], some bytes)
termination_by bytes.length
decreasing_by exact cut_shorter _found

theorem cut_items_done {total pos : Nat} (bytes : List UInt8) (done : ¬ pos < total) :
    cutItems total pos bytes = ([], some bytes) := by
  rw [cutItems, if_neg done]

theorem cut_items_none {total pos : Nat} {bytes : List UInt8} (more : pos < total)
    (missing : cut bytes = none) : cutItems total pos bytes = ([], none) := by
  rw [cutItems, if_pos more]
  split
  case h_1 => rfl
  case h_2 here =>
    rw [missing] at here
    contradiction

theorem cut_items_next {total pos : Nat} {bytes desc left : List UInt8} (more : pos < total)
    (found : cut bytes = some (desc, left)) (passes : ordinary desc = true) :
    cutItems total pos bytes =
      (desc :: (cutItems total (pos + desc.length) left).1,
        (cutItems total (pos + desc.length) left).2) := by
  rw [cutItems, if_pos more]
  split
  case h_1 here =>
    rw [found] at here
    contradiction
  case h_2 here =>
    rw [found] at here
    cases here
    rw [if_pos passes]

theorem cut_items_stop {total pos : Nat} {bytes desc left : List UInt8} (more : pos < total)
    (found : cut bytes = some (desc, left)) (stops : ordinary desc = false) :
    cutItems total pos bytes = ([desc], none) := by
  rw [cutItems, if_pos more]
  split
  case h_1 here =>
    rw [found] at here
    contradiction
  case h_2 here =>
    rw [found] at here
    cases here
    simp [stops]

/-- Induction over the descriptors of a stream, whatever stands in them. -/
theorem stream_induction {motive : List UInt8 → Prop}
    (step : ∀ bytes, (∀ desc left, cut bytes = some (desc, left) → motive left) → motive bytes)
    (bytes : List UInt8) : motive bytes :=
  step bytes fun _ left _found => stream_induction step left
termination_by bytes.length
decreasing_by exact cut_shorter _found

theorem cut_induction (total : Nat) {motive : Nat → List UInt8 → Prop}
    (done : ∀ pos bytes, ¬ pos < total → motive pos bytes)
    (missing : ∀ pos bytes, pos < total → cut bytes = none → motive pos bytes)
    (stop : ∀ pos bytes desc left, pos < total → cut bytes = some (desc, left) →
      ordinary desc = false → motive pos bytes)
    (next : ∀ pos bytes desc left, pos < total → cut bytes = some (desc, left) →
      ordinary desc = true → motive (pos + desc.length) left → motive pos bytes)
    (pos : Nat) (bytes : List UInt8) : motive pos bytes := by
  by_cases more : pos < total
  · cases found : cut bytes with
    | none => exact missing pos bytes more found
    | some parts =>
        obtain ⟨desc, left⟩ := parts
        cases passes : ordinary desc with
        | false => exact stop pos bytes desc left more found passes
        | true =>
            exact next pos bytes desc left more found passes
              (cut_induction total done missing stop next (pos + desc.length) left)
  · exact done pos bytes more
termination_by bytes.length
decreasing_by exact cut_shorter found

end JavaxUsbLinux.DescriptorStream
