import Mathlib.Data.Option.Basic
import Mathlib.Data.List.Basic

/-!
# Computations that read memory blocks

A `Reading` is a computation that may fail, together with the offsets that it
has read and the sizes of the blocks it read them in. It is safe if it never
reads beyond the end of a block. The accesses before a failure count.
-/

namespace JavaxUsbLinux.BufferReads

set_option autoImplicit false

structure Access where
  size : Nat
  offset : Nat
  deriving DecidableEq

def Access.Inside (access : Access) : Prop := access.offset < access.size

structure Reading (α : Type) where
  accesses : List Access
  result : Option α

namespace Reading

variable {α β : Type}

def fail : Reading α := ⟨[], none⟩

def read (size offset : Nat) (value : α) : Reading α := ⟨[⟨size, offset⟩], some value⟩

def andThen (reading : Reading α) (next : α → Reading β) : Reading β :=
  match reading.result with
  | none => ⟨reading.accesses, none⟩
  | some value => ⟨reading.accesses ++ (next value).accesses, (next value).result⟩

instance : Monad Reading where
  pure value := ⟨[], some value⟩
  bind := andThen

def Safe (reading : Reading α) : Prop :=
  ∀ access ∈ reading.accesses, access.Inside

@[simp] theorem result_pure (value : α) : (pure value : Reading α).result = some value := rfl

@[simp] theorem result_fail : (fail : Reading α).result = none := rfl

@[simp] theorem result_read (size offset : Nat) (value : α) :
    (read size offset value).result = some value := rfl

@[simp] theorem result_bind (reading : Reading α) (next : α → Reading β) :
    (reading >>= next).result = reading.result.bind fun value => (next value).result := by
  change (andThen reading next).result = _
  unfold andThen
  cases reading.result <;> rfl

@[simp] theorem safe_pure (value : α) : (pure value : Reading α).Safe :=
  fun _ member => absurd member List.not_mem_nil

@[simp] theorem safe_fail : (fail : Reading α).Safe :=
  fun _ member => absurd member List.not_mem_nil

@[simp] theorem safe_read (size offset : Nat) (value : α) :
    (read size offset value).Safe ↔ offset < size := by
  simp [Safe, read, Access.Inside]

theorem safe_bind (reading : Reading α) (next : α → Reading β) :
    (reading >>= next).Safe ↔
      reading.Safe ∧ ∀ value, reading.result = some value → (next value).Safe := by
  change (andThen reading next).Safe ↔ _
  unfold andThen Safe
  cases reading.result with
  | none => simp
  | some value => simp [or_imp, forall_and]

theorem safe_bind_some {reading : Reading α} {value : α} (found : reading.result = some value)
    (next : α → Reading β) :
    (reading >>= next).Safe ↔ reading.Safe ∧ (next value).Safe := by
  rw [safe_bind, found]
  simp

@[simp] theorem safe_read_bind (size offset : Nat) (value : α) (next : α → Reading β) :
    (read size offset value >>= next).Safe ↔ offset < size ∧ (next value).Safe := by
  rw [safe_bind_some rfl, safe_read]

end Reading

end JavaxUsbLinux.BufferReads
