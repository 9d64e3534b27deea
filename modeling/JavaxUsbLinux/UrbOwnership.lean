import JavaxUsbLinux.NativeUrb

/-!
# Who owns an URB

At any time an URB block is owned by the kernel or by the loop that has just
reaped it, or it has been freed, or `isochronous_request` has forgotten it. The
same holds for the global references. `Owned` relates the memory, the kernel's
lists and the addresses stored in the requests, and each native function is
shown to keep it.
-/

namespace JavaxUsbLinux.UrbOwnership

open JavaxUsbLinux.NativeUrb

set_option autoImplicit false

def issued (bound number : Nat) : Nat :=
  if number < bound then 1 else 0

theorem issued_succ (bound number : Nat) :
    issued (bound + 1) number = issued bound number + if bound = number then 1 else 0 := by
  unfold issued
  split_ifs <;> omega

theorem issued_self (bound : Nat) : issued bound bound = 0 := by
  simp [issued]

theorem issued_le_one (bound number : Nat) : issued bound number ≤ 1 := by
  unfold issued
  split_ifs <;> omega

/-- `owned` are the URBs that are not freed yet, and `dangling` the references
that the loop still has to delete after a completion. -/
structure Owned (kind : Request → Kind) (native : Native) (owned : List Held)
    (dangling : List Handle) : Prop where
  block : ∀ held ∈ owned, held.address ≠ 0 ∧
    native.heap held.address = some ⟨held.serial, some held.handle⟩
  reference : ∀ held ∈ owned, native.references held.handle = some held.owner
  stored : ∀ held ∈ owned, native.urbAddress held.owner = held.address
  asynchronous : ∀ held ∈ owned, (kind held.owner).asynchronous = true
  apart : (owned.map Held.address).Nodup
  urbs : ∀ serial : Nat, native.freed.count serial + (owned.map Held.serial).count serial +
    (native.leaked.count serial) = issued native.serials serial
  handles : ∀ handle : Nat, native.deleted.count handle + (owned.map Held.handle).count handle +
    dangling.count handle = issued native.handles handle
  live : ∀ handle ∈ dangling, (native.references handle).isSome
  faultless : native.faults = []

theorem initial_owned (kind : Request → Kind) : Owned kind Native.initial [] [] where
  block _ member := absurd member List.not_mem_nil
  reference _ member := absurd member List.not_mem_nil
  stored _ member := absurd member List.not_mem_nil
  asynchronous _ member := absurd member List.not_mem_nil
  apart := List.nodup_nil
  urbs serial := by simp [Native.initial, issued]
  handles handle := by simp [Native.initial, issued]
  live _ member := absurd member List.not_mem_nil
  faultless := rfl

variable {kind : Request → Kind} {native : Native} {owned : List Held} {dangling : List Handle}

theorem Owned.perm (sound : Owned kind native owned dangling) {other : List Held}
    (same : other.Perm owned) : Owned kind native other dangling where
  block held member := sound.block held (same.mem_iff.mp member)
  reference held member := sound.reference held (same.mem_iff.mp member)
  stored held member := sound.stored held (same.mem_iff.mp member)
  asynchronous held member := sound.asynchronous held (same.mem_iff.mp member)
  apart := (same.map _).nodup_iff.mpr sound.apart
  urbs serial := by rw [(same.map Held.serial).count_eq, sound.urbs]
  handles handle := by rw [(same.map Held.handle).count_eq, sound.handles]
  live := sound.live
  faultless := sound.faultless

theorem Owned.fresh_handle (sound : Owned kind native owned dangling) :
    native.handles ∉ owned.map Held.handle ∧ native.handles ∉ dangling ∧
      native.handles ∉ native.deleted := by
  have balance := sound.handles native.handles
  rw [issued_self] at balance
  refine ⟨?_, ?_, ?_⟩ <;> rw [← List.count_eq_zero] <;> omega

theorem Owned.newGlobalRef (sound : Owned kind native owned dangling) (request : Request) :
    Owned kind (native.newGlobalRef request) owned (native.handles :: dangling) := by
  obtain ⟨notOwned, notDangling, _⟩ := sound.fresh_handle
  refine { sound with reference := ?_, handles := ?_, live := ?_ }
  · intro held member
    have other : held.handle ≠ native.handles := by
      intro same
      exact notOwned (same ▸ List.mem_map_of_mem member)
    simp only [Native.newGlobalRef, Function.update_of_ne other]
    exact sound.reference held member
  · intro handle
    have balance := sound.handles handle
    simp only [Native.newGlobalRef, issued_succ, List.count_cons, beq_iff_eq]
    omega
  · intro handle member
    rcases List.mem_cons.mp member with same | member
    · simp [Native.newGlobalRef, same]
    · have other : handle ≠ native.handles := fun same => notDangling (same ▸ member)
      simp only [Native.newGlobalRef, Function.update_of_ne other]
      exact sound.live handle member

theorem Owned.deleteGlobalRef {handle : Handle}
    (sound : Owned kind native owned (handle :: dangling)) :
    Owned kind (native.deleteGlobalRef handle) owned dangling := by
  have balance := sound.handles handle
  have single : (owned.map Held.handle).count handle = 0 ∧ dangling.count handle = 0 := by
    rw [List.count_cons_self] at balance
    have atMost := issued_le_one native.handles handle
    omega
  obtain ⟨request, known⟩ := Option.isSome_iff_exists.mp (sound.live handle List.mem_cons_self)
  simp only [Native.deleteGlobalRef, known]
  refine { sound with reference := ?_, handles := ?_, live := ?_ }
  · intro held member
    have other : held.handle ≠ handle := by
      intro same
      exact List.count_eq_zero.mp single.1 (same ▸ List.mem_map_of_mem member)
    simp only [Function.update_of_ne other]
    exact sound.reference held member
  · intro other
    have before := sound.handles other
    simp only [List.count_append, List.count_cons, List.count_nil, beq_iff_eq] at before ⊢
    omega
  · intro other member
    have different : other ≠ handle := by
      intro same
      exact List.count_eq_zero.mp single.2 (same ▸ member)
    simp only [Function.update_of_ne different]
    exact sound.live other (List.mem_cons_of_mem _ member)

theorem Owned.elsewhere (sound : Owned kind native owned dangling) {address : Address}
    (free : native.available address = true) (held : Held) (member : held ∈ owned) :
    held.address ≠ address := by
  intro same
  have block := (sound.block held member).2
  simp only [Native.available, Bool.and_eq_true, Option.isNone_iff_eq_none] at free
  rw [same, free.2] at block
  contradiction

theorem Owned.malloc_free (sound : Owned kind native owned dangling) {address : Address}
    (free : native.available address = true) (usercontext : Option Handle) :
    Owned kind ((native.malloc address usercontext).free address) owned dangling := by
  simp only [Native.malloc, Native.free, Function.update_self]
  refine { sound with block := ?_, urbs := ?_ }
  · intro held member
    have other := sound.elsewhere free held member
    simp only [Function.update_of_ne other]
    exact sound.block held member
  · intro serial
    have balance := sound.urbs serial
    simp only [issued_succ, List.count_append, List.count_cons, List.count_nil, beq_iff_eq]
    omega

theorem Owned.leak (sound : Owned kind native owned dangling) {address : Address}
    (free : native.available address = true) :
    Owned kind { native.malloc address none with
      leaked := (native.malloc address none).leaked ++ [native.serials] } owned dangling := by
  refine { sound with block := ?_, urbs := ?_ }
  · intro held member
    have other := sound.elsewhere free held member
    simp only [Native.malloc, Function.update_of_ne other]
    exact sound.block held member
  · intro serial
    have balance := sound.urbs serial
    simp only [Native.malloc, issued_succ, List.count_append, List.count_cons, List.count_nil,
      beq_iff_eq]
    omega

theorem Owned.accept (sound : Owned kind native owned dangling) {address : Address}
    (free : native.available address = true) (request : Request)
    (isAsynchronous : (kind request).asynchronous = true)
    (owner : ∀ held ∈ owned, held.owner ≠ request) :
    Owned kind (submitWithReference native request (.accepted address)).2
      (⟨address, native.serials, native.handles, request⟩ :: owned) dangling := by
  obtain ⟨notOwned, notDangling, _⟩ := sound.fresh_handle
  have nonzero : address ≠ 0 := by
    simp only [Native.available, Bool.and_eq_true, bne_iff_ne] at free
    exact free.1
  simp only [submitWithReference, Native.newGlobalRef, Native.malloc, Native.submitUrb,
    Native.setUrbAddress]
  refine ⟨?_, ?_, ?_, ?_, ?_, ?_, ?_, ?_, sound.faultless⟩
  · intro held member
    rcases List.mem_cons.mp member with rfl | member
    · exact ⟨nonzero, by simp⟩
    · have other := sound.elsewhere free held member
      simp only [Function.update_of_ne other]
      exact sound.block held member
  · intro held member
    rcases List.mem_cons.mp member with rfl | member
    · simp
    · have other : held.handle ≠ native.handles := by
        intro same
        exact notOwned (same ▸ List.mem_map_of_mem member)
      simp only [Function.update_of_ne other]
      exact sound.reference held member
  · intro held member
    rcases List.mem_cons.mp member with rfl | member
    · simp
    · simp only [Function.update_of_ne (owner held member)]
      exact sound.stored held member
  · intro held member
    rcases List.mem_cons.mp member with rfl | member
    · exact isAsynchronous
    · exact sound.asynchronous held member
  · rw [List.map_cons, List.nodup_cons]
    refine ⟨?_, sound.apart⟩
    intro member
    obtain ⟨held, inOwned, same⟩ := List.mem_map.mp member
    exact sound.elsewhere free held inOwned same
  · intro serial
    have balance := sound.urbs serial
    simp only [issued_succ, List.map_cons, List.count_cons, beq_iff_eq]
    omega
  · intro handle
    have balance := sound.handles handle
    simp only [issued_succ, List.map_cons, List.count_cons, beq_iff_eq]
    omega
  · intro handle member
    have other : handle ≠ native.handles := fun same => notDangling (same ▸ member)
    simp only [Function.update_of_ne other]
    exact sound.live handle member

/-- The completion looks up the very URB that its request owns. -/
theorem Owned.complete_eq (sound : Owned kind native owned dangling) {held : Held}
    (here : held ∈ owned) (status : Int) :
    completeNative native (kind held.owner) held.owner status =
      (status, native.free held.address) := by
  have isAsynchronous := sound.asynchronous held here
  have found : completeUrb native held.owner status = (status, native.free held.address) := by
    rw [completeUrb, sound.stored held here, if_neg (sound.block held here).1]
  cases its : kind held.owner <;>
    simp [its, Kind.asynchronous] at isAsynchronous <;>
    simpa [completeNative, completePipeRequest, completeDcpRequest, completeIsochronousRequest]
      using found

theorem Owned.complete {held : Held} (sound : Owned kind native (held :: owned) dangling) :
    Owned kind (native.free held.address) owned (held.handle :: dangling) := by
  have here : held ∈ held :: owned := List.mem_cons_self
  have block := sound.block held here
  have apart := List.nodup_cons.mp (by simpa only [List.map_cons] using sound.apart)
  have later : ∀ other ∈ owned, other ∈ held :: owned :=
    fun other member => List.mem_cons_of_mem held member
  simp only [Native.free, block.2]
  refine ⟨?_, fun other member => sound.reference other (later other member),
    fun other member => sound.stored other (later other member),
    fun other member => sound.asynchronous other (later other member), apart.2, ?_, ?_, ?_,
    sound.faultless⟩
  · intro other member
    have different : other.address ≠ held.address := by
      intro same
      exact apart.1 (same ▸ List.mem_map_of_mem member)
    simp only [Function.update_of_ne different]
    exact sound.block other (later other member)
  · intro serial
    have balance := sound.urbs serial
    simp only [List.map_cons, List.count_append, List.count_cons, List.count_nil,
      beq_iff_eq] at balance ⊢
    omega
  · intro handle
    have balance := sound.handles handle
    simp only [List.map_cons, List.count_cons, beq_iff_eq] at balance ⊢
    omega
  · intro handle member
    rcases List.mem_cons.mp member with same | member
    · simp [same, sound.reference held here]
    · exact sound.live handle member

/-! ### The kernel's lists -/

theorem finish_kernel (native : Native) (held : Held) (status : Int)
    (pending : held ∈ native.pending) :
    (native.finishUrb held status).kernel.Perm native.kernel := by
  simp only [Native.kernel, Native.finishUrb, List.map_append, List.map_cons, List.map_nil]
  rw [← List.append_assoc]
  refine (List.perm_append_singleton held _).trans ?_
  rw [← List.cons_append]
  exact (List.perm_cons_erase pending).symm.append_right _

theorem reap_kernel (native : Native) (held : Held) (status : Int)
    (finished : (held, status) ∈ native.finished) :
    (held :: (native.reapUrb held status).kernel).Perm native.kernel := by
  simp only [Native.kernel, Native.reapUrb]
  refine List.perm_middle.symm.trans ?_
  exact ((List.perm_cons_erase finished).map Prod.fst).symm.append_left _

theorem discard_kernel (native : Native) (request : Request) (address : Address) (status : Int) :
    (native.discardUrb request address status).kernel.Perm native.kernel := by
  unfold Native.discardUrb
  cases found : native.pending.find? fun held => held.address == address with
  | none => exact List.Perm.refl _
  | some held =>
      exact finish_kernel { native with discarded := native.discarded ++ [(request, address)] }
        held status (List.mem_of_find?_eq_some found)

theorem cancel_kernel (native : Native) (kind : Kind) (request : Request) (status : Int) :
    (cancelNative native kind request status).kernel.Perm native.kernel := by
  have cancelled : (cancelUrb native request status).kernel.Perm native.kernel := by
    unfold cancelUrb
    split_ifs
    · exact List.Perm.refl _
    · exact discard_kernel native request _ status
  cases kind <;> first | exact cancelled | exact List.Perm.refl _

theorem complete_keeps (native : Native) (kind : Kind) (request : Request) (status : Int) :
    (completeNative native kind request status).2.kernel = native.kernel ∧
      (completeNative native kind request status).2.urbAddress = native.urbAddress := by
  have found : (completeUrb native request status).2.kernel = native.kernel ∧
      (completeUrb native request status).2.urbAddress = native.urbAddress := by
    unfold completeUrb
    split_ifs
    · exact ⟨rfl, rfl⟩
    · simp [Native.kernel]
  cases kind <;> first | exact found | exact ⟨rfl, rfl⟩

structure SameBlocks (before after : Native) : Prop where
  heap : after.heap = before.heap
  references : after.references = before.references
  urbAddress : after.urbAddress = before.urbAddress
  serials : after.serials = before.serials
  handles : after.handles = before.handles
  freed : after.freed = before.freed
  leaked : after.leaked = before.leaked
  deleted : after.deleted = before.deleted
  faults : after.faults = before.faults

theorem cancel_same_blocks (native : Native) (kind : Kind) (request : Request) (status : Int) :
    SameBlocks native (cancelNative native kind request status) := by
  have cancelled : SameBlocks native (cancelUrb native request status) := by
    unfold cancelUrb Native.discardUrb
    split_ifs
    · constructor <;> rfl
    · split <;> constructor <;> rfl
  cases kind <;> first | exact cancelled | (constructor <;> rfl)

theorem finish_same_blocks (native : Native) (held : Held) (status : Int) :
    SameBlocks native (native.finishUrb held status) := by
  constructor <;> rfl

theorem reap_same_blocks (native : Native) (held : Held) (status : Int) :
    SameBlocks native (native.reapUrb held status) := by
  constructor <;> rfl

theorem Owned.same_blocks (sound : Owned kind native owned dangling) {after : Native}
    (same : SameBlocks native after) : Owned kind after owned dangling := by
  constructor
  · rw [same.heap]
    exact sound.block
  · rw [same.references]
    exact sound.reference
  · rw [same.urbAddress]
    exact sound.stored
  · exact sound.asynchronous
  · exact sound.apart
  · rw [same.freed, same.leaked, same.serials]
    exact sound.urbs
  · rw [same.deleted, same.handles]
    exact sound.handles
  · rw [same.references]
    exact sound.live
  · rw [same.faults]
    exact sound.faultless

/-! ### Submission -/

/-- The native submit function tells the truth about an asynchronous request:
it returns 0 exactly when the kernel accepted the URB. -/
def Truthful (native : Native) (kind : Kind) (request : Request) (outcome : NativeOutcome) : Prop :=
  ∀ err synchronous after, submitNative native kind request outcome =
    some (err, synchronous, after) → kind.asynchronous = true →
      (err = 0 ↔ ∃ address, outcome = .urb (.accepted address))

/-- Only `isochronous_request` can return 0 without a submitted URB. -/
theorem truthful_of_not_isochronous (native : Native) {kind : Kind} (request : Request)
    (outcome : NativeOutcome) (other : kind ≠ .isochronous) :
    Truthful native kind request outcome := by
  intro err synchronous after submitted isAsynchronous
  unfold submitNative at submitted
  split_ifs at submitted with possible
  cases kind <;> simp [Kind.asynchronous] at isAsynchronous other
  all_goals
    cases outcome with
    | urb chosen =>
        simp only [pipeRequest, dcpRequest, Option.some.injEq, Prod.mk.injEq] at submitted
        obtain ⟨rfl, _, _⟩ := submitted
        cases chosen with
        | outOfMemory => simp [submitWithReference, enomem]
        | accepted address => simp [submitWithReference]
        | rejected address errno =>
            simp only [NativeOutcome.possible, SubmitOutcome.possible, Bool.and_eq_true,
              bne_iff_ne] at possible
            simpa [submitWithReference] using possible.2
    | _ => simp at submitted

inductive Submitted (kind : Request → Kind) (native : Native) (owned : List Held)
    (dangling : List Handle) (request : Request) (outcome : NativeOutcome) (err : Int)
    (synchronous : Bool) (after : Native) : Prop
  | accepted (held : Held) (mine : held.owner = request)
      (chosen : outcome = .urb (.accepted held.address))
      (free : native.available held.address = true) (silent : err = 0)
      (later : synchronous = false) (pending : after.pending = native.pending ++ [held])
      (finished : after.finished = native.finished)
      (stored : after.urbAddress = Function.update native.urbAddress request held.address)
      (sound : Owned kind after (held :: owned) dangling)
  | refused (told : err ≠ 0 ∨ synchronous = true) (pending : after.pending = native.pending)
      (finished : after.finished = native.finished)
      (stored : after.urbAddress = native.urbAddress) (sound : Owned kind after owned dangling)
  | lost (isochronous : kind request = .isochronous) (silent : err = 0)
      (later : synchronous = false) (rejected : ∀ address, outcome ≠ .urb (.accepted address))
      (pending : after.pending = native.pending) (finished : after.finished = native.finished)
      (stored : after.urbAddress = native.urbAddress) (sound : Owned kind after owned dangling)

theorem submit_with_reference_spec (sound : Owned kind native owned dangling) {request : Request}
    (isAsynchronous : (kind request).asynchronous = true)
    (owner : ∀ held ∈ owned, held.owner ≠ request) (outcome : SubmitOutcome)
    (possible : outcome.possible native = true) :
    Submitted kind native owned dangling request (.urb outcome)
      (submitWithReference native request outcome).1 false
      (submitWithReference native request outcome).2 := by
  have released := (sound.newGlobalRef request).deleteGlobalRef
  cases outcome with
  | outOfMemory =>
      refine .refused (Or.inl (by simp [submitWithReference, enomem])) ?_ ?_ ?_ released
      all_goals simp [submitWithReference, Native.newGlobalRef]
  | rejected address errno =>
      simp only [SubmitOutcome.possible, Bool.and_eq_true, bne_iff_ne] at possible
      refine .refused (Or.inl ?_) ?_ ?_ ?_ ?_
      · simpa [submitWithReference] using possible.2
      · simp [submitWithReference, Native.newGlobalRef, Native.malloc]
      · simp [submitWithReference, Native.newGlobalRef, Native.malloc]
      · simp [submitWithReference, Native.newGlobalRef, Native.malloc]
      · simp only [submitWithReference, Native.malloc_delete]
        apply released.malloc_free
        simpa [Native.available, Native.newGlobalRef] using possible.1
  | accepted address =>
      exact .accepted ⟨address, native.serials, native.handles, request⟩ rfl rfl possible rfl rfl
        rfl rfl rfl (sound.accept possible request isAsynchronous owner)

theorem submit_native_spec (sound : Owned kind native owned dangling) {request : Request}
    (owner : ∀ held ∈ owned, held.owner ≠ request) {outcome : NativeOutcome} {err : Int}
    {synchronous : Bool} {after : Native}
    (submitted : submitNative native (kind request) request outcome =
      some (err, synchronous, after)) :
    Submitted kind native owned dangling request outcome err synchronous after := by
  unfold submitNative at submitted
  split_ifs at submitted with possible
  have spec : ∀ chosen, (kind request).asynchronous = true → chosen.possible native = true →
      Submitted kind native owned dangling request (.urb chosen)
        (submitWithReference native request chosen).1 false
        (submitWithReference native request chosen).2 :=
    fun chosen isAsynchronous => submit_with_reference_spec sound isAsynchronous owner chosen
  cases outcome with
  | synchronous error =>
      cases its : kind request <;> simp [its, isochronousRequest] at submitted
      all_goals
        obtain ⟨_, rfl, rfl⟩ := submitted
        exact .refused (Or.inr rfl) rfl rfl rfl sound
  | urb chosen =>
      cases its : kind request with
      | pipe | dcp =>
          simp only [its, pipeRequest, dcpRequest, Option.some.injEq, Prod.mk.injEq] at submitted
          obtain ⟨rfl, rfl, rfl⟩ := submitted
          exact spec chosen (by rw [its]; rfl) possible
      | isochronous =>
          simp only [its] at submitted
          cases chosen with
          | outOfMemory =>
              simp only [isochronousRequest, Option.map_some, Option.some.injEq,
                Prod.mk.injEq] at submitted
              obtain ⟨rfl, rfl, rfl⟩ := submitted
              exact .lost its rfl rfl (by simp) rfl rfl rfl sound
          | rejected | accepted =>
              simp only [isochronousRequest, Option.map_some, Option.some.injEq,
                Prod.mk.injEq] at submitted
              obtain ⟨rfl, rfl, rfl⟩ := submitted
              exact spec _ (by rw [its]; rfl) possible
      | _ => simp [its] at submitted
  | noIsochronousBuffer address =>
      cases its : kind request <;> simp [its, isochronousRequest] at submitted
      obtain ⟨rfl, rfl, rfl⟩ := submitted
      exact .lost its rfl rfl (by simp) rfl rfl rfl (sound.leak possible)
  | noIsochronousData address =>
      cases its : kind request <;> simp [its, isochronousRequest] at submitted
      obtain ⟨rfl, rfl, rfl⟩ := submitted
      refine .refused (Or.inl (by simp [einval])) ?_ ?_ ?_ (sound.malloc_free possible none)
      all_goals simp [Native.malloc]

end JavaxUsbLinux.UrbOwnership
