import JavaxUsbLinux.ProxyRequests

/-!
# The life of an URB

In a run without isochronous requests no block is forgotten. Each URB is then
freed once, by the completion of the request that it was submitted for, and the
reference in its `usercontext` is deleted once, after that completion.
-/

namespace JavaxUsbLinux.UrbLife

open JavaxUsbLinux.NativeUrb
open JavaxUsbLinux.UrbOwnership
open JavaxUsbLinux.DeviceProxy
open JavaxUsbLinux.ProxyPlaces
open JavaxUsbLinux.PipeSystem
open JavaxUsbLinux.ProxyRequests
open JavaxUsbLinux.Runs

set_option autoImplicit false

/-! ### Nothing is forgotten -/

@[simp] theorem delete_leaked (native : Native) (handle : Handle) :
    (native.deleteGlobalRef handle).leaked = native.leaked := by
  unfold Native.deleteGlobalRef
  split <;> rfl

@[simp] theorem free_leaked (native : Native) (address : Address) :
    (native.free address).leaked = native.leaked := by
  unfold Native.free
  split <;> rfl

theorem submit_with_reference_leaked (native : Native) (request : Request)
    (outcome : SubmitOutcome) :
    (submitWithReference native request outcome).2.leaked = native.leaked := by
  cases outcome with
  | outOfMemory => simp [submitWithReference, Native.newGlobalRef]
  | rejected address errno => simp [submitWithReference, Native.newGlobalRef, Native.malloc]
  | accepted address => rfl

theorem submit_native_leaked {native after : Native} {kind : Kind} {request : Request}
    {outcome : NativeOutcome} {err : Int} {synchronous : Bool}
    (submitted : submitNative native kind request outcome = some (err, synchronous, after))
    (plain : kind ≠ .isochronous) : after.leaked = native.leaked := by
  unfold submitNative at submitted
  split_ifs at submitted
  cases kind with
  | isochronous => exact absurd rfl plain
  | pipe | dcp =>
      cases outcome with
      | urb chosen =>
          cases submitted
          exact submit_with_reference_leaked native request chosen
      | _ => cases submitted
  | _ =>
      cases outcome with
      | synchronous error =>
          cases submitted
          rfl
      | _ => cases submitted

theorem complete_native_leaked (native : Native) (kind : Kind) (request : Request)
    (status : Int) : (completeNative native kind request status).2.leaked = native.leaked := by
  have found : (completeUrb native request status).2.leaked = native.leaked := by
    unfold completeUrb
    split_ifs
    · rfl
    · exact free_leaked native _
  cases kind with
  | pipe | dcp | isochronous => exact found
  | _ => rfl

theorem leaked_kept {kind : Request → Kind} (plain : ∀ request, kind request ≠ .isochronous)
    {before after : Proxy} {action : Move} (moved : Moved kind before action after) :
    after.native.leaked = before.native.leaked := by
  cases moved with
  | settleSubmit request outcome err synchronous native here done settles =>
      exact submit_native_leaked done (plain request)
  | sendSubmit request outcome native here done => exact submit_native_leaked done (plain request)
  | cancelRequest request status here =>
      exact (cancel_same_blocks before.native (kind request) request status).leaked
  | completeRequest held status handle request here found referred =>
      exact complete_native_leaked before.native (kind request) request status
  | deleteReference handle here => exact delete_leaked before.native handle
  | _ => rfl

theorem none_leaked {requests : Requests} (plain : ∀ request, requests.kind request ≠ .isochronous)
    {state : State} (reached : Reach (step requests) anyStep State.initial state) :
    state.proxy.native.leaked = [] := by
  apply reached.invariant (fun state => state.proxy.native.leaked = []) rfl
  intro before label after none _ taken
  rcases step_moves taken with same | ⟨action, _, moved⟩
  · rw [same]
    exact none
  · rw [leaked_kept plain (moved_of_move moved)]
    exact none

/-! ### Every URB is freed once -/

/-- The URB of `held` is live and leads back to the request it was submitted for. -/
structure LeadsBack (native : Native) (held : Held) : Prop where
  block : native.heap held.address = some ⟨held.serial, some held.handle⟩
  reference : native.references held.handle = some held.owner
  stored : native.urbAddress held.owner = held.address
  unfreed : held.serial ∉ native.freed
  undeleted : held.handle ∉ native.deleted

structure UrbsKept (proxy : Proxy) : Prop where
  /-- An allocated URB has been freed once, or it is in the kernel or just reaped. -/
  freedOnce : ∀ serial < proxy.native.serials,
    proxy.native.freed.count serial + (proxy.owned.map Held.serial).count serial = 1
  /-- A reference has been deleted once, or its request is not completed, or the
  loop is between the completion and the deletion. -/
  deletedOnce : ∀ handle < proxy.native.handles,
    proxy.native.deleted.count handle + (proxy.owned.map Held.handle).count handle +
      proxy.loop.dangling.count handle = 1
  kernel : ∀ held ∈ proxy.native.kernel, LeadsBack proxy.native held
  reaped : ∀ held status, proxy.loop = .complete held status → LeadsBack proxy.native held
  faultless : proxy.native.faults = []

structure FreesReaped (before after : Proxy) (held : Held) : Prop where
  freed : after.native.freed = before.native.freed ++ [held.serial]
  heap : after.native.heap = Function.update before.native.heap held.address none
  deleted : after.native.deleted = before.native.deleted
  settled : after.settled = before.settled ++ [held.owner]
  dangling : after.loop.dangling = [held.handle]

theorem owned_leads_back {kind : Request → Kind} {proxy : Proxy} (sound : Sound kind proxy)
    {held : Held} (owned : held ∈ proxy.owned) : LeadsBack proxy.native held := by
  have serials := sound.urbs.urbs held.serial
  have handles := sound.urbs.handles held.handle
  have serialOnce := issued_le_one proxy.native.serials held.serial
  have handleOnce := issued_le_one proxy.native.handles held.handle
  have serialIn := List.count_pos_iff.mpr (List.mem_map_of_mem (f := Held.serial) owned)
  have handleIn := List.count_pos_iff.mpr (List.mem_map_of_mem (f := Held.handle) owned)
  constructor
  · exact (sound.urbs.block held owned).2
  · exact sound.urbs.reference held owned
  · exact sound.urbs.stored held owned
  · rw [← List.count_eq_zero]
    omega
  · rw [← List.count_eq_zero]
    omega

theorem urbs_kept_of_sound {kind : Request → Kind} {proxy : Proxy} (sound : Sound kind proxy)
    (noneLeaked : proxy.native.leaked = []) : UrbsKept proxy := by
  constructor
  · intro serial allocated
    have balance := sound.urbs.urbs serial
    simp only [noneLeaked, List.count_nil, issued, if_pos allocated] at balance
    omega
  · intro handle created
    have balance := sound.urbs.handles handle
    simpa only [issued, if_pos created] using balance
  · intro held member
    exact owned_leads_back sound (List.mem_append_right _ member)
  · intro held status here
    apply owned_leads_back sound
    simp [Proxy.owned, here, LoopPc.reaped]
  · exact sound.urbs.faultless

theorem complete_frees {kind : Request → Kind} {before : Proxy} (sound : Sound kind before)
    {held : Held} {status : Int} (here : before.loop = .complete held status) :
    ∃ after, move kind before .completeRequest = some after ∧ FreesReaped before after held := by
  have owned : held ∈ before.owned := by simp [Proxy.owned, here, LoopPc.reaped]
  have back := owned_leads_back sound owned
  have completes := sound.urbs.complete_eq owned status
  have frees : before.native.free held.address = { before.native with
      heap := Function.update before.native.heap held.address none
      freed := before.native.freed ++ [held.serial] } := by
    simp only [Native.free, back.block]
  simp only [move, DeviceProxy.completeRequest, here, back.block, back.reference, completes,
    Option.bind_some, Option.some.injEq, exists_eq_left']
  constructor
  · simp only [frees]
  · simp only [frees]
  · simp only [frees]
  · rfl
  · rfl

theorem delete_deletes {kind : Request → Kind} {before : Proxy} (sound : Sound kind before)
    {handle : Handle} (here : before.loop = .deleteReference handle) :
    ∃ after, move kind before .deleteReference = some after ∧
      after.native.deleted = before.native.deleted ++ [handle] := by
  have dangling : handle ∈ before.loop.dangling := by simp [here, LoopPc.dangling]
  obtain ⟨request, known⟩ := Option.isSome_iff_exists.mp (sound.urbs.live handle dangling)
  simp only [move, DeviceProxy.deleteReference, here, Native.deleteGlobalRef, known,
    Option.some.injEq, exists_eq_left']

/-- Each URB is freed exactly once and not while the kernel holds it, by the
completion that follows its reaping, and each reference is deleted exactly once
and after that completion. -/
theorem urbs_freed_once (requests : Requests)
    (plain : ∀ request, requests.kind request ≠ .isochronous) {state : State}
    (reached : Reach (step requests) anyStep State.initial state) :
    UrbsKept state.proxy ∧
      (∀ held status, state.proxy.loop = .complete held status →
        ∃ after, step requests state (.loop .completeRequest) = some after ∧
          FreesReaped state.proxy after.proxy held) ∧
      (∀ handle, state.proxy.loop = .deleteReference handle →
        ∃ after, step requests state (.loop .deleteReference) = some after ∧
          after.proxy.native.deleted = state.proxy.native.deleted ++ [handle]) := by
  have sound := sound_run reached
  refine ⟨urbs_kept_of_sound sound (none_leaked plain reached), ?_, ?_⟩
  · intro held status here
    obtain ⟨proxy, moved, frees⟩ := complete_frees sound here
    exact ⟨{ state with proxy := proxy }, by simp [step, loopStep, moved], frees⟩
  · intro handle here
    obtain ⟨proxy, moved, deletes⟩ := delete_deletes sound here
    exact ⟨{ state with proxy := proxy }, by simp [step, loopStep, moved], deletes⟩

/-- The address 100 is used for a rejected URB and again for an accepted one. -/
def addressReused : List Label :=
  [.submit 0 2, .submit 1 5, .loop .testReady, .loop .getReadyRequest,
    .loop (.submitRequest (.urb (.rejected 100 19))), .loop .stage, .loop .stage,
    .loop .getCancelRequest, .loop (.reap none), .loop .testReady, .loop .getReadyRequest,
    .loop (.submitRequest (.urb (.accepted 100))), .loop .getCancelRequest,
    .loop (.finish ⟨100, 1, 1, 5⟩ 0), .loop (.reap (some (⟨100, 1, 1, 5⟩, 0)))]

theorem urbs_freed_once_address_reused :
    ∃ state, run (step exampleRequests) addressReused State.initial = some state ∧
      UrbsKept state.proxy ∧
      ∃ after, step exampleRequests state (.loop .completeRequest) = some after ∧
        FreesReaped state.proxy after.proxy ⟨100, 1, 1, 5⟩ := by
  have ends : (run (step exampleRequests) addressReused State.initial).map
      (fun state => state.proxy.loop) = some (.complete ⟨100, 1, 1, 5⟩ 0) := rfl
  obtain ⟨state, ran, here⟩ := Option.map_eq_some_iff.mp ends
  have kept := urbs_freed_once exampleRequests example_plain (reach_of_run addressReused ran)
  exact ⟨state, ran, kept.1, kept.2.1 _ 0 here⟩

end JavaxUsbLinux.UrbLife
