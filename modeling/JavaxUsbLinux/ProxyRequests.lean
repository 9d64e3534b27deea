import JavaxUsbLinux.RequestCompletion

/-!
# What the proxy owes to its clients

No request is lost, duplicated or reordered between `submit` and its
completion, whatever the threads, the loop and the kernel do.
-/

namespace JavaxUsbLinux.ProxyRequests

open JavaxUsbLinux.NativeUrb
open JavaxUsbLinux.UrbOwnership
open JavaxUsbLinux.DeviceProxy
open JavaxUsbLinux.ProxyPlaces
open JavaxUsbLinux.PipeSystem
open JavaxUsbLinux.RequestCompletion
open JavaxUsbLinux.Runs

set_option autoImplicit false

inductive Place where
  | ready
  | hand
  | kernel
  | completed

/-- Where a request is. It is completed from the call of `setCompleted(true)` on. -/
def InPlace (proxy : Proxy) (request : Request) : Place → Prop
  | .ready => request ∈ proxy.readyList
  | .hand => proxy.loop = .submit request ∨
      ∃ held status, proxy.loop = .complete held status ∧ held.owner = request
  | .kernel => ∃ held ∈ proxy.native.kernel, held.owner = request
  | .completed => request ∈ proxy.settled

def stock (proxy : Proxy) (request : Request) : Place → Nat
  | .ready => proxy.readyList.count request
  | .hand => proxy.loop.hand.count request + (proxy.loop.reaped.map Held.owner).count request
  | .kernel => (proxy.native.kernel.map Held.owner).count request
  | .completed => proxy.settled.count request

theorem in_place_iff (proxy : Proxy) (request : Request) (place : Place) :
    InPlace proxy request place ↔ 0 < stock proxy request place := by
  cases place with
  | ready => exact List.count_pos_iff.symm
  | completed => exact List.count_pos_iff.symm
  | kernel => simp [InPlace, stock, List.count_pos_iff]
  | hand =>
      simp only [InPlace, stock, Nat.add_pos_iff_pos_or_pos, List.count_pos_iff]
      cases proxy.loop with
      | submit other =>
          simp only [LoopPc.hand, LoopPc.reaped, List.mem_singleton, List.map_nil,
            List.not_mem_nil, or_false, LoopPc.submit.injEq, reduceCtorEq, false_and,
            exists_false]
          exact eq_comm
      | complete held status =>
          simp only [LoopPc.hand, LoopPc.reaped, List.map_cons, List.map_nil, List.mem_singleton,
            List.not_mem_nil, false_or, reduceCtorEq, LoopPc.complete.injEq]
          simp [eq_comm]
      | _ => simp [LoopPc.hand, LoopPc.reaped]

theorem stock_total {kind : Request → Kind} {proxy : Proxy} (sound : Sound kind proxy)
    (noneLost : proxy.lost = []) (request : Request) :
    stock proxy request .ready + stock proxy request .hand + stock proxy request .kernel +
      stock proxy request .completed = proxy.submitted.count request := by
  have placed := sound.placed request
  simp only [places, Proxy.owned, noneLost, List.map_append, List.count_append,
    List.count_nil] at placed
  simp only [stock]
  omega

theorem place_unique {kind : Request → Kind} {proxy : Proxy} (sound : Sound kind proxy)
    (noneLost : proxy.lost = []) {request : Request} (submitted : request ∈ proxy.submitted) :
    ∃! place, InPlace proxy request place := by
  have total := stock_total sound noneLost request
  have atMost := List.nodup_iff_count_le_one.mp sound.once request
  have atLeast := List.count_pos_iff.mpr submitted
  have somewhere : ∃ place, 0 < stock proxy request place := by
    by_contra nowhere
    simp only [not_exists, Nat.not_lt, Nat.le_zero] at nowhere
    simp only [nowhere] at total
    omega
  obtain ⟨place, here⟩ := somewhere
  refine ⟨place, (in_place_iff proxy request place).mpr here, ?_⟩
  intro other there
  rw [in_place_iff] at there
  cases place <;> cases other <;> first | rfl | omega

/-- No request is lost, duplicated or reordered as long as the native submit
functions tell the truth. -/
theorem requests_kept (requests : Requests) {state : State}
    (reached : Reach (step requests) (HonestStep requests) State.initial state) :
    (∀ request ∈ state.proxy.submitted, ∃! place, InPlace state.proxy request place) ∧
      (∀ request, InPlace state.proxy request .completed →
        state.proxy.settled.count request = 1) ∧
      (∀ request, ¬ InPlace state.proxy request .completed →
        state.proxy.settled.count request = 0 ∧ state.completed request = false) ∧
      state.proxy.handed ++ state.proxy.readyList =
        state.proxy.submitted.filter fun request => decide (request ∉ state.proxy.removed) := by
  have proxyRun := honest_proxy_run reached
  have sound := sound_of_reach proxyRun
  have noneLost := none_lost proxyRun
  have settling := settling_of_reach reached
  refine ⟨fun request => place_unique sound noneLost, ?_, ?_, sound.ordered⟩
  · intro request completed
    have atMost := List.nodup_iff_count_le_one.mp sound.once request
    have total := stock_total sound noneLost request
    have atLeast := List.count_pos_iff.mpr completed
    simp only [stock] at total
    omega
  · intro request outside
    refine ⟨List.count_eq_zero.mpr outside, ?_⟩
    cases done : state.completed request with
    | false => rfl
    | true => exact absurd (settling.flagged request done) outside

def exampleRequests : Requests where
  kind request := if request = 2 then .dcp else .pipe
  pipe _ := 0

theorem example_plain (request : Request) : exampleRequests.kind request ≠ .isochronous := by
  simp only [exampleRequests]
  split_ifs <;> simp

theorem example_honest {state : State}
    (reached : Reach (step exampleRequests) anyStep State.initial state) :
    Reach (step exampleRequests) (HonestStep exampleRequests) State.initial state := by
  apply reached.weaken
  intro before label _
  exact honest_step exampleRequests example_plain before label

def twoSubmissions : List Label :=
  [.submit 0 2, .asyncSubmit 1 5, .record 1, .loop .testReady, .loop .getReadyRequest,
    .loop (.submitRequest (.urb (.accepted 100))), .loop .getCancelRequest, .loop (.reap none),
    .loop .testReady, .loop .getReadyRequest, .loop (.submitRequest (.urb (.rejected 200 19))),
    .loop .stage, .loop .stage, .loop .stage]

theorem requests_kept_two_submissions :
    ∃ state, run (step exampleRequests) twoSubmissions State.initial = some state ∧
      (∀ request ∈ state.proxy.submitted, ∃! place, InPlace state.proxy request place) ∧
      (∀ request, InPlace state.proxy request .completed →
        state.proxy.settled.count request = 1) ∧
      (∀ request, ¬ InPlace state.proxy request .completed →
        state.proxy.settled.count request = 0 ∧ state.completed request = false) ∧
      state.proxy.handed ++ state.proxy.readyList =
        state.proxy.submitted.filter fun request => decide (request ∉ state.proxy.removed) := by
  obtain ⟨state, ran⟩ := Option.isSome_iff_exists.mp
    (show (run (step exampleRequests) twoSubmissions State.initial).isSome = true by rfl)
  exact ⟨state, ran, requests_kept exampleRequests
    (example_honest (reach_of_run twoSubmissions ran))⟩

end JavaxUsbLinux.ProxyRequests
