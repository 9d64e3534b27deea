import JavaxUsbLinux.CancelQueue

/-!
# No cancel is lost

`abortAllSubmissions` takes a request off the list of its pipe before it cancels
it, so each request is cancelled once. The invariant is that a request which a
thread or a list still holds for a cancel is booked once and has not been
completed by another cancel. A queued cancel is then for a request that the loop
has taken over, and the loop serves it after its `submitRequest` has returned.
-/

namespace JavaxUsbLinux.CancelOnce

open JavaxUsbLinux.NativeUrb
open JavaxUsbLinux.DeviceProxy
open JavaxUsbLinux.ProxyPlaces
open JavaxUsbLinux.PipeSystem
open JavaxUsbLinux.RequestCompletion
open JavaxUsbLinux.ProxyRequests
open JavaxUsbLinux.CancelQueue
open JavaxUsbLinux.Runs

set_option autoImplicit false

/-- The requests that a thread is about to cancel, or to put on the list of a pipe. -/
def toCome : ClientPc → List Request
  | .recording request => [request]
  | .cancelling _ todo | .completing _ todo _ _ => todo
  | .queueing _ todo request => request :: todo
  | .idle | .aborting _ _ | .waiting _ _ _ => []

/-- What each thread, and the list of each pipe, holds for a cancel. -/
def booked (client : Thread → ClientPc) (inProgress : Pipe → List Request) :
    Thread ⊕ Pipe → List Request :=
  Sum.elim (fun thread => toCome (client thread)) inProgress

theorem booked_client (client : Thread → ClientPc) (inProgress : Pipe → List Request)
    (thread : Thread) (pc : ClientPc) :
    booked (Function.update client thread pc) inProgress =
      Function.update (booked client inProgress) (.inl thread) (toCome pc) := by
  simp only [booked, Sum.update_elim_inl]
  congr 1
  funext other
  by_cases same : other = thread <;> simp [same]

theorem booked_list (client : Thread → ClientPc) (inProgress : Pipe → List Request) (pipe : Pipe)
    (list : List Request) :
    booked client (Function.update inProgress pipe list) =
      Function.update (booked client inProgress) (.inr pipe) list := by
  simp only [booked, Sum.update_elim_inr]

def Unbooked (state : State) (request : Request) : Prop :=
  ∀ holder, request ∉ booked state.client state.inProgress holder

def Uncancelled (proxy : Proxy) (list : List Request) : Prop :=
  ∀ request ∈ list, request ∈ proxy.submitted ∧ request ∉ proxy.removed

structure CancelledOnce (state : State) : Prop where
  separate : Separate (booked state.client state.inProgress)
  uncancelled : ∀ holder,
    Uncancelled state.proxy (booked state.client state.inProgress holder)
  queued : ∀ request ∈ state.proxy.cancelList, request ∈ state.proxy.handed
  serving : ∀ request, state.proxy.loop = .cancel request → request ∈ state.proxy.handed

theorem handed_kept {kind : Request → Kind} {before after : Proxy} {action : Move}
    (moved : Moved kind before action after) {request : Request}
    (handed : request ∈ before.handed) : request ∈ after.handed := by
  cases moved with
  | takeReady other rest here first => exact List.mem_append_left _ handed
  | _ => exact handed

theorem removed_after {kind : Request → Kind} {before after : Proxy} {action : Move}
    (moved : Moved kind before action after) {request : Request}
    (removed : request ∈ after.removed) :
    request ∈ before.removed ∨ action = .withdraw request := by
  cases moved with
  | withdraw other ready =>
      rcases List.mem_append.mp removed with old | new
      · exact Or.inl old
      · exact Or.inr (by rw [List.mem_singleton.mp new])
  | _ => exact Or.inl removed

namespace CancelledOnce

variable {state : State}

/-- The proxy moves, without completing a booked request by a cancel. -/
theorem proxy {kind : Request → Kind} (once : CancelledOnce state) {proxy : Proxy} {action : Move}
    (moved : move kind state.proxy action = some proxy)
    (withdraws : ∀ request, action = .withdraw request → Unbooked state request)
    (queues : ∀ request, action = .queue request → request ∈ state.proxy.handed) :
    CancelledOnce { state with proxy := proxy } := by
  have steps := moved_of_move moved
  refine ⟨once.separate, ?_, ?_, ?_⟩
  · intro holder request member
    obtain ⟨submitted, open_⟩ := once.uncancelled holder request member
    refine ⟨submitted_kept steps submitted, fun removed => ?_⟩
    rcases removed_after steps removed with old | now
    · exact open_ old
    · exact withdraws request now holder member
  · intro request member
    apply handed_kept steps
    cases steps with
    | queue other =>
        rcases List.mem_append.mp member with old | new
        · exact once.queued request old
        · rw [List.mem_singleton.mp new]
          exact queues other rfl
    | takeCancel other rest here first =>
        apply once.queued
        rw [first]
        exact List.mem_cons_of_mem other member
    | _ => exact once.queued request member
  · intro request here
    apply handed_kept steps
    cases steps with
    | takeCancel other rest found first =>
        apply once.queued
        rw [first]
        injection here with same
        rw [same]
        exact List.mem_cons_self
    | submit | withdraw | queue | finish => exact once.serving request here
    | testReady | testCancel =>
        simp only at here
        split_ifs at here
    | lastStage other stage resume found last => cases resume <;> simp [Resume.pc] at here
    | _ => simp at here

theorem bookings (once : CancelledOnce state) {client : Thread → ClientPc}
    {inProgress : Pipe → List Request} {holder : Thread ⊕ Pipe} {list : List Request}
    (changed : booked client inProgress =
      Function.update (booked state.client state.inProgress) holder list)
    (separate : Separate (booked client inProgress)) (known : Uncancelled state.proxy list) :
    CancelledOnce { state with client := client, inProgress := inProgress } := by
  refine ⟨separate, fun other => ?_, once.queued, once.serving⟩
  rw [changed]
  exact update_keeps (Uncancelled state.proxy) (once.uncancelled other) fun _ => known

/-- One holder gives bookings up. -/
theorem gives_up (once : CancelledOnce state) {client : Thread → ClientPc}
    {inProgress : Pipe → List Request} {holder : Thread ⊕ Pipe} {list : List Request}
    (changed : booked client inProgress =
      Function.update (booked state.client state.inProgress) holder list)
    (fewer : list.Sublist (booked state.client state.inProgress holder)) :
    CancelledOnce { state with client := client, inProgress := inProgress } := by
  have separate := separate_shrink once.separate holder fewer
  rw [← changed] at separate
  exact once.bookings changed separate fun request member =>
    once.uncancelled holder request (fewer.subset member)

theorem client (once : CancelledOnce state) (thread : Thread) (pc : ClientPc)
    (fewer : (toCome pc).Sublist (toCome (state.client thread))) :
    CancelledOnce (state.setClient thread pc) :=
  once.gives_up (booked_client _ _ thread pc) fewer

/-- The bookings of one holder go to another one. -/
theorem hands_over (once : CancelledOnce state) {giver taker : Thread ⊕ Pipe}
    (different : giver ≠ taker) {client : Thread → ClientPc} {inProgress : Pipe → List Request}
    (changed : booked client inProgress =
      Function.update (Function.update (booked state.client state.inProgress) giver []) taker
        (booked state.client state.inProgress taker ++
          booked state.client state.inProgress giver)) :
    CancelledOnce { state with client := client, inProgress := inProgress } := by
  have separate := separate_hand_over once.separate different
  rw [← changed] at separate
  refine ⟨separate, fun other => ?_, once.queued, once.serving⟩
  rw [changed]
  apply update_keeps (Uncancelled state.proxy)
  · apply update_keeps (Uncancelled state.proxy) (once.uncancelled other)
    intro _ request member
    cases member
  · intro _ request member
    rcases List.mem_append.mp member with old | given
    · exact once.uncancelled taker request old
    · exact once.uncancelled giver request given

theorem record (once : CancelledOnce state) {thread : Thread} {request : Request}
    (here : state.client thread = .recording request) (pipe : Pipe) :
    CancelledOnce { state.setClient thread .idle with
      inProgress := Function.update state.inProgress pipe
        (state.inProgress pipe ++ [request]) } := by
  have mine : booked state.client state.inProgress (.inl thread) = [request] :=
    congrArg toCome here
  have different : (.inl thread : Thread ⊕ Pipe) ≠ .inr pipe := Sum.inl_ne_inr
  apply once.hands_over different
  rw [booked_list, State.setClient, booked_client, mine]
  rfl

theorem snapshot (once : CancelledOnce state) {thread : Thread} {pipe : Pipe}
    {owed : List Request} (here : state.client thread = .aborting pipe owed) (call : Call) :
    CancelledOnce { state.setClient thread (.cancelling call (state.inProgress pipe)) with
      inProgress := Function.update state.inProgress pipe [] } := by
  have mine : booked state.client state.inProgress (.inl thread) = [] := congrArg toCome here
  have different : (.inr pipe : Thread ⊕ Pipe) ≠ .inl thread := Sum.inr_ne_inl
  apply once.hands_over different
  rw [booked_list, State.setClient, booked_client, mine, Function.update_comm different]
  rfl

theorem settle (once : CancelledOnce state) (requests : Requests) (request : Request)
    (stage : Stage) : CancelledOnce (state.settle requests request stage) := by
  cases stage with
  | complete => exact { once with }
  | flag => exact { once with }
  | unlist =>
      have fewer := once.gives_up (booked_list state.client state.inProgress
        (requests.pipe request) ((state.inProgress (requests.pipe request)).erase request))
        List.erase_sublist
      exact { fewer with }

end CancelledOnce

theorem removed_kept {kind : Request → Kind} {before after : Proxy} {action : Move}
    (moved : Moved kind before action after) : before.removed ⊆ after.removed := by
  cases moved with
  | withdraw other ready => exact List.subset_append_left _ _
  | _ => exact List.Subset.refl _

end JavaxUsbLinux.CancelOnce
