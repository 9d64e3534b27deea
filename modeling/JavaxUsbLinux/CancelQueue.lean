import JavaxUsbLinux.ProxyRequests

/-!
# Queued cancels

`cancel` looks for the request in `readyList` and queues the cancel only when
the request is gone from there. The invariant is that a request whose cancel is
queued has been submitted and is not in `readyList` any more.
-/

namespace JavaxUsbLinux.CancelQueue

open JavaxUsbLinux.NativeUrb
open JavaxUsbLinux.DeviceProxy
open JavaxUsbLinux.ProxyPlaces
open JavaxUsbLinux.PipeSystem
open JavaxUsbLinux.ProxyRequests
open JavaxUsbLinux.Runs

set_option autoImplicit false

/-- `cancel` is called only after `submit` returned, as `abortAllSubmissions` does. -/
def CancelAfterSubmit (state : State) : Label → Prop
  | .cancel _ request => request ∈ state.proxy.submitted
  | _ => True

/-- The native submit function of the request tells the truth in this step. -/
def HonestAboutStep (requests : Requests) (request : Request) (state : State) : Label → Prop
  | .loop action => HonestAbout requests.kind request state.proxy action
  | _ => True

def OrderlyStep (requests : Requests) (request : Request) (state : State) (label : Label) : Prop :=
  HonestAboutStep requests request state label ∧ CancelAfterSubmit state label

/-- The request has been submitted and has left `readyList`. -/
def Gone (proxy : Proxy) (request : Request) : Prop :=
  request ∈ proxy.submitted ∧ request ∉ proxy.readyList

theorem gone_kept {kind : Request → Kind} {before after : Proxy} {action : Move}
    (moved : Moved kind before action after) {request : Request} (gone : Gone before request) :
    Gone after request := by
  obtain ⟨submitted, notReady⟩ := gone
  cases moved with
  | submit other fresh =>
      have different : request ≠ other := fun same => fresh (same ▸ submitted)
      simp [Gone, submitted, notReady, different]
  | withdraw other ready =>
      exact ⟨submitted, fun member => notReady (List.mem_of_mem_erase member)⟩
  | takeReady other rest here first =>
      refine ⟨submitted, fun member => notReady ?_⟩
      rw [first]
      exact List.mem_cons_of_mem other member
  | _ => exact ⟨submitted, notReady⟩

def ClientOrderly (proxy : Proxy) : ClientPc → Prop
  | .recording request => request ∈ proxy.submitted
  | .cancelling _ todo | .completing _ todo _ _ => ∀ request ∈ todo, request ∈ proxy.submitted
  | .queueing _ todo request =>
      Gone proxy request ∧ ∀ request ∈ todo, request ∈ proxy.submitted
  | .idle | .aborting _ _ | .waiting _ _ _ => True

theorem client_orderly_kept {kind : Request → Kind} {before after : Proxy} {action : Move}
    (moved : Moved kind before action after) {pc : ClientPc} (orderly : ClientOrderly before pc) :
    ClientOrderly after pc := by
  cases pc with
  | recording request => exact submitted_kept moved orderly
  | cancelling call todo =>
      exact fun request member => submitted_kept moved (orderly request member)
  | completing call todo other stage =>
      exact fun request member => submitted_kept moved (orderly request member)
  | queueing call todo request =>
      exact ⟨gone_kept moved orderly.1,
        fun other member => submitted_kept moved (orderly.2 other member)⟩
  | _ => trivial

structure Queued (state : State) : Prop where
  inProgress : ∀ pipe, ∀ request ∈ state.inProgress pipe, request ∈ state.proxy.submitted
  clients : ∀ thread, ClientOrderly state.proxy (state.client thread)
  queued : ∀ request ∈ state.proxy.cancelList, Gone state.proxy request
  serving : ∀ request, state.proxy.loop = .cancel request → Gone state.proxy request

theorem Queued.client {state : State} (queued : Queued state) (thread : Thread) (pc : ClientPc)
    (orderly : ClientOrderly state.proxy pc) : Queued (state.setClient thread pc) :=
  ⟨queued.inProgress, State.set_client_forall thread orderly queued.clients, queued.queued,
    queued.serving⟩

theorem Queued.proxy {kind : Request → Kind} {state : State} (queued : Queued state)
    {proxy : Proxy} {action : Move} (moved : move kind state.proxy action = some proxy)
    (queues : ∀ request, action = .queue request → Gone state.proxy request) :
    Queued { state with proxy := proxy } := by
  have steps := moved_of_move moved
  refine ⟨fun pipe request member => submitted_kept steps (queued.inProgress pipe request member),
    fun thread => client_orderly_kept steps (queued.clients thread), ?_, ?_⟩
  · intro request member
    apply gone_kept steps
    cases steps with
    | queue other =>
        rcases List.mem_append.mp member with member | single
        · exact queued.queued request member
        · rw [List.mem_singleton.mp single]
          exact queues other rfl
    | takeCancel other rest here first =>
        apply queued.queued
        rw [first]
        exact List.mem_cons_of_mem other member
    | _ => exact queued.queued request member
  · intro request here
    apply gone_kept steps
    cases steps with
    | takeCancel other rest found first =>
        apply queued.queued
        rw [first]
        injection here with same
        rw [same]
        exact List.mem_cons_self
    | submit | withdraw | queue | finish => exact queued.serving request here
    | testReady | testCancel =>
        simp only at here
        split_ifs at here
    | lastStage other stage resume found last => cases resume <;> simp [Resume.pc] at here
    | _ => simp at here

/-- A list of requests in progress may lose members, and gain submitted ones. -/
theorem Queued.lists {state : State} (queued : Queued state) (pipe : Pipe) (list : List Request)
    (known : ∀ request ∈ list, request ∈ state.proxy.submitted) :
    Queued { state with inProgress := Function.update state.inProgress pipe list } := by
  refine { queued with inProgress := ?_ }
  intro other request member
  simp only [Function.update_apply] at member
  split_ifs at member
  · exact known request member
  · exact queued.inProgress other request member

theorem Queued.settle {state : State} (queued : Queued state) (requests : Requests)
    (request : Request) (stage : Stage) : Queued (state.settle requests request stage) := by
  cases stage with
  | unlist =>
      have fewer := queued.lists (requests.pipe request)
        ((state.inProgress (requests.pipe request)).erase request)
        fun other member => queued.inProgress _ other (List.mem_of_mem_erase member)
      exact { fewer with }
  | complete => exact { queued with }
  | flag => exact { queued with }

theorem cancel_discards {kind : Kind} {native : Native} {request : Request} {address : Address}
    (isAsynchronous : kind.asynchronous = true) (stored : native.urbAddress request = address)
    (nonzero : address ≠ 0) (status : Int) :
    (cancelNative native kind request status).discarded =
      native.discarded ++ [(request, address)] := by
  have logged : (cancelUrb native request status).discarded =
      native.discarded ++ [(request, address)] := by
    rw [cancelUrb, stored, if_neg nonzero]
    unfold Native.discardUrb
    split <;> rfl
  cases kind with
  | pipe | dcp | isochronous => exact logged
  | _ => cases isAsynchronous

def afterSubmit (state : State) : Label → Bool
  | .cancel _ request => decide (request ∈ state.proxy.submitted)
  | _ => true

theorem example_orderly (request : Request) (state : State) (label : Label)
    (passed : afterSubmit state label = true) :
    OrderlyStep exampleRequests request state label := by
  constructor
  · cases label with
    | loop action =>
        cases action with
        | submitRequest outcome =>
            intro _
            exact UrbOwnership.truthful_of_not_isochronous _ request outcome (example_plain request)
        | _ => trivial
    | _ => trivial
  · cases label with
    | cancel => simpa [afterSubmit, CancelAfterSubmit] using passed
    | _ => trivial

end JavaxUsbLinux.CancelQueue
