import JavaxUsbLinux.ProxyRequests

/-!
# A device is removed

After the removal of its device every ioctl of the loop fails, whatever the
position of the loop was. The loop goes on: it rejects the requests that are
ready, and a `DISCARDURB` or a `REAPURBNDELAY` leaves the URBs where they are.
What the kernel held at the removal is never reaped.
-/

namespace JavaxUsbLinux.DeviceRemoval

open JavaxUsbLinux.NativeUrb
open JavaxUsbLinux.UrbOwnership
open JavaxUsbLinux.DeviceProxy
open JavaxUsbLinux.ProxyPlaces
open JavaxUsbLinux.PipeSystem
open JavaxUsbLinux.RequestCompletion
open JavaxUsbLinux.ProxyRequests
open JavaxUsbLinux.Runs

set_option autoImplicit false

/-- `cancelNative` when its `DISCARDURB` fails. -/
def cancelRefused (native : Native) (kind : Kind) (request : Request) : Native :=
  if kind.asynchronous = true ∧ native.urbAddress request ≠ 0 then
    { native with discarded := native.discarded ++ [(request, native.urbAddress request)] }
  else native

def refuseCancel (requests : Requests) (state : State) : Option State :=
  match state.proxy.loop with
  | .cancel request => some { state with
      proxy := { state.proxy with
        native := cancelRefused state.proxy.native (requests.kind request) request
        loop := .reap } }
  | _ => none

/-- A step after the removal: no `SUBMITURB` is accepted, no `DISCARDURB`
reaches an URB and no `REAPURBNDELAY` finds one. The synchronous requests end
with their ioctl, whatever it returns. -/
def removedStep (requests : Requests) (state : State) : Label → Option State
  | .loop (.submitRequest outcome) =>
      if NativeOutcome.accepts outcome then none
      else step requests state (.loop (.submitRequest outcome))
  | .loop (.reap (some _)) => none
  | .loop (.cancelRequest _) => refuseCancel requests state
  | label => step requests state label

def Drained (state : State) : Prop :=
  state.proxy.loop = .testReady ∧ state.proxy.readyList = [] ∧ state.proxy.cancelList = []

/-- Every request is completed, or a thread that cancels it is inside `setCompleted(true)`. -/
def AllCompleted (state : State) : Prop :=
  ∀ request ∈ state.proxy.submitted, state.completed request = true ∨
    ∃ thread call todo stage, state.client thread = .completing call todo request stage

/-- A step after the removal is a step of before that takes no URB and gives
none back, or a cancel whose ioctl fails. -/
theorem removed_step_cases {requests : Requests} {before after : State} {label : Label}
    (taken : removedStep requests before label = some after) :
    (step requests before label = some after ∧
      (∀ outcome, label = .loop (.submitRequest outcome) →
        NativeOutcome.accepts outcome = false) ∧
      ∀ found, label ≠ .loop (.reap (some found))) ∨
    ∃ request, before.proxy.loop = .cancel request ∧
      after = { before with proxy := { before.proxy with
        native := cancelRefused before.proxy.native (requests.kind request) request
        loop := .reap } } := by
  cases label with
  | loop action =>
      cases action with
      | submitRequest outcome =>
          simp only [removedStep, Option.ite_none_left_eq_some] at taken
          refine Or.inl ⟨taken.2, ?_, by simp⟩
          intro other same
          cases same
          exact Bool.eq_false_iff.mpr taken.1
      | reap found =>
          cases found with
          | none => exact Or.inl ⟨taken, by simp, by simp⟩
          | some found => cases taken
      | cancelRequest status =>
          simp only [removedStep, refuseCancel] at taken
          split at taken
          · cases taken
            exact Or.inr ⟨_, ‹_›, rfl⟩
          · contradiction
      | _ => exact Or.inl ⟨taken, by simp, by simp⟩
  | _ => exact Or.inl ⟨taken, by simp, by simp⟩

theorem refused_same_blocks (native : Native) (kind : Kind) (request : Request) :
    SameBlocks native (cancelRefused native kind request) := by
  unfold cancelRefused
  split_ifs <;> constructor <;> rfl

theorem refused_kernel (native : Native) (kind : Kind) (request : Request) :
    (cancelRefused native kind request).kernel = native.kernel := by
  unfold cancelRefused
  split_ifs <;> rfl

/-- Without an accepted submission and a reaping the kernel keeps its URBs. -/
theorem kernel_kept {kind : Request → Kind} {before after : Proxy} {action : Move}
    (sound : Sound kind before) (moved : Moved kind before action after)
    (unaccepted : ∀ outcome, action = .submitRequest outcome →
      NativeOutcome.accepts outcome = false)
    (unreaped : ∀ found, action ≠ .reap (some found)) :
    after.native.kernel.Perm before.native.kernel := by
  cases moved with
  | settleSubmit request outcome err synchronous native here done settles =>
      cases sound.submitted_urbs here done with
      | accepted held mine chosen free silent later => simp [silent, later] at settles
      | lost isochronous silent later => simp [silent, later] at settles
      | refused told pending finished => simp [Native.kernel, pending, finished]
  | sendSubmit request outcome native here done =>
      cases sound.submitted_urbs here done with
      | accepted held mine chosen =>
          have accepts := accepts_iff.mpr ⟨held.address, chosen⟩
          rw [unaccepted outcome rfl] at accepts
          contradiction
      | refused told => simp at told
      | lost isochronous silent later rejected pending finished =>
          simp [Native.kernel, pending, finished]
  | cancelRequest request status here =>
      exact cancel_kernel before.native (kind request) request status
  | reap held status here finished => exact absurd rfl (unreaped (held, status))
  | completeRequest held status handle request here found referred =>
      simp only [(complete_keeps before.native (kind request) request status).1]
      exact List.Perm.refl _
  | deleteReference handle here => simp [Native.kernel]
  | finish held status pending => exact finish_kernel before.native held status pending
  | _ => exact List.Perm.refl _

/-- What holds from the removal on, with the URBs that the kernel had then. -/
structure Removed (requests : Requests) (kernel : List Held) (state : State) : Prop where
  sound : Sound requests.kind state.proxy
  settling : Settling requests state
  noneLost : ∀ request, request ∉ state.proxy.lost
  kernel : state.proxy.native.kernel.Perm kernel

theorem removed_now {requests : Requests} {state : State}
    (reached : Reach (step requests) (HonestStep requests) State.initial state) :
    Removed requests state.proxy.native.kernel state where
  sound := sound_run reached
  settling := settling_of_reach reached
  noneLost := by
    rw [none_lost (honest_proxy_run reached)]
    exact fun _ => List.not_mem_nil
  kernel := List.Perm.refl _

theorem removed_refused {requests : Requests} {kernel : List Held} {state : State}
    (removed : Removed requests kernel state) {request : Request}
    (here : state.proxy.loop = .cancel request) :
    Removed requests kernel { state with proxy := { state.proxy with
      native := cancelRefused state.proxy.native (requests.kind request) request
      loop := .reap } } where
  sound := by
    apply removed.sound.hand_over
    · rw [here]
      rfl
    · rw [here]
      rfl
    · rw [refused_kernel, Proxy.owned, here]
      exact List.Perm.refl _
    · exact refused_same_blocks state.proxy.native (requests.kind request) request
  settling := by
    apply settling_kept removed.settling
    refine .same ?_ rfl rfl rfl rfl
    intro other stage
    unfold AtStage
    simp [here]
  noneLost := removed.noneLost
  kernel := by
    rw [refused_kernel]
    exact removed.kernel

theorem removed_kept {requests : Requests} {kernel : List Held} {before after : State}
    {label : Label} (removed : Removed requests kernel before)
    (honest : HonestStep requests before label)
    (taken : removedStep requests before label = some after) : Removed requests kernel after := by
  rcases removed_step_cases taken with ⟨stepped, unaccepted, unreaped⟩ | ⟨request, here, rfl⟩
  · have settling := settling_kept removed.settling (progress_of_step stepped)
    rcases step_moves stepped with same | ⟨action, its, moved⟩
    · constructor
      · rw [same]
        exact removed.sound
      · exact settling
      · rw [same]
        exact removed.noneLost
      · rw [same]
        exact removed.kernel
    · have result := moved_of_move moved
      -- a move that is not the loop's is neither a submission nor a reaping
      have ours : HonestMove requests.kind before.proxy action ∧
          (∀ outcome, action = .submitRequest outcome →
            NativeOutcome.accepts outcome = false) ∧
          ∀ found, action ≠ .reap (some found) := by
        rcases its with rfl | other
        · refine ⟨honest, ?_, ?_⟩
          · intro outcome same
            exact unaccepted outcome (by rw [same])
          · intro found same
            exact unreaped found (by rw [same])
        · cases action <;> simp [plainMove, HonestMove] at other ⊢
      constructor
      · exact sound_kept removed.sound result
      · exact settling
      · intro request
        exact not_lost_kept removed.sound (removed.noneLost request)
          (honest_about ours.1 request) result
      · exact (kernel_kept removed.sound result ours.2.1 ours.2.2).trans removed.kernel
  · exact removed_refused removed here

theorem removed_of_reach {requests : Requests} {before after : State}
    (reached : Reach (step requests) (HonestStep requests) State.initial before)
    (later : Reach (removedStep requests) (HonestStep requests) before after) :
    Removed requests before.proxy.native.kernel after := by
  apply later.invariant (Removed requests before.proxy.native.kernel) (removed_now reached)
  intro middle label last removed honest taken
  exact removed_kept removed honest taken

/-- A request whose URB stays in the kernel is completed by nobody. -/
theorem stranded {requests : Requests} {kernel : List Held} {state : State}
    (removed : Removed requests kernel state) {held : Held} (member : held ∈ kernel) :
    held.owner ∈ state.proxy.submitted ∧ state.completed held.owner = false ∧
      ∀ thread call todo stage, state.client thread ≠ .completing call todo held.owner stage := by
  have noneLost := List.eq_nil_iff_forall_not_mem.mpr removed.noneLost
  have here : InPlace state.proxy held.owner .kernel :=
    ⟨held, removed.kernel.mem_iff.mpr member, rfl⟩
  have total := stock_total removed.sound noneLost held.owner
  have atMost := List.nodup_iff_count_le_one.mp removed.sound.once held.owner
  have some := (in_place_iff _ _ _).mp here
  have unsettled : held.owner ∉ state.proxy.settled := by
    rw [← List.count_eq_zero]
    simp only [stock] at total some
    omega
  refine ⟨?_, ?_, ?_⟩
  · rw [← List.count_pos_iff]
    omega
  · rw [← Bool.not_eq_true]
    exact fun done => unsettled (removed.settling.flagged held.owner done)
  · intro thread call todo stage inside
    exact unsettled (removed.settling.started held.owner stage
      (Or.inr ⟨thread, call, todo, inside⟩))

/-- If the kernel had no URB of the device at the removal, the loop completes
every request, in whatever place each of them was. -/
theorem all_completed {requests : Requests} {state : State}
    (removed : Removed requests [] state) (drained : Drained state) : AllCompleted state := by
  obtain ⟨outside, ready, _⟩ := drained
  have noneLost := List.eq_nil_iff_forall_not_mem.mpr removed.noneLost
  intro request submitted
  have settled : request ∈ state.proxy.settled := by
    have total := stock_total removed.sound noneLost request
    have counted := List.count_pos_iff.mpr submitted
    rw [← List.count_pos_iff]
    simp only [stock, ready, outside, removed.kernel.eq_nil, LoopPc.hand, LoopPc.reaped,
      List.map_nil, List.count_nil] at total
    omega
  rcases removed.settling.settled request settled with done | ⟨stage, ⟨resume, inLoop⟩ | inThread⟩
  · exact Or.inl done
  · rw [outside] at inLoop
    contradiction
  · obtain ⟨thread, call, todo, inside⟩ := inThread
    exact Or.inr ⟨thread, call, todo, stage, inside⟩

/-- The removal of a device orphans a request exactly if the kernel has an URB
of the device at that time, be it in flight or finished and not reaped. -/
theorem removal_orphans_iff (requests : Requests) {before after : State}
    (reached : Reach (step requests) (HonestStep requests) State.initial before)
    (later : Reach (removedStep requests) (HonestStep requests) before after)
    (drained : Drained after) : AllCompleted after ↔ before.proxy.native.kernel = [] := by
  have removed := removed_of_reach reached later
  constructor
  · intro completed
    rw [List.eq_nil_iff_forall_not_mem]
    intro held member
    obtain ⟨submitted, unfinished, unattended⟩ := stranded removed member
    rcases completed held.owner submitted with done | ⟨thread, call, todo, stage, inside⟩
    · rw [unfinished] at done
      contradiction
    · exact unattended thread call todo stage inside
  · intro empty
    rw [empty] at removed
    exact all_completed removed drained

theorem example_removed {before after : State}
    (reached : Reach (removedStep exampleRequests) anyStep before after) :
    Reach (removedStep exampleRequests) (HonestStep exampleRequests) before after := by
  apply reached.weaken
  intro state label _
  exact honest_step exampleRequests example_plain state label

/-- Both requests are ready when the device is removed, and are rejected. -/
def rejections : List Label :=
  [.loop .testReady, .loop .getReadyRequest, .loop (.submitRequest (.urb (.rejected 100 19))),
    .loop .stage, .loop .stage, .loop .getCancelRequest, .loop (.reap none), .loop .testReady,
    .loop .getReadyRequest, .loop (.submitRequest (.urb (.rejected 200 19))), .loop .stage,
    .loop .stage, .loop .stage, .loop .getCancelRequest, .loop (.reap none)]

theorem removal_orphans_iff_rejected : ∃ before after,
    run (step exampleRequests) [.submit 0 2, .asyncSubmit 1 5, .record 1] State.initial =
        some before ∧
      run (removedStep exampleRequests) rejections before = some after ∧ AllCompleted after := by
  have ends : ((run (step exampleRequests) [.submit 0 2, .asyncSubmit 1 5, .record 1]
      State.initial).bind fun before => (run (removedStep exampleRequests) rejections before).map
        fun after => (before.proxy.native.kernel, after.proxy.loop, after.proxy.readyList,
          after.proxy.cancelList)) = some ([], .testReady, [], []) := rfl
  obtain ⟨before, ran, ends⟩ := Option.bind_eq_some_iff.mp ends
  obtain ⟨after, later, ends⟩ := Option.map_eq_some_iff.mp ends
  simp only [Prod.mk.injEq] at ends
  refine ⟨before, after, ran, later, ?_⟩
  exact (removal_orphans_iff exampleRequests (example_honest (reach_of_run _ ran))
    (example_removed (reach_of_run _ later)) ends.2).mpr ends.1

/-- The kernel has accepted the request when the device is removed. -/
def accepted : List Label :=
  [.asyncSubmit 0 5, .record 0, .loop .testReady, .loop .getReadyRequest,
    .loop (.submitRequest (.urb (.accepted 100))), .loop .getCancelRequest, .loop (.reap none)]

/-- The pipe is aborted, but the `DISCARDURB` for the request fails. -/
def abortAfterRemoval : List Label :=
  [.abort 1 0, .snapshot 1, .cancelNext 1, .cancelQueue 1, .cancelNext 1, .loop .testReady,
    .loop .testCancel, .loop .getReadyRequest, .loop .getCancelRequest,
    .loop (.cancelRequest 0), .loop (.reap none)]

theorem removal_orphans : ∃ before after,
    Reach (step exampleRequests) (HonestStep exampleRequests) State.initial before ∧
      Reach (removedStep exampleRequests) (HonestStep exampleRequests) before after ∧
      Drained after ∧ after.client 1 = .waiting 0 [5] [5] ∧ after.completed 5 = false ∧
      ¬ AllCompleted after := by
  have ends : ((run (step exampleRequests) accepted State.initial).bind fun before =>
      (run (removedStep exampleRequests) abortAfterRemoval before).map fun after =>
        (before.proxy.native.kernel, (after.proxy.loop, after.proxy.readyList,
          after.proxy.cancelList), after.client 1)) =
        some ([⟨100, 0, 0, 5⟩], (.testReady, [], []), .waiting 0 [5] [5]) := rfl
  obtain ⟨before, ran, ends⟩ := Option.bind_eq_some_iff.mp ends
  obtain ⟨after, later, ends⟩ := Option.map_eq_some_iff.mp ends
  simp only [Prod.mk.injEq] at ends
  have reached := example_honest (reach_of_run _ ran)
  have removal := example_removed (reach_of_run _ later)
  have inKernel : (⟨100, 0, 0, 5⟩ : Held) ∈ before.proxy.native.kernel := by
    rw [ends.1]
    exact List.mem_cons_self
  obtain ⟨submitted, unfinished, unattended⟩ :=
    stranded (removed_of_reach reached removal) inKernel
  refine ⟨before, after, reached, removal, ends.2.1, ends.2.2, unfinished, ?_⟩
  intro completed
  rcases completed 5 submitted with done | ⟨thread, call, todo, stage, inside⟩
  · rw [unfinished] at done
    contradiction
  · exact unattended thread call todo stage inside

end JavaxUsbLinux.DeviceRemoval
