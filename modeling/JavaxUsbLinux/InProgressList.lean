import JavaxUsbLinux.ProxyRequests

/-!
# The list of requests in progress

`asyncSubmit` puts a request on the list of its pipe after it has handed it to
the proxy, and `setCompleted(true)` takes it off. The list is exact in every run
in which no request is put on it after it was taken off.
-/

namespace JavaxUsbLinux.InProgressList

open JavaxUsbLinux.NativeUrb
open JavaxUsbLinux.DeviceProxy
open JavaxUsbLinux.ProxyPlaces
open JavaxUsbLinux.PipeSystem
open JavaxUsbLinux.RequestCompletion
open JavaxUsbLinux.ProxyRequests
open JavaxUsbLinux.Runs

set_option autoImplicit false

/-! ### Requests on their way through `asyncSubmit` -/

/-- A request of a pipe is on its way through `asyncSubmit` in one thread, or
its `asyncSubmit` has returned; then it is on the list, or was taken off it by
its completion or by an abort. -/
structure Recorded (requests : Requests) (state : State) : Prop where
  submitted : ∀ request ∈ state.asyncSubmitted, request ∈ state.proxy.submitted
  onPipe : ∀ request ∈ state.asyncSubmitted, requests.kind request = .pipe
  recording : ∀ thread request, state.client thread = .recording request →
    request ∈ state.asyncSubmitted ∧ request ∉ state.returned
  single : ∀ thread other request, state.client thread = .recording request →
    state.client other = .recording request → thread = other
  known : ∀ request ∈ state.asyncSubmitted,
    request ∈ state.returned ∨ ∃ thread, state.client thread = .recording request
  returned : ∀ request ∈ state.returned, request ∈ state.asyncSubmitted
  once : state.returned.Nodup
  listed : ∀ pipe, ∀ request ∈ state.inProgress pipe,
    request ∈ state.returned ∧ requests.pipe request = pipe
  taken : ∀ request ∈ state.taken, request ∈ state.returned
  somewhere : ∀ request ∈ state.returned, request ∈ state.inProgress (requests.pipe request) ∨
    request ∈ state.unlisted ∨ request ∈ state.taken

theorem initial_recorded (requests : Requests) : Recorded requests State.initial := by
  constructor <;> simp [State.initial]

namespace Recorded

variable {requests : Requests} {state : State}

theorem proxy (recorded : Recorded requests state) {proxy : Proxy} {action : Move}
    (moved : move requests.kind state.proxy action = some proxy) :
    Recorded requests { state with proxy := proxy } := by
  refine { recorded with submitted := ?_ }
  intro request member
  exact submitted_kept (moved_of_move moved) (recorded.submitted request member)

theorem client (recorded : Recorded requests state) (thread : Thread) (pc : ClientPc)
    (old : ∀ request, state.client thread ≠ .recording request)
    (new : ∀ request, pc ≠ .recording request) :
    Recorded requests (state.setClient thread pc) := by
  have same : ∀ other request, (state.setClient thread pc).client other = .recording request ↔
      state.client other = .recording request := by
    intro other request
    by_cases equal : other = thread
    · rw [equal, State.set_client_self]
      simp [old, new]
    · rw [State.set_client_other state pc equal]
  refine { recorded with recording := ?_, single := ?_, known := ?_ }
  · intro other request here
    exact recorded.recording other request ((same other request).mp here)
  · intro first second request here there
    exact recorded.single first second request ((same first request).mp here)
      ((same second request).mp there)
  · intro request member
    refine (recorded.known request member).imp_right ?_
    rintro ⟨other, here⟩
    exact ⟨other, (same other request).mpr here⟩

theorem settle (recorded : Recorded requests state) (request : Request) (stage : Stage) :
    Recorded requests (state.settle requests request stage) := by
  cases stage with
  | complete => exact { recorded with }
  | flag => exact { recorded with }
  | unlist =>
      refine { recorded with listed := ?_, somewhere := ?_ }
      · intro pipe other member
        simp only [State.settle, State.unlist, Function.update_apply] at member
        split_ifs at member with same
        · rw [same]
          exact recorded.listed _ other (List.mem_of_mem_erase member)
        · exact recorded.listed pipe other member
      · intro other returned
        simp only [State.settle, State.unlist, Function.update_apply, List.mem_append,
          List.mem_singleton]
        by_cases same : other = request
        · exact Or.inr (Or.inl (Or.inr same))
        · rcases recorded.somewhere other returned with listed | unlisted | taken
          · left
            split_ifs with samePipe
            · rw [← samePipe]
              exact (List.mem_erase_of_ne same).mpr listed
            · exact listed
          · exact Or.inr (Or.inl (Or.inl unlisted))
          · exact Or.inr (Or.inr taken)

theorem asyncSubmit (recorded : Recorded requests state) {thread : Thread} {request : Request}
    {proxy : Proxy} (idle : state.client thread = .idle)
    (onPipe : requests.kind request = .pipe)
    (moved : move requests.kind state.proxy (.submit request) = some proxy) :
    Recorded requests { state.setClient thread (.recording request) with
      proxy := proxy
      asyncSubmitted := state.asyncSubmitted ++ [request] } := by
  have steps := moved_of_move moved
  obtain ⟨fresh, known⟩ : request ∉ state.proxy.submitted ∧ request ∈ proxy.submitted := by
    cases steps with
    | submit _ fresh => exact ⟨fresh, List.mem_append_right _ (List.mem_singleton.mpr rfl)⟩
  have new : request ∉ state.asyncSubmitted := fun member => fresh (recorded.submitted _ member)
  have found : ∀ other one, (state.setClient thread (.recording request)).client other =
      .recording one → other = thread ∧ one = request ∨
        other ≠ thread ∧ state.client other = .recording one := by
    intro other one here
    by_cases same : other = thread
    · rw [same, State.set_client_self] at here
      injection here with equal
      exact Or.inl ⟨same, equal.symm⟩
    · rw [State.set_client_other state _ same] at here
      exact Or.inr ⟨same, here⟩
  refine { recorded with
    submitted := ?_, onPipe := ?_, recording := ?_, single := ?_, known := ?_, returned := ?_ }
  · intro one member
    rcases List.mem_append.mp member with old | last
    · exact submitted_kept steps (recorded.submitted one old)
    · rw [List.mem_singleton.mp last]
      exact known
  · intro one member
    rcases List.mem_append.mp member with old | last
    · exact recorded.onPipe one old
    · rw [List.mem_singleton.mp last]
      exact onPipe
  · intro other one here
    rcases found other one here with ⟨_, rfl⟩ | ⟨_, old⟩
    · exact ⟨List.mem_append_right _ (List.mem_singleton.mpr rfl),
        fun back => new (recorded.returned one back)⟩
    · have before := recorded.recording other one old
      exact ⟨List.mem_append_left _ before.1, before.2⟩
  · intro first second one here there
    have notNew : ∀ other, state.client other = .recording request → False :=
      fun other old => new (recorded.recording other request old).1
    rcases found first one here with ⟨same, rfl⟩ | ⟨_, old⟩ <;>
      rcases found second _ there with ⟨other, equal⟩ | ⟨_, older⟩
    · rw [same, other]
    · exact (notNew second older).elim
    · exact (notNew first (equal ▸ old)).elim
    · exact recorded.single first second one old older
  · intro one member
    rcases List.mem_append.mp member with old | last
    · refine (recorded.known one old).imp_right ?_
      rintro ⟨other, here⟩
      have different : other ≠ thread := by
        rintro rfl
        rw [idle] at here
        cases here
      exact ⟨other, by rw [← here]; exact State.set_client_other state _ different⟩
    · rw [List.mem_singleton.mp last]
      exact Or.inr ⟨thread, State.set_client_self _ _ _⟩
  · intro one back
    exact List.mem_append_left _ (recorded.returned one back)

theorem record (recorded : Recorded requests state) {thread : Thread} {request : Request}
    (here : state.client thread = .recording request) :
    Recorded requests { state.setClient thread .idle with
      inProgress := Function.update state.inProgress (requests.pipe request)
        (state.inProgress (requests.pipe request) ++ [request])
      returned := state.returned ++ [request] } := by
  obtain ⟨asyncSubmitted, notReturned⟩ := recorded.recording thread request here
  have found : ∀ other one, (state.setClient thread .idle).client other = .recording one →
      other ≠ thread ∧ state.client other = .recording one := by
    intro other one there
    by_cases same : other = thread
    · rw [same, State.set_client_self] at there
      cases there
    · rw [State.set_client_other state _ same] at there
      exact ⟨same, there⟩
  refine { recorded with
    recording := ?_, single := ?_, known := ?_, returned := ?_, once := ?_, listed := ?_,
    taken := ?_, somewhere := ?_ }
  · intro other one there
    obtain ⟨different, old⟩ := found other one there
    have before := recorded.recording other one old
    refine ⟨before.1, fun back => ?_⟩
    rcases List.mem_append.mp back with earlier | last
    · exact before.2 earlier
    · rw [List.mem_singleton.mp last] at old
      exact different (recorded.single other thread request old here)
  · intro first second one there again
    exact recorded.single first second one (found first one there).2 (found second one again).2
  · intro one member
    by_cases same : one = request
    · exact Or.inl (List.mem_append_right _ (List.mem_singleton.mpr same))
    · rcases recorded.known one member with back | ⟨other, there⟩
      · exact Or.inl (List.mem_append_left _ back)
      · have different : other ≠ thread := by
          rintro rfl
          rw [here] at there
          injection there with equal
          exact same equal.symm
        exact Or.inr ⟨other, by rw [← there]; exact State.set_client_other state _ different⟩
  · intro one back
    rcases List.mem_append.mp back with earlier | last
    · exact recorded.returned one earlier
    · rw [List.mem_singleton.mp last]
      exact asyncSubmitted
  · apply List.nodup_append.mpr
    refine ⟨recorded.once, List.nodup_singleton request, ?_⟩
    intro one back other last same
    rw [same, List.mem_singleton.mp last] at back
    exact notReturned back
  · intro pipe one member
    simp only [Function.update_apply] at member
    split_ifs at member with samePipe
    · rcases List.mem_append.mp member with old | last
      · have listed := recorded.listed _ one old
        exact ⟨List.mem_append_left _ listed.1, by rw [listed.2, samePipe]⟩
      · rw [List.mem_singleton.mp last, samePipe]
        exact ⟨List.mem_append_right _ (List.mem_singleton.mpr rfl), rfl⟩
    · have listed := recorded.listed pipe one member
      exact ⟨List.mem_append_left _ listed.1, listed.2⟩
  · intro one member
    exact List.mem_append_left _ (recorded.taken one member)
  · intro one back
    rcases List.mem_append.mp back with earlier | last
    · refine (recorded.somewhere one earlier).imp_left fun listed => ?_
      simp only [Function.update_apply]
      split_ifs with samePipe
      · rw [← samePipe]
        exact List.mem_append_left _ listed
      · exact listed
    · rw [List.mem_singleton.mp last]
      left
      simp

theorem snapshot (recorded : Recorded requests state) (pipe : Pipe) :
    Recorded requests { state with
      inProgress := Function.update state.inProgress pipe []
      taken := state.taken ++ state.inProgress pipe } := by
  refine { recorded with listed := ?_, taken := ?_, somewhere := ?_ }
  · intro other request member
    simp only [Function.update_apply] at member
    split_ifs at member
    · cases member
    · exact recorded.listed other request member
  · intro request member
    rcases List.mem_append.mp member with old | new
    · exact recorded.taken request old
    · exact (recorded.listed pipe request new).1
  · intro request back
    rcases recorded.somewhere request back with listed | unlisted | taken
    · by_cases same : requests.pipe request = pipe
      · rw [same] at listed
        exact Or.inr (Or.inr (List.mem_append_right _ listed))
      · left
        simpa only [Function.update_of_ne same] using listed
    · exact Or.inr (Or.inl unlisted)
    · exact Or.inr (Or.inr (List.mem_append_left _ taken))

end Recorded

theorem recorded_kept {requests : Requests} {before after : State} {label : Label}
    (recorded : Recorded requests before) (taken : step requests before label = some after) :
    Recorded requests after := by
  cases stepped_of_step taken with
  | submit thread request proxy idle unlocked moved => exact recorded.proxy moved
  | asyncSubmit thread request proxy idle unlocked onPipe moved =>
      exact recorded.asyncSubmit idle onPipe moved
  | record thread request here => exact recorded.record here
  | cancel thread request idle => exact recorded.client _ _ (by simp [idle]) (by simp)
  | abort thread pipe idle => exact recorded.client _ _ (by simp [idle]) (by simp)
  | snapshot thread pipe owed here =>
      exact (recorded.client _ _ (by simp [here]) (by simp)).snapshot pipe
  | cancelReturn thread here => exact recorded.client _ _ (by simp [here]) (by simp)
  | allCancelled thread pipe owed snapshot here =>
      exact recorded.client _ _ (by simp [here]) (by simp)
  | cancelReady thread call request todo proxy here unlocked ready moved =>
      have moves := (recorded.proxy moved).client thread
        (.completing call todo request (Stage.first (requests.kind request)))
        (by simp [here]) (by simp)
      exact { moves with }
  | cancelMissed thread call request todo here unlocked missed =>
      exact recorded.client _ _ (by simp [here]) (by simp)
  | nextCancelStage thread call todo request stage next here more =>
      exact (recorded.settle request stage).client _ _ (by simp [here]) (by simp)
  | lastCancelStage thread call todo request stage here last =>
      have client := (recorded.settle request stage).client thread (.cancelling call todo)
        (by simp [here]) (by simp)
      exact { client with }
  | cancelQueue thread call todo request proxy here moved =>
      exact (recorded.proxy moved).client _ _ (by simp [here]) (by simp)
  | awaited thread pipe owed request todo here completed =>
      exact recorded.client _ _ (by simp [here]) (by simp)
  | abortReturn thread pipe owed here => exact recorded.client _ _ (by simp [here]) (by simp)
  | loopStage request stage resume proxy here moved =>
      exact (recorded.settle request stage).proxy (by rw [settle_proxy]; exact moved)
  | loop action proxy plain moved => exact recorded.proxy moved

theorem recorded_of_reach {requests : Requests} {allowed : State → Label → Prop} {state : State}
    (reached : Reach (step requests) allowed State.initial state) : Recorded requests state := by
  apply reached.invariant (Recorded requests) (initial_recorded requests)
  intro before label after recorded _ taken
  exact recorded_kept recorded taken

/-! ### The list while requests are recorded in time -/

/-- `asyncSubmit` puts the request on the list before its completion comes to take it off. -/
def RecordedInTime (state : State) : Label → Prop
  | .record thread => ∀ request, state.client thread = .recording request →
      request ∉ state.unlisted
  | _ => True

def present (requests : Requests) (state : State) (pipe : Pipe) : List Request :=
  state.returned.filter fun request =>
    decide (requests.pipe request = pipe ∧ request ∉ state.unlisted ∧ request ∉ state.taken)

theorem mem_present {requests : Requests} {state : State} {pipe : Pipe} {request : Request} :
    request ∈ present requests state pipe ↔ request ∈ state.returned ∧
      requests.pipe request = pipe ∧ request ∉ state.unlisted ∧ request ∉ state.taken := by
  simp [present]

def Exact (requests : Requests) (state : State) : Prop :=
  ∀ pipe, state.inProgress pipe = present requests state pipe

theorem Exact.settle {requests : Requests} {state : State} (exactly : Exact requests state)
    (recorded : Recorded requests state) (request : Request) (stage : Stage) :
    Exact requests (state.settle requests request stage) := by
  cases stage with
  | complete => exact exactly
  | flag => exact exactly
  | unlist =>
      intro pipe
      have without : present requests (state.unlist requests request) pipe =
          (present requests state pipe).filter (· != request) := by
        simp only [present, State.unlist, List.filter_filter]
        apply List.filter_congr
        intro other _
        by_cases same : other = request <;> simp [same]
      simp only [State.settle, without, ← exactly pipe]
      by_cases same : pipe = requests.pipe request
      · subst same
        have nodup : (state.inProgress (requests.pipe request)).Nodup := by
          rw [exactly]
          exact recorded.once.filter _
        simp only [State.unlist, Function.update_self]
        exact nodup.erase_eq_filter request
      · simp only [State.unlist, Function.update_of_ne same]
        symm
        apply List.filter_eq_self.mpr
        intro other member
        have onPipe := (recorded.listed pipe other member).2
        have different : other ≠ request := by
          rintro rfl
          exact same onPipe.symm
        simpa using different

theorem Exact.record {requests : Requests} {state : State} (exactly : Exact requests state)
    (recorded : Recorded requests state) {thread : Thread} {request : Request}
    (here : state.client thread = .recording request) (inTime : request ∉ state.unlisted) :
    Exact requests { state.setClient thread .idle with
      inProgress := Function.update state.inProgress (requests.pipe request)
        (state.inProgress (requests.pipe request) ++ [request])
      returned := state.returned ++ [request] } := by
  have notTaken : request ∉ state.taken := fun member =>
    (recorded.recording thread request here).2 (recorded.taken request member)
  intro pipe
  have grown : (state.returned ++ [request]).filter (fun request =>
      decide (requests.pipe request = pipe ∧ request ∉ state.unlisted ∧ request ∉ state.taken)) =
        state.inProgress pipe ++ if requests.pipe request = pipe then [request] else [] := by
    rw [exactly pipe, present, List.filter_append]
    congr 1
    simp [List.filter_cons, inTime, notTaken]
  refine Eq.trans ?_ grown.symm
  by_cases same : pipe = requests.pipe request
  · subst same
    simp
  · have different : requests.pipe request ≠ pipe := fun equal => same equal.symm
    simp [Function.update_of_ne same, different]

theorem Exact.snapshot {requests : Requests} {state : State} (exactly : Exact requests state)
    (recorded : Recorded requests state) (pipe : Pipe) :
    Exact requests { state with
      inProgress := Function.update state.inProgress pipe []
      taken := state.taken ++ state.inProgress pipe } := by
  intro other
  by_cases same : other = pipe
  · subst same
    simp only [Function.update_self, present]
    symm
    apply List.filter_eq_nil_iff.mpr
    intro request returned
    have listed : request ∈ state.inProgress other ↔ request ∈ present requests state other := by
      rw [exactly other]
    simp only [decide_eq_true_eq, List.mem_append, listed, mem_present]
    tauto
  · simp only [Function.update_of_ne same, exactly other, present]
    apply List.filter_congr
    intro request _
    have elsewhere : requests.pipe request = other → request ∉ state.inProgress pipe := by
      intro onOther member
      exact same (by rw [← onOther, (recorded.listed pipe request member).2])
    simp only [List.mem_append, decide_eq_decide]
    tauto

theorem exact_kept {requests : Requests} {before after : State} {label : Label}
    (recorded : Recorded requests before) (exactly : Exact requests before)
    (inTime : RecordedInTime before label) (taken : step requests before label = some after) :
    Exact requests after := by
  cases stepped_of_step taken with
  | record thread request here => exact exactly.record recorded here (inTime request here)
  | snapshot thread pipe owed here => exact exactly.snapshot recorded pipe
  | nextCancelStage thread call todo request stage next here more =>
      exact exactly.settle recorded request stage
  | lastCancelStage thread call todo request stage here last =>
      exact exactly.settle recorded request stage
  | loopStage request stage resume proxy here moved => exact exactly.settle recorded request stage
  | _ => exact exactly

/-- No `asyncSubmit` and no `setCompleted` call of this pipe is part-way. An
abort may be. -/
structure Quiet (requests : Requests) (state : State) (pipe : Pipe) : Prop where
  recording : ∀ thread request, state.client thread = .recording request →
    requests.pipe request ≠ pipe
  completing : ∀ request, PartWay state request → requests.kind request = .pipe →
    requests.pipe request ≠ pipe

theorem unlisted_iff_completed {requests : Requests} {state : State} {pipe : Pipe}
    (settling : Settling requests state) (quiet : Quiet requests state pipe) {request : Request}
    (onPipe : requests.kind request = .pipe) (its : requests.pipe request = pipe) :
    request ∈ state.unlisted ↔ state.completed request = true := by
  constructor
  · intro unlisted
    rcases settling.settled request (settling.unlisted request unlisted) with done | partWay
    · exact done
    · exact absurd its (quiet.completing request partWay onPipe)
  · intro done
    exact settling.doneUnlist request done (by rw [onPipe]; rfl)

/-- While every request is recorded in time, the list of a quiet pipe holds
exactly the requests that are not completed and not taken by an abort. -/
theorem in_progress_exact (requests : Requests) {state : State}
    (reached : Reach (step requests) RecordedInTime State.initial state) {pipe : Pipe}
    (quiet : Quiet requests state pipe) :
    (state.inProgress pipe).Nodup ∧
      ∀ request, request ∈ state.inProgress pipe ↔
        request ∈ state.asyncSubmitted ∧ requests.pipe request = pipe ∧
          state.completed request = false ∧ request ∉ state.taken := by
  have recorded := recorded_of_reach reached
  have settling := settling_of_reach reached
  have exactly : Exact requests state := by
    apply reached.invariant_with (Recorded requests) (Exact requests)
      (fun _ reached => recorded_of_reach reached)
    · exact fun pipe => rfl
    · exact fun before label after recorded exactly => exact_kept recorded exactly
  constructor
  · rw [exactly pipe]
    exact recorded.once.filter _
  · intro request
    rw [exactly pipe, mem_present]
    constructor
    · rintro ⟨returned, its, notUnlisted, notTaken⟩
      have submitted := recorded.returned request returned
      refine ⟨submitted, its, ?_, notTaken⟩
      rw [unlisted_iff_completed settling quiet (recorded.onPipe request submitted) its]
        at notUnlisted
      simpa using notUnlisted
    · rintro ⟨submitted, its, notDone, notTaken⟩
      refine ⟨?_, its, ?_, notTaken⟩
      · rcases recorded.known request submitted with returned | ⟨thread, here⟩
        · exact returned
        · exact absurd its (quiet.recording thread request here)
      · rw [unlisted_iff_completed settling quiet (recorded.onPipe request submitted) its, notDone]
        exact Bool.false_ne_true

theorem quiet_of_idle (requests : Requests) {state : State} (pipe : Pipe)
    (idle : ∀ thread, state.client thread = .idle)
    (outside : ∀ request stage resume, state.proxy.loop ≠ .completing request stage resume) :
    Quiet requests state pipe := by
  constructor
  · intro thread request here
    rw [idle] at here
    cases here
  · rintro request ⟨stage, ⟨resume, here⟩ | ⟨thread, call, todo, here⟩⟩
    · exact absurd here (outside request stage resume)
    · rw [idle] at here
      cases here

def inTimeTest (state : State) : Label → Bool
  | .record thread =>
      match state.client thread with
      | .recording request => decide (request ∉ state.unlisted)
      | _ => true
  | _ => true

theorem in_time_of_test (state : State) (label : Label) (passed : inTimeTest state label = true) :
    RecordedInTime state label := by
  cases label with
  | record thread =>
      intro request here
      simpa [inTimeTest, here] using passed
  | _ => trivial

def firstRejected : List Label :=
  [.asyncSubmit 0 5, .record 0, .asyncSubmit 0 6, .record 0, .loop .testReady,
    .loop .getReadyRequest, .loop (.submitRequest (.urb (.rejected 100 19))), .loop .stage,
    .loop .stage, .loop .stage]

theorem in_progress_exact_first_rejected : ∃ state,
    run (checked (step exampleRequests) inTimeTest) firstRejected State.initial = some state ∧
      (state.inProgress 0).Nodup ∧
      ∀ request, request ∈ state.inProgress 0 ↔
        request ∈ state.asyncSubmitted ∧ exampleRequests.pipe request = 0 ∧
          state.completed request = false ∧ request ∉ state.taken := by
  have ends : (run (checked (step exampleRequests) inTimeTest) firstRejected State.initial).map
      (fun state => (state.client, state.proxy.loop)) =
        some (Function.update (Function.update (Function.update (Function.update
          (fun _ => .idle) 0 (.recording 5)) 0 .idle) 0 (.recording 6)) 0 .idle, .getCancel) := rfl
  obtain ⟨state, ran, here⟩ := Option.map_eq_some_iff.mp ends
  obtain ⟨client, loop⟩ := Prod.mk.inj here
  have quiet : Quiet exampleRequests state 0 :=
    quiet_of_idle exampleRequests 0 (by simp [client, Function.update_apply]) (by simp [loop])
  exact ⟨state, ran, in_progress_exact exampleRequests
    (reach_of_checked in_time_of_test firstRejected .start ran) quiet⟩

/-- The kernel rejects the request before `asyncSubmit` puts it on the list. -/
def recordedLate : List Label :=
  [.asyncSubmit 0 5, .loop .testReady, .loop .getReadyRequest,
    .loop (.submitRequest (.urb (.rejected 100 19))), .loop .stage, .loop .stage, .loop .stage,
    .record 0]

theorem completed_in_progress : ∃ state,
    Reach (step exampleRequests) anyStep State.initial state ∧ Quiet exampleRequests state 0 ∧
      state.completed 5 = true ∧ 5 ∈ state.inProgress 0 := by
  have ends : (run (step exampleRequests) recordedLate State.initial).map
      (fun state => (state.client, state.proxy.loop, state.completed 5, state.inProgress 0)) =
        some (Function.update (Function.update (fun _ => .idle) 0 (.recording 5)) 0 .idle,
          .getCancel, true, [5]) := rfl
  obtain ⟨state, ran, here⟩ := Option.map_eq_some_iff.mp ends
  simp only [Prod.mk.injEq] at here
  obtain ⟨client, loop, completed, inProgress⟩ := here
  refine ⟨state, reach_of_run recordedLate ran, ?_, completed, ?_⟩
  · exact quiet_of_idle exampleRequests 0 (by simp [client, Function.update_apply]) (by simp [loop])
  · rw [inProgress]
    exact List.mem_cons_self

end JavaxUsbLinux.InProgressList
