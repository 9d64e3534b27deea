import JavaxUsbLinux.InProgressList

/-!
# What an abort waits for

`abortAllSubmissions` cancels and awaits the requests that it finds on the list
of its pipe. A request that was submitted before the call and is not on the list
is waited for only by the abort that took it, or is in the middle of
`setCompleted(true)`, so the abort must not run into either of these.
-/

namespace JavaxUsbLinux.AbortAll

open JavaxUsbLinux.NativeUrb
open JavaxUsbLinux.DeviceProxy
open JavaxUsbLinux.PipeSystem
open JavaxUsbLinux.RequestCompletion
open JavaxUsbLinux.ProxyRequests
open JavaxUsbLinux.InProgressList
open JavaxUsbLinux.Runs

set_option autoImplicit false

def Call.holds : Call → List Request
  | .cancel => []
  | .abort _ _ requests => requests

/-- The requests that a thread has taken off a list and will still wait for. -/
def holds : ClientPc → List Request
  | .cancelling call _ | .completing call _ _ _ | .queueing call _ _ => Call.holds call
  | .waiting _ _ todo => todo
  | .idle | .recording _ | .aborting _ _ => []

/-- When an abort takes the list, a request that it has to stop and that another
abort or a completion has taken off the list is completed, or on the list again. -/
def UndisturbedAbort (state : State) : Label → Prop
  | .snapshot thread => ∀ pipe owed, state.client thread = .aborting pipe owed →
      ∀ request ∈ owed,
        (request ∈ state.unlisted ∨ ∃ other, request ∈ holds (state.client other)) →
          state.completed request = true ∨ request ∈ state.inProgress pipe
  | _ => True

def Call.Waits (returned : List Request) (completed : Request → Bool) : Call → Prop
  | .cancel => True
  | .abort _ owed requests => ∀ request ∈ owed,
      request ∈ returned ∧ (completed request = true ∨ request ∈ requests)

/-- An abort has stopped, or will wait for, each request that was submitted before it. -/
def Waits (requests : Requests) (returned : List Request) (completed : Request → Bool) :
    ClientPc → Prop
  | .aborting pipe owed => ∀ request ∈ owed, request ∈ returned ∧ requests.pipe request = pipe
  | .cancelling call _ | .completing call _ _ _ | .queueing call _ _ =>
      Call.Waits returned completed call
  | .waiting _ owed todo => ∀ request ∈ owed,
      request ∈ returned ∧ (completed request = true ∨ request ∈ todo)
  | .idle | .recording _ => True

theorem call_waits_grow {returned more : List Request} {completed later : Request → Bool}
    (subset : ∀ request ∈ returned, request ∈ more)
    (kept : ∀ request, completed request = true → later request = true) {call : Call}
    (waits : Call.Waits returned completed call) : Call.Waits more later call := by
  cases call with
  | cancel => trivial
  | abort pipe owed requests =>
      intro request member
      obtain ⟨back, done⟩ := waits request member
      exact ⟨subset request back, done.imp_left (kept request)⟩

theorem waits_grow {requests : Requests} {returned more : List Request}
    {completed later : Request → Bool} (subset : ∀ request ∈ returned, request ∈ more)
    (kept : ∀ request, completed request = true → later request = true) {pc : ClientPc}
    (waits : Waits requests returned completed pc) : Waits requests more later pc := by
  cases pc with
  | idle => trivial
  | recording => trivial
  | cancelling | completing | queueing => exact call_waits_grow subset kept waits
  | aborting pipe owed =>
      intro request member
      obtain ⟨back, its⟩ := waits request member
      exact ⟨subset request back, its⟩
  | waiting pipe owed todo =>
      intro request member
      obtain ⟨back, done⟩ := waits request member
      exact ⟨subset request back, done.imp_left (kept request)⟩

structure Aborts (requests : Requests) (state : State) : Prop where
  waits : ∀ thread, Waits requests state.returned state.completed (state.client thread)
  held : ∀ request ∈ state.taken, state.completed request = true ∨
    ∃ thread, request ∈ holds (state.client thread)

theorem initial_aborts (requests : Requests) : Aborts requests State.initial where
  waits _ := trivial
  held _ member := absurd member List.not_mem_nil

namespace Aborts

variable {requests : Requests} {state : State}

theorem client (aborts : Aborts requests state) (thread : Thread) (pc : ClientPc)
    (waits : Waits requests state.returned state.completed pc)
    (keeps : ∀ request ∈ holds (state.client thread),
      state.completed request = true ∨ request ∈ holds pc) :
    Aborts requests (state.setClient thread pc) := by
  refine ⟨State.set_client_forall thread waits aborts.waits, ?_⟩
  intro request member
  rcases aborts.held request member with done | ⟨other, held⟩
  · exact Or.inl done
  · by_cases same : other = thread
    · subst same
      refine (keeps request held).imp_right fun still => ⟨other, ?_⟩
      rw [State.set_client_self]
      exact still
    · refine Or.inr ⟨other, ?_⟩
      rw [State.set_client_other state pc same]
      exact held

theorem outside (aborts : Aborts requests state) (thread : Thread) (pc : ClientPc)
    (old : holds (state.client thread) = [])
    (waits : Waits requests state.returned state.completed pc) :
    Aborts requests (state.setClient thread pc) := by
  apply aborts.client thread pc waits
  intro request held
  rw [old] at held
  cases held

/-- A thread that goes on within its call still waits for the same requests. -/
theorem goes_on (aborts : Aborts requests state) {thread : Thread} {old : ClientPc}
    (here : state.client thread = old) (pc : ClientPc) (same : holds pc = holds old)
    (waits : Waits requests state.returned state.completed old →
      Waits requests state.returned state.completed pc) :
    Aborts requests (state.setClient thread pc) := by
  subst here
  apply aborts.client thread pc (waits (aborts.waits thread))
  intro request held
  rw [same]
  exact Or.inr held

theorem settle (aborts : Aborts requests state) (request : Request) (stage : Stage) :
    Aborts requests (state.settle requests request stage) := by
  have later : ∀ other, state.completed other = true →
      (state.settle requests request stage).completed other = true :=
    fun other done => (settle_completed requests state request other stage).mpr (Or.inl done)
  have same : (state.settle requests request stage).returned = state.returned ∧
      (state.settle requests request stage).taken = state.taken := by
    cases stage <;> exact ⟨rfl, rfl⟩
  constructor
  · intro thread
    rw [settle_client, same.1]
    exact waits_grow (fun _ => id) later (aborts.waits thread)
  · intro other member
    rw [same.2] at member
    rw [settle_client]
    exact (aborts.held other member).imp_left (later other)

theorem snapshot (aborts : Aborts requests state) (recorded : Recorded requests state)
    {thread : Thread} {pipe : Pipe} {owed : List Request}
    (here : state.client thread = .aborting pipe owed)
    (undisturbed : ∀ request ∈ owed,
      (request ∈ state.unlisted ∨ ∃ other, request ∈ holds (state.client other)) →
        state.completed request = true ∨ request ∈ state.inProgress pipe) :
    Aborts requests { state.setClient thread
        (.cancelling (.abort pipe owed (state.inProgress pipe)) (state.inProgress pipe)) with
      inProgress := Function.update state.inProgress pipe []
      taken := state.taken ++ state.inProgress pipe } := by
  have mine := aborts.waits thread
  rw [here] at mine
  have waits : Waits requests state.returned state.completed
      (.cancelling (.abort pipe owed (state.inProgress pipe)) (state.inProgress pipe)) := by
    intro request member
    obtain ⟨returned, its⟩ := mine request member
    refine ⟨returned, ?_⟩
    rcases recorded.somewhere request returned with listed | unlisted | taken
    · exact Or.inr (its ▸ listed)
    · exact undisturbed request member (Or.inl unlisted)
    · rcases aborts.held request taken with done | held
      · exact Or.inl done
      · exact undisturbed request member (Or.inr held)
  have moved := aborts.outside thread _ (by rw [here]; rfl) waits
  refine ⟨moved.waits, ?_⟩
  intro request member
  rcases List.mem_append.mp member with old | new
  · exact moved.held request old
  · refine Or.inr ⟨thread, ?_⟩
    simp only [State.set_client_self]
    exact new

end Aborts

theorem aborts_kept {requests : Requests} {before after : State} {label : Label}
    (recorded : Recorded requests before) (aborts : Aborts requests before)
    (undisturbed : UndisturbedAbort before label)
    (taken : step requests before label = some after) : Aborts requests after := by
  cases stepped_of_step taken with
  | submit thread request proxy idle unlocked moved => exact { aborts with }
  | asyncSubmit thread request proxy idle unlocked onPipe moved =>
      have client := aborts.outside thread (.recording request) (by rw [idle]; rfl) trivial
      exact { client with }
  | record thread request here =>
      have client := aborts.outside thread .idle (by rw [here]; rfl) trivial
      refine ⟨fun other => ?_, client.held⟩
      exact waits_grow (fun _ => List.mem_append_left _) (fun _ => id) (client.waits other)
  | cancel thread request idle => exact aborts.outside thread _ (by rw [idle]; rfl) trivial
  | abort thread pipe idle =>
      apply aborts.outside thread _ (by rw [idle]; rfl)
      intro request member
      simpa using member
  | snapshot thread pipe owed here =>
      exact aborts.snapshot recorded here (undisturbed pipe owed here)
  | cancelReturn thread here => exact aborts.outside thread _ (by rw [here]; rfl) trivial
  | allCancelled thread pipe owed snapshot here =>
      exact aborts.goes_on here (.waiting pipe owed snapshot) rfl id
  | cancelReady thread call request todo proxy here unlocked ready moved =>
      have client := aborts.goes_on here
        (.completing call todo request (Stage.first (requests.kind request))) rfl id
      exact { client with }
  | cancelMissed thread call request todo here unlocked missed =>
      exact aborts.goes_on here (.queueing call todo request) rfl id
  | nextCancelStage thread call todo request stage next here more =>
      have there := here
      rw [← settle_client requests before request stage] at there
      exact (aborts.settle request stage).goes_on there (.completing call todo request next) rfl id
  | lastCancelStage thread call todo request stage here last =>
      have there := here
      rw [← settle_client requests before request stage] at there
      have client := (aborts.settle request stage).goes_on there (.cancelling call todo) rfl id
      exact { client with }
  | cancelQueue thread call todo request proxy here moved =>
      have client := aborts.goes_on here (.cancelling call todo) rfl id
      exact { client with }
  | awaited thread pipe owed request todo here completed =>
      have mine := aborts.waits thread
      rw [here] at mine
      have split : ∀ other ∈ request :: todo, before.completed other = true ∨ other ∈ todo := by
        intro other member
        rcases List.mem_cons.mp member with same | rest
        · exact Or.inl (same ▸ completed)
        · exact Or.inr rest
      apply aborts.client thread
      · intro other member
        obtain ⟨returned, done | rest⟩ := mine other member
        · exact ⟨returned, Or.inl done⟩
        · exact ⟨returned, split other rest⟩
      · rw [here]
        exact split
  | abortReturn thread pipe owed here =>
      exact aborts.outside thread _ (by rw [here]; rfl) trivial
  | loopStage request stage resume proxy here moved =>
      have settled := aborts.settle request stage
      exact { settled with }
  | loop action proxy plain moved => exact { aborts with }

theorem aborts_of_reach {requests : Requests} {state : State}
    (reached : Reach (step requests) UndisturbedAbort State.initial state) :
    Aborts requests state := by
  apply reached.invariant_with (Recorded requests) (Aborts requests)
    (fun _ reached => recorded_of_reach reached) (initial_aborts requests)
  intro before label after recorded aborts undisturbed taken
  exact aborts_kept recorded aborts undisturbed taken

/-- If no abort is disturbed, an abort that returns has stopped every request
whose `asyncSubmit` had returned before the abort was called. -/
theorem abort_stops_all (requests : Requests) {state : State}
    (reached : Reach (step requests) UndisturbedAbort State.initial state) {thread : Thread}
    {pipe : Pipe} {owed : List Request} (returns : state.client thread = .waiting pipe owed []) :
    ∀ request ∈ owed, state.completed request = true ∧ state.userCompleted request = true := by
  have recorded := recorded_of_reach reached
  have settling := settling_of_reach reached
  have waits := (aborts_of_reach reached).waits thread
  rw [returns] at waits
  intro request member
  obtain ⟨returned, done | left⟩ := waits request member
  · have onPipe := recorded.onPipe request (recorded.returned request returned)
    refine ⟨done, settling.doneComplete request done ?_⟩
    rw [onPipe]
    simp [Stage.first]
  · cases left

def undisturbedTest (state : State) : Label → Bool
  | .snapshot thread =>
      match state.client thread with
      | .aborting pipe owed => owed.all fun request =>
          state.completed request || decide (request ∈ state.inProgress pipe)
      | _ => true
  | _ => true

theorem undisturbed_of_test (state : State) (label : Label)
    (passed : undisturbedTest state label = true) : UndisturbedAbort state label := by
  cases label with
  | snapshot thread =>
      intro pipe owed here request member _
      simp only [undisturbedTest, here, List.all_eq_true] at passed
      simpa using passed request member
  | _ => trivial

def abortReady : List Label :=
  [.asyncSubmit 0 5, .record 0, .abort 1 0, .snapshot 1, .cancelNext 1, .cancelStage 1,
    .cancelStage 1, .cancelStage 1, .cancelNext 1, .await 1]

theorem abort_stops_all_ready : ∃ state,
    run (checked (step exampleRequests) undisturbedTest) abortReady State.initial = some state ∧
      state.completed 5 = true ∧ state.userCompleted 5 = true := by
  have ends : (run (checked (step exampleRequests) undisturbedTest) abortReady State.initial).map
      (fun state => state.client 1) = some (.waiting 0 [5] []) := rfl
  obtain ⟨state, ran, returns⟩ := Option.map_eq_some_iff.mp ends
  have reached := reach_of_checked undisturbed_of_test abortReady .start ran
  exact ⟨state, ran, abort_stops_all exampleRequests reached returns 5 List.mem_cons_self⟩

/-- A second abort of the pipe begins after the first has taken the request. -/
def abortTwice : List Label :=
  [.asyncSubmit 0 5, .record 0, .abort 1 0, .snapshot 1, .abort 2 0, .snapshot 2, .cancelNext 2]

theorem abort_returns_early : ∃ state after,
    Reach (step exampleRequests) anyStep State.initial state ∧
      state.client 2 = .waiting 0 [5] [] ∧
      step exampleRequests state (.await 2) = some after ∧ after.client 2 = .idle ∧
      after.completed 5 = false ∧ after.userCompleted 5 = false := by
  have ends : ((run (step exampleRequests) abortTwice State.initial).bind fun state =>
      (step exampleRequests state (.await 2)).map fun after =>
        (state.client 2, after.client 2, after.completed 5, after.userCompleted 5)) =
          some (.waiting 0 [5] [], .idle, false, false) := rfl
  obtain ⟨state, ran, ends⟩ := Option.bind_eq_some_iff.mp ends
  obtain ⟨after, taken, ends⟩ := Option.map_eq_some_iff.mp ends
  simp only [Prod.mk.injEq] at ends
  exact ⟨state, after, reach_of_run abortTwice ran, ends.1, taken, ends.2⟩

end JavaxUsbLinux.AbortAll
