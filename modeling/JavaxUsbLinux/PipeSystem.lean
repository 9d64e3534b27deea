import JavaxUsbLinux.ProxyPlaces

/-!
# Pipes, client threads and the loop together

Any number of threads submit requests, submit them on pipes, cancel them and
abort pipes, while the loop of the device runs. A step is one section under a
lock, one call that other threads can observe, or one move of the loop or the
kernel. `cancel` calls `setCompleted(true)` with the lock of `readyList` held.
The fields of `State` from `asyncSubmitted` on only keep the books.
-/

namespace JavaxUsbLinux.PipeSystem

open JavaxUsbLinux.NativeUrb
open JavaxUsbLinux.DeviceProxy
open JavaxUsbLinux.ProxyPlaces
open JavaxUsbLinux.Runs

set_option autoImplicit false

abbrev Thread := Nat
abbrev Pipe := Nat

/-- The request objects: their class and, for a `LinuxPipeRequest`, its pipe. -/
structure Requests where
  kind : Request → Kind
  pipe : Request → Pipe

/-- Who runs `cancel`: a direct caller, or `abortAllSubmissions` on a pipe. An
abort remembers its snapshot, and the requests whose `asyncSubmit` on the pipe
had returned when the call began. -/
inductive Call where
  | cancel
  | abort (pipe : Pipe) (owed requests : List Request)
  deriving DecidableEq

inductive ClientPc where
  | idle
  | recording (request : Request)
  | aborting (pipe : Pipe) (owed : List Request)
  | cancelling (call : Call) (todo : List Request)
  | completing (call : Call) (todo : List Request) (request : Request) (stage : Stage)
  | queueing (call : Call) (todo : List Request) (request : Request)
  | waiting (pipe : Pipe) (owed todo : List Request)
  deriving DecidableEq

structure State where
  proxy : Proxy
  readyLock : Option Thread
  client : Thread → ClientPc
  inProgress : Pipe → List Request
  userCompleted : Request → Bool
  completed : Request → Bool
  asyncSubmitted : List Request
  returned : List Request
  unlisted : List Request
  taken : List Request

namespace State

def initial : State where
  proxy := Proxy.initial
  readyLock := none
  client _ := .idle
  inProgress _ := []
  userCompleted _ := false
  completed _ := false
  asyncSubmitted := []
  returned := []
  unlisted := []
  taken := []

def setClient (state : State) (thread : Thread) (pc : ClientPc) : State :=
  { state with client := Function.update state.client thread pc }

@[simp] theorem set_client_self (state : State) (thread : Thread) (pc : ClientPc) :
    (state.setClient thread pc).client thread = pc := by
  simp [setClient]

theorem set_client_other (state : State) {thread other : Thread} (pc : ClientPc)
    (different : other ≠ thread) :
    (state.setClient thread pc).client other = state.client other := by
  simp [setClient, different]

/-- What holds of every client holds after one of them has moved, if it holds
at the new position. -/
theorem set_client_forall {state : State} {holds : ClientPc → Prop} (thread : Thread)
    {pc : ClientPc} (new : holds pc) (old : ∀ other, holds (state.client other))
    (other : Thread) : holds ((state.setClient thread pc).client other) := by
  by_cases same : other = thread
  · rw [same, set_client_self]
    exact new
  · rw [set_client_other state pc same]
    exact old other

def unlist (requests : Requests) (state : State) (request : Request) : State :=
  { state with
    inProgress := Function.update state.inProgress (requests.pipe request)
      ((state.inProgress (requests.pipe request)).erase request)
    unlisted := state.unlisted ++ [request] }

def settle (requests : Requests) (state : State) (request : Request) : Stage → State
  | .unlist => state.unlist requests request
  | .complete =>
      { state with userCompleted := Function.update state.userCompleted request true }
  | .flag => { state with completed := Function.update state.completed request true }

end State

def submit (thread : Thread) (request : Request) (state : State) : Option State :=
  if state.client thread = .idle ∧ state.readyLock = none then
    (DeviceProxy.submit request state.proxy).map fun proxy => { state with proxy := proxy }
  else none

/-- `LinuxPipeOsImp.asyncSubmit` up to the return of `submit`. -/
def asyncSubmit (requests : Requests) (thread : Thread) (request : Request) (state : State) :
    Option State :=
  if state.client thread = .idle ∧ state.readyLock = none ∧ requests.kind request = .pipe then
    (DeviceProxy.submit request state.proxy).map fun proxy =>
      { state.setClient thread (.recording request) with
        proxy := proxy
        asyncSubmitted := state.asyncSubmitted ++ [request] }
  else none

def record (requests : Requests) (thread : Thread) (state : State) : Option State :=
  match state.client thread with
  | .recording request => some { state.setClient thread .idle with
      inProgress := Function.update state.inProgress (requests.pipe request)
        (state.inProgress (requests.pipe request) ++ [request])
      returned := state.returned ++ [request] }
  | _ => none

def cancel (thread : Thread) (request : Request) (state : State) : Option State :=
  if state.client thread = .idle then
    some (state.setClient thread (.cancelling .cancel [request]))
  else none

def abort (requests : Requests) (thread : Thread) (pipe : Pipe) (state : State) : Option State :=
  if state.client thread = .idle then
    some (state.setClient thread
      (.aborting pipe (state.returned.filter fun request => requests.pipe request = pipe)))
  else none

def snapshot (thread : Thread) (state : State) : Option State :=
  match state.client thread with
  | .aborting pipe owed =>
      some { state.setClient thread
          (.cancelling (.abort pipe owed (state.inProgress pipe)) (state.inProgress pipe)) with
        inProgress := Function.update state.inProgress pipe []
        taken := state.taken ++ state.inProgress pipe }
  | _ => none

/-- The next `cancel` up to the end of its first block, unless it completes the
request: then `setCompleted(true)` follows with the lock held. -/
def cancelNext (requests : Requests) (thread : Thread) (state : State) : Option State :=
  match state.client thread with
  | .cancelling .cancel [] => some (state.setClient thread .idle)
  | .cancelling (.abort pipe owed snapshot) [] =>
      some (state.setClient thread (.waiting pipe owed snapshot))
  | .cancelling call (request :: todo) =>
      if state.readyLock = none then
        if request ∈ state.proxy.readyList then
          (withdraw request state.proxy).map fun proxy =>
            { state.setClient thread
                (.completing call todo request (Stage.first (requests.kind request))) with
              proxy := proxy
              readyLock := some thread }
        else some (state.setClient thread (.queueing call todo request))
      else none
  | _ => none

def cancelStage (requests : Requests) (thread : Thread) (state : State) : Option State :=
  match state.client thread with
  | .completing call todo request stage =>
      let settled := state.settle requests request stage
      match stage.next with
      | some next => some (settled.setClient thread (.completing call todo request next))
      | none => some { settled.setClient thread (.cancelling call todo) with readyLock := none }
  | _ => none

def cancelQueue (thread : Thread) (state : State) : Option State :=
  match state.client thread with
  | .queueing call todo request => (queue request state.proxy).map fun proxy =>
      { state.setClient thread (.cancelling call todo) with proxy := proxy }
  | _ => none

/-- `waitUntilCompleted` on the next request of the snapshot, and the return of the abort. -/
def await (thread : Thread) (state : State) : Option State :=
  match state.client thread with
  | .waiting _ _ [] => some (state.setClient thread .idle)
  | .waiting pipe owed (request :: todo) =>
      if state.completed request then some (state.setClient thread (.waiting pipe owed todo))
      else none
  | _ => none

/-- The loop takes the lock of `readyList` for `getReadyRequest`, and its
stages of `setCompleted(true)` act on the pipe and the user's object. -/
def loopStep (requests : Requests) (action : Move) (state : State) : Option State :=
  match action with
  | .submit _ | .withdraw _ | .queue _ => none
  | .getReadyRequest =>
      if state.readyLock = none then
        (getReadyRequest state.proxy).map fun proxy => { state with proxy := proxy }
      else none
  | .stage =>
      match state.proxy.loop with
      | .completing request stage _ => (DeviceProxy.stage state.proxy).map fun proxy =>
          { state.settle requests request stage with proxy := proxy }
      | _ => none
  | action => (move requests.kind state.proxy action).map fun proxy => { state with proxy := proxy }

inductive Label where
  | submit (thread : Thread) (request : Request)
  | asyncSubmit (thread : Thread) (request : Request)
  | record (thread : Thread)
  | cancel (thread : Thread) (request : Request)
  | abort (thread : Thread) (pipe : Pipe)
  | snapshot (thread : Thread)
  | cancelNext (thread : Thread)
  | cancelStage (thread : Thread)
  | cancelQueue (thread : Thread)
  | await (thread : Thread)
  | loop (action : Move)

def step (requests : Requests) (state : State) : Label → Option State
  | .submit thread request => submit thread request state
  | .asyncSubmit thread request => asyncSubmit requests thread request state
  | .record thread => record requests thread state
  | .cancel thread request => cancel thread request state
  | .abort thread pipe => abort requests thread pipe state
  | .snapshot thread => snapshot thread state
  | .cancelNext thread => cancelNext requests thread state
  | .cancelStage thread => cancelStage requests thread state
  | .cancelQueue thread => cancelQueue thread state
  | .await thread => await thread state
  | .loop action => loopStep requests action state

def plainMove : Move → Bool
  | .submit _ | .withdraw _ | .queue _ | .stage => false
  | _ => true

/-- All that a step can do, with the tests that it passed. -/
inductive Stepped (requests : Requests) (before : State) : Label → State → Prop
  | submit (thread : Thread) (request : Request) (proxy : Proxy)
      (idle : before.client thread = .idle) (unlocked : before.readyLock = none)
      (moved : move requests.kind before.proxy (.submit request) = some proxy) :
      Stepped requests before (.submit thread request) { before with proxy := proxy }
  | asyncSubmit (thread : Thread) (request : Request) (proxy : Proxy)
      (idle : before.client thread = .idle) (unlocked : before.readyLock = none)
      (onPipe : requests.kind request = .pipe)
      (moved : move requests.kind before.proxy (.submit request) = some proxy) :
      Stepped requests before (.asyncSubmit thread request)
        { before.setClient thread (.recording request) with
          proxy := proxy
          asyncSubmitted := before.asyncSubmitted ++ [request] }
  | record (thread : Thread) (request : Request)
      (here : before.client thread = .recording request) :
      Stepped requests before (.record thread) { before.setClient thread .idle with
        inProgress := Function.update before.inProgress (requests.pipe request)
          (before.inProgress (requests.pipe request) ++ [request])
        returned := before.returned ++ [request] }
  | cancel (thread : Thread) (request : Request) (idle : before.client thread = .idle) :
      Stepped requests before (.cancel thread request)
        (before.setClient thread (.cancelling .cancel [request]))
  | abort (thread : Thread) (pipe : Pipe) (idle : before.client thread = .idle) :
      Stepped requests before (.abort thread pipe) (before.setClient thread
        (.aborting pipe (before.returned.filter fun request => requests.pipe request = pipe)))
  | snapshot (thread : Thread) (pipe : Pipe) (owed : List Request)
      (here : before.client thread = .aborting pipe owed) :
      Stepped requests before (.snapshot thread) { before.setClient thread
          (.cancelling (.abort pipe owed (before.inProgress pipe)) (before.inProgress pipe)) with
        inProgress := Function.update before.inProgress pipe []
        taken := before.taken ++ before.inProgress pipe }
  | cancelReturn (thread : Thread) (here : before.client thread = .cancelling .cancel []) :
      Stepped requests before (.cancelNext thread) (before.setClient thread .idle)
  | allCancelled (thread : Thread) (pipe : Pipe) (owed snapshot : List Request)
      (here : before.client thread = .cancelling (.abort pipe owed snapshot) []) :
      Stepped requests before (.cancelNext thread)
        (before.setClient thread (.waiting pipe owed snapshot))
  | cancelReady (thread : Thread) (call : Call) (request : Request) (todo : List Request)
      (proxy : Proxy) (here : before.client thread = .cancelling call (request :: todo))
      (unlocked : before.readyLock = none) (ready : request ∈ before.proxy.readyList)
      (moved : move requests.kind before.proxy (.withdraw request) = some proxy) :
      Stepped requests before (.cancelNext thread) { before.setClient thread
          (.completing call todo request (Stage.first (requests.kind request))) with
        proxy := proxy
        readyLock := some thread }
  | cancelMissed (thread : Thread) (call : Call) (request : Request) (todo : List Request)
      (here : before.client thread = .cancelling call (request :: todo))
      (unlocked : before.readyLock = none) (missed : request ∉ before.proxy.readyList) :
      Stepped requests before (.cancelNext thread)
        (before.setClient thread (.queueing call todo request))
  | nextCancelStage (thread : Thread) (call : Call) (todo : List Request) (request : Request)
      (stage next : Stage) (here : before.client thread = .completing call todo request stage)
      (more : stage.next = some next) :
      Stepped requests before (.cancelStage thread)
        ((before.settle requests request stage).setClient
          thread (.completing call todo request next))
  | lastCancelStage (thread : Thread) (call : Call) (todo : List Request) (request : Request)
      (stage : Stage) (here : before.client thread = .completing call todo request stage)
      (last : stage.next = none) :
      Stepped requests before (.cancelStage thread)
        { (before.settle requests request stage).setClient thread (.cancelling call todo) with
          readyLock := none }
  | cancelQueue (thread : Thread) (call : Call) (todo : List Request) (request : Request)
      (proxy : Proxy) (here : before.client thread = .queueing call todo request)
      (moved : move requests.kind before.proxy (.queue request) = some proxy) :
      Stepped requests before (.cancelQueue thread)
        { before.setClient thread (.cancelling call todo) with proxy := proxy }
  | awaited (thread : Thread) (pipe : Pipe) (owed : List Request) (request : Request)
      (todo : List Request) (here : before.client thread = .waiting pipe owed (request :: todo))
      (completed : before.completed request = true) :
      Stepped requests before (.await thread) (before.setClient thread (.waiting pipe owed todo))
  | abortReturn (thread : Thread) (pipe : Pipe) (owed : List Request)
      (here : before.client thread = .waiting pipe owed []) :
      Stepped requests before (.await thread) (before.setClient thread .idle)
  | loopStage (request : Request) (stage : Stage) (resume : Resume) (proxy : Proxy)
      (here : before.proxy.loop = .completing request stage resume)
      (moved : move requests.kind before.proxy .stage = some proxy) :
      Stepped requests before (.loop .stage)
        { before.settle requests request stage with proxy := proxy }
  | loop (action : Move) (proxy : Proxy) (plain : plainMove action = true)
      (moved : move requests.kind before.proxy action = some proxy) :
      Stepped requests before (.loop action) { before with proxy := proxy }

theorem stepped_of_step {requests : Requests} {before after : State} {label : Label}
    (taken : step requests before label = some after) : Stepped requests before label after := by
  cases label with
  | submit thread request =>
      simp only [step, submit, Option.ite_none_right_eq_some, Option.map_eq_some_iff] at taken
      obtain ⟨⟨idle, unlocked⟩, proxy, moved, rfl⟩ := taken
      exact .submit thread request proxy idle unlocked moved
  | asyncSubmit thread request =>
      simp only [step, asyncSubmit, Option.ite_none_right_eq_some, Option.map_eq_some_iff] at taken
      obtain ⟨⟨idle, unlocked, onPipe⟩, proxy, moved, rfl⟩ := taken
      exact .asyncSubmit thread request proxy idle unlocked onPipe moved
  | record thread =>
      simp only [step, record] at taken
      split at taken
      · cases taken
        exact .record thread _ ‹_›
      · contradiction
  | cancel thread request =>
      simp only [step, cancel, Option.ite_none_right_eq_some, Option.some.injEq] at taken
      obtain ⟨idle, rfl⟩ := taken
      exact .cancel thread request idle
  | abort thread pipe =>
      simp only [step, abort, Option.ite_none_right_eq_some, Option.some.injEq] at taken
      obtain ⟨idle, rfl⟩ := taken
      exact .abort thread pipe idle
  | snapshot thread =>
      simp only [step, snapshot] at taken
      split at taken
      · cases taken
        exact .snapshot thread _ _ ‹_›
      · contradiction
  | cancelNext thread =>
      simp only [step, cancelNext] at taken
      split at taken
      · cases taken
        exact .cancelReturn thread ‹_›
      · cases taken
        exact .allCancelled thread _ _ _ ‹_›
      · split_ifs at taken with unlocked ready
        · obtain ⟨proxy, moved, rfl⟩ := Option.map_eq_some_iff.mp taken
          exact .cancelReady thread _ _ _ proxy ‹_› unlocked ready moved
        · cases taken
          exact .cancelMissed thread _ _ _ ‹_› unlocked ready
      · contradiction
  | cancelStage thread =>
      simp only [step, cancelStage] at taken
      split at taken
      · split at taken
        · cases taken
          exact .nextCancelStage thread _ _ _ _ _ ‹_› ‹_›
        · cases taken
          exact .lastCancelStage thread _ _ _ _ ‹_› ‹_›
      · contradiction
  | cancelQueue thread =>
      simp only [step, cancelQueue] at taken
      split at taken
      · obtain ⟨proxy, moved, rfl⟩ := Option.map_eq_some_iff.mp taken
        exact .cancelQueue thread _ _ _ proxy ‹_› moved
      · contradiction
  | await thread =>
      simp only [step, await] at taken
      split at taken
      · cases taken
        exact .abortReturn thread _ _ ‹_›
      · split_ifs at taken with completed
        cases taken
        exact .awaited thread _ _ _ _ ‹_› completed
      · contradiction
  | loop action =>
      cases action with
      | submit | withdraw | queue => simp [step, loopStep] at taken
      | getReadyRequest =>
          simp only [step, loopStep, Option.ite_none_right_eq_some, Option.map_eq_some_iff] at taken
          obtain ⟨_, proxy, moved, rfl⟩ := taken
          exact .loop _ proxy rfl moved
      | stage =>
          simp only [step, loopStep] at taken
          split at taken
          · obtain ⟨proxy, moved, rfl⟩ := Option.map_eq_some_iff.mp taken
            exact .loopStage _ _ _ proxy ‹_› moved
          · contradiction
      | _ =>
          obtain ⟨proxy, moved, rfl⟩ := Option.map_eq_some_iff.mp taken
          exact .loop _ proxy rfl moved

/-! ### The proxy in a run -/

@[simp] theorem settle_proxy (requests : Requests) (state : State) (request : Request)
    (stage : Stage) : (state.settle requests request stage).proxy = state.proxy := by
  cases stage <;> rfl

@[simp] theorem settle_client (requests : Requests) (state : State) (request : Request)
    (stage : Stage) : (state.settle requests request stage).client = state.client := by
  cases stage <;> rfl

/-- The native submit functions tell the truth in this step. -/
def HonestStep (requests : Requests) (state : State) : Label → Prop
  | .loop action => HonestMove requests.kind state.proxy action
  | _ => True

theorem honest_step (requests : Requests) (plain : ∀ request, requests.kind request ≠ .isochronous)
    (state : State) (label : Label) : HonestStep requests state label := by
  cases label with
  | loop action =>
      cases action with
      | submitRequest outcome =>
          intro request _
          exact UrbOwnership.truthful_of_not_isochronous _ request outcome (plain request)
      | _ => trivial
  | _ => trivial

theorem step_moves {requests : Requests} {before after : State} {label : Label}
    (taken : step requests before label = some after) :
    after.proxy = before.proxy ∨ ∃ action, (label = .loop action ∨ plainMove action = false) ∧
      move requests.kind before.proxy action = some after.proxy := by
  cases stepped_of_step taken with
  | submit thread request proxy idle unlocked moved =>
      exact Or.inr ⟨.submit request, Or.inr rfl, moved⟩
  | asyncSubmit thread request proxy idle unlocked onPipe moved =>
      exact Or.inr ⟨.submit request, Or.inr rfl, moved⟩
  | cancelReady thread call request todo proxy here unlocked ready moved =>
      exact Or.inr ⟨.withdraw request, Or.inr rfl, moved⟩
  | cancelQueue thread call todo request proxy here moved =>
      exact Or.inr ⟨.queue request, Or.inr rfl, moved⟩
  | loopStage request stage resume proxy here moved => exact Or.inr ⟨.stage, Or.inr rfl, moved⟩
  | loop action proxy plain moved => exact Or.inr ⟨action, Or.inl rfl, moved⟩
  | nextCancelStage | lastCancelStage => exact Or.inl (settle_proxy requests before _ _)
  | _ => exact Or.inl rfl

/-- A run of the system is, for the proxy, a run of its moves. A condition on
the steps of the loop becomes one on the moves. -/
theorem proxy_run {requests : Requests} {allowed : State → Label → Prop}
    {able : Proxy → Move → Prop} {state : State}
    (reached : Reach (step requests) allowed State.initial state)
    (free : ∀ proxy action, plainMove action = false → able proxy action)
    (permits : ∀ state action, allowed state (.loop action) → able state.proxy action) :
    Reach (move requests.kind) able Proxy.initial state.proxy := by
  apply reached.simulate State.proxy
  intro before label after permitted taken
  rcases step_moves taken with same | ⟨action, from_loop | other, moved⟩
  · exact Or.inl same
  · exact Or.inr ⟨action, permits before action (from_loop ▸ permitted), moved⟩
  · exact Or.inr ⟨action, free before.proxy action other, moved⟩

theorem sound_run {requests : Requests} {allowed : State → Label → Prop} {state : State}
    (reached : Reach (step requests) allowed State.initial state) :
    Sound requests.kind state.proxy := by
  have run : Reach (move requests.kind) anyStep Proxy.initial state.proxy :=
    proxy_run reached (fun _ _ _ => trivial) fun _ _ _ => trivial
  exact sound_of_reach run

theorem honest_proxy_run {requests : Requests} {state : State}
    (reached : Reach (step requests) (HonestStep requests) State.initial state) :
    Reach (move requests.kind) (HonestMove requests.kind) Proxy.initial state.proxy := by
  apply proxy_run reached
  · intro proxy action other
    cases action with
    | submitRequest => cases other
    | _ => trivial
  · exact fun state action honest => honest

end JavaxUsbLinux.PipeSystem
