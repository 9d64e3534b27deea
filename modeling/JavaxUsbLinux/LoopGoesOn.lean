import JavaxUsbLinux.ProxyProgress

/-!
# The loop goes on

The loop of the proxy waits for nothing but the lock of `readyList`. Between two
steps only a thread inside `setCompleted(true)` in `cancel` holds it, and this
thread gives it back by its own steps.
-/

namespace JavaxUsbLinux.LoopGoesOn

open JavaxUsbLinux.NativeUrb
open JavaxUsbLinux.DeviceProxy
open JavaxUsbLinux.PipeSystem
open JavaxUsbLinux.ProxyRequests
open JavaxUsbLinux.BoundedResponse
open JavaxUsbLinux.ProxyRound
open JavaxUsbLinux.ProxyProgress
open JavaxUsbLinux.Runs

set_option autoImplicit false

def insideCancel : ClientPc → Bool
  | .completing _ _ _ _ => true
  | _ => false

/-- The lock of `readyList` is held from step to step by the thread that is inside
`setCompleted(true)` in `cancel`, and by no other. -/
def LockHeld (state : State) : Prop :=
  ∀ thread, state.readyLock = some thread ↔ insideCancel (state.client thread) = true

theorem initial_lock_held : LockHeld State.initial := by
  intro thread
  simp [State.initial, insideCancel]

theorem LockHeld.client {before after : State} (held : LockHeld before) {thread : Thread}
    (pc : ClientPc) (lock : after.readyLock = before.readyLock)
    (client : after.client = Function.update before.client thread pc)
    (same : insideCancel pc = insideCancel (before.client thread)) : LockHeld after := by
  intro other
  rw [lock, client, held other]
  by_cases mover : other = thread
  · rw [mover, Function.update_self, same]
  · rw [Function.update_of_ne mover]

theorem lock_held_kept {requests : Requests} {before after : State} {label : Label}
    (held : LockHeld before) (taken : step requests before label = some after) :
    LockHeld after := by
  cases stepped_of_step taken with
  | submit | loop => exact held
  | loopStage request stage resume proxy here =>
      intro thread
      cases stage <;> exact held thread
  | asyncSubmit thread request proxy idle =>
      exact held.client (.recording request) rfl rfl (by rw [idle]; rfl)
  | record thread request here => exact held.client .idle rfl rfl (by rw [here]; rfl)
  | cancel thread request idle =>
      exact held.client (.cancelling .cancel [request]) rfl rfl (by rw [idle]; rfl)
  | abort thread pipe idle => exact held.client (.aborting pipe _) rfl rfl (by rw [idle]; rfl)
  | snapshot thread pipe owed here =>
      exact held.client (.cancelling _ _) rfl rfl (by rw [here]; rfl)
  | cancelReturn thread here => exact held.client .idle rfl rfl (by rw [here]; rfl)
  | allCancelled thread pipe owed snapshot here =>
      exact held.client (.waiting pipe owed snapshot) rfl rfl (by rw [here]; rfl)
  | cancelMissed thread call request todo here =>
      exact held.client (.queueing call todo request) rfl rfl (by rw [here]; rfl)
  | cancelQueue thread call todo request proxy here =>
      exact held.client (.cancelling call todo) rfl rfl (by rw [here]; rfl)
  | awaited thread pipe owed request todo here =>
      exact held.client (.waiting pipe owed todo) rfl rfl (by rw [here]; rfl)
  | abortReturn thread pipe owed here => exact held.client .idle rfl rfl (by rw [here]; rfl)
  | nextCancelStage thread call todo request stage next here =>
      have client : ((before.settle requests request stage).setClient thread
          (.completing call todo request next)).client =
            Function.update before.client thread (.completing call todo request next) := by
        rw [State.setClient, settle_client]
      exact held.client _ (by cases stage <;> rfl) client (by rw [here]; rfl)
  | cancelReady thread call request todo proxy here unlocked =>
      intro other
      simp only [State.setClient]
      by_cases mover : other = thread
      · simp [mover, insideCancel]
      · have outside := (held other).not.mp (by simp [unlocked])
        simp [Function.update_of_ne mover, outside, Ne.symm mover]
  | lastCancelStage thread call todo request stage here =>
      have mine := (held thread).mpr (by rw [here]; rfl)
      intro other
      simp only [State.setClient, settle_client]
      by_cases mover : other = thread
      · simp [mover, insideCancel]
      · have outside := (held other).not.mp (by simp [mine, Ne.symm mover])
        simp [Function.update_of_ne mover, outside]

theorem lock_held_of_reach {requests : Requests} {allowed : State → Label → Prop} {state : State}
    (reached : Reach (step requests) allowed State.initial state) : LockHeld state :=
  reached.invariant LockHeld initial_lock_held fun _ _ _ held _ => lock_held_kept held

/-- Wherever the loop is, one of its own moves is possible. -/
theorem own_move_possible (kind : Request → Kind) (proxy : Proxy) :
    ∃ action, ownMove action = true ∧ PromptReap proxy action ∧
      (move kind proxy action).isSome = true := by
  cases here : proxy.loop with
  | testReady => exact ⟨.testReady, rfl, trivial, by simp [move, testReady, here]⟩
  | testCancel => exact ⟨.testCancel, rfl, trivial, by simp [move, testCancel, here]⟩
  | getReady =>
      refine ⟨.getReadyRequest, rfl, trivial, ?_⟩
      cases queue : proxy.readyList <;> simp [move, getReadyRequest, here, queue]
  | submit request =>
      -- any request may find no memory, or an ioctl that returns at once
      have outcome : ∃ outcome, (submitNative proxy.native (kind request) request
          outcome).isSome = true := by
        cases kind request with
        | pipe | dcp | isochronous => exact ⟨.urb .outOfMemory, rfl⟩
        | _ => exact ⟨.synchronous 0, rfl⟩
      obtain ⟨outcome, possible⟩ := outcome
      obtain ⟨⟨err, synchronous, native⟩, done⟩ := Option.isSome_iff_exists.mp possible
      refine ⟨.submitRequest outcome, rfl, trivial, ?_⟩
      simp only [move, submitRequest, here, done]
      split_ifs <;> rfl
  | getCancel =>
      refine ⟨.getCancelRequest, rfl, trivial, ?_⟩
      cases queue : proxy.cancelList <;> simp [move, getCancelRequest, here, queue]
  | cancel request => exact ⟨.cancelRequest 0, rfl, trivial, by simp [move, cancelRequest, here]⟩
  | reap =>
      refine ⟨.reap proxy.native.finished.head?, rfl, rfl, ?_⟩
      cases queue : proxy.native.finished with
      | nil => simp [move, reap, here]
      | cons first rest => simp [move, reap, here, queue]
  | complete held status =>
      refine ⟨.completeRequest, rfl, trivial, ?_⟩
      simp only [move, completeRequest, here]
      split
      · rfl
      · split <;> rfl
  | completing request stage resume =>
      refine ⟨.stage, rfl, trivial, ?_⟩
      cases stage <;> simp [move, DeviceProxy.stage, here, Stage.next]
  | deleteReference handle =>
      exact ⟨.deleteReference, rfl, trivial, by simp [move, deleteReference, here]⟩

theorem own_step_possible (requests : Requests) {state : State}
    (unlocked : state.readyLock = none) :
    ∃ label after, ownStep label = true ∧ PromptStep state label ∧
      step requests state label = some after := by
  obtain ⟨action, own, prompt, possible⟩ := own_move_possible requests.kind state.proxy
  obtain ⟨proxy, moved⟩ := Option.isSome_iff_exists.mp possible
  have taken : (step requests state (.loop action)).isSome = true := by
    cases action with
    | submit | withdraw | queue | finish => simp [ownMove] at own
    | getReadyRequest =>
        simp only [move] at moved
        simp [step, loopStep, unlocked, moved]
    | stage =>
        simp only [move] at moved
        have steps : Moved requests.kind state.proxy .stage proxy := moved_of_move moved
        cases steps with
        | nextStage _ _ _ _ here | lastStage _ _ _ here =>
            simp [step, loopStep, here, moved]
    | _ => simp [step, loopStep, moved]
  obtain ⟨after, done⟩ := Option.isSome_iff_exists.mp taken
  exact ⟨.loop action, after, own, prompt, done⟩

/-- A thread inside `setCompleted(true)` comes out of it by its own steps, and
gives the lock back. -/
theorem lock_released (requests : Requests) {state : State} {thread : Thread} {call : Call}
    {todo : List Request} {request : Request} {stage : Stage}
    (here : state.client thread = .completing call todo request stage) :
    ∃ labels after, Path (step requests) PromptStep state labels after ∧
      labels.countP ownStep = 0 ∧ after.readyLock = none := by
  have last (state : State) (here : state.client thread = .completing call todo request .flag) :
      ∃ labels after, Path (step requests) PromptStep state labels after ∧
        labels.countP ownStep = 0 ∧ after.readyLock = none := by
    refine ⟨[.cancelStage thread], { (state.settle requests request .flag).setClient thread
      (.cancelling call todo) with readyLock := none }, .next trivial ?_ (.done _), rfl, rfl⟩
    simp [step, cancelStage, here, Stage.next]
  have onward (state : State) {stage next : Stage}
      (here : state.client thread = .completing call todo request stage)
      (more : stage.next = some next)
      (later : ∀ state : State, state.client thread = .completing call todo request next →
        ∃ labels after, Path (step requests) PromptStep state labels after ∧
          labels.countP ownStep = 0 ∧ after.readyLock = none) :
      ∃ labels after, Path (step requests) PromptStep state labels after ∧
        labels.countP ownStep = 0 ∧ after.readyLock = none := by
    obtain ⟨labels, after, path, foreign, free⟩ := later
      ((state.settle requests request stage).setClient thread
        (.completing call todo request next)) (State.set_client_self _ _ _)
    refine ⟨.cancelStage thread :: labels, after, .next trivial ?_ path, ?_, free⟩
    · simp [step, cancelStage, here, more]
    · simpa [List.countP_cons, ownStep] using foreign
  have middle (state : State)
      (here : state.client thread = .completing call todo request .complete) :=
    onward state here rfl last
  cases stage with
  | unlist => exact onward state here rfl middle
  | complete => exact middle state here
  | flag => exact last state here

/-- In every reachable state the loop can go on for as long as one likes: it waits
for nobody but a thread that can leave the lock of `readyList` by itself. -/
theorem loop_goes_on (requests : Requests) {before : State}
    (reached : Reach (step requests) anyStep State.initial before) (rounds : Nat) :
    ∃ labels after, Path (step requests) PromptStep before labels after ∧
      labels.countP ownStep = rounds := by
  induction rounds generalizing before with
  | zero => exact ⟨[], before, .done before, rfl⟩
  | succ rounds ih =>
      have unlocks : ∃ labels middle, Path (step requests) PromptStep before labels middle ∧
          labels.countP ownStep = 0 ∧ middle.readyLock = none := by
        cases lock : before.readyLock with
        | none => exact ⟨[], before, .done before, rfl, lock⟩
        | some thread =>
            have inside := (lock_held_of_reach reached thread).mp lock
            cases here : before.client thread with
            | completing call todo request stage => exact lock_released requests here
            | _ => simp [here, insideCancel] at inside
      obtain ⟨front, middle, first, foreign, unlocked⟩ := unlocks
      obtain ⟨label, next, own, prompt, taken⟩ := own_step_possible requests unlocked
      have come : Path (step requests) PromptStep before (front ++ [label]) next :=
        first.append (.next prompt taken (.done next))
      obtain ⟨back, after, rest, many⟩ := ih ((come.weaken fun _ _ _ => trivial).reach reached)
      refine ⟨front ++ [label] ++ back, after, come.append rest, ?_⟩
      simp [List.countP_append, foreign, own, many]

theorem loop_goes_on_initial :
    ∃ labels after, Path (step exampleRequests) PromptStep State.initial labels after ∧
      labels.countP ownStep = 40 :=
  loop_goes_on exampleRequests .start 40

end JavaxUsbLinux.LoopGoesOn
