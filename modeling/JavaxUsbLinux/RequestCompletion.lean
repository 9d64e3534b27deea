import JavaxUsbLinux.PipeSystem

/-!
# The completion of a request in stages

`setCompleted(true)` is called by the loop or by a cancelling thread and runs
in stages while other threads go on. `Settling` says how far each request has
come: a request on which it was called is completed or some thread is inside
the call, and a thread that has come to a stage has done the stages before it.
-/

namespace JavaxUsbLinux.RequestCompletion

open JavaxUsbLinux.NativeUrb
open JavaxUsbLinux.DeviceProxy
open JavaxUsbLinux.ProxyPlaces
open JavaxUsbLinux.PipeSystem
open JavaxUsbLinux.Runs

set_option autoImplicit false

/-- The loop or a thread is about to do this stage of `setCompleted(true)`. -/
def AtStage (state : State) (request : Request) (stage : Stage) : Prop :=
  (∃ resume, state.proxy.loop = .completing request stage resume) ∨
    ∃ thread call todo, state.client thread = .completing call todo request stage

/-- A call of `setCompleted(true)` is part-way through. -/
def PartWay (state : State) (request : Request) : Prop :=
  ∃ stage, AtStage state request stage

/-- What one step does to the calls of `setCompleted(true)`. -/
inductive Progress (requests : Requests) (before after : State) : Prop
  | same (stages : ∀ request stage, AtStage after request stage ↔ AtStage before request stage)
      (settled : after.proxy.settled = before.proxy.settled)
      (unlisted : after.unlisted = before.unlisted)
      (userCompleted : after.userCompleted = before.userCompleted)
      (completed : after.completed = before.completed)
  | start (request : Request)
      (stages : ∀ other stage, AtStage after other stage ↔
        AtStage before other stage ∨
          other = request ∧ stage = Stage.first (requests.kind request))
      (settled : after.proxy.settled = before.proxy.settled ++ [request])
      (unlisted : after.unlisted = before.unlisted)
      (userCompleted : after.userCompleted = before.userCompleted)
      (completed : after.completed = before.completed)
  | advance (request : Request) (stage : Stage) (here : AtStage before request stage)
      (later : ∀ other reached, AtStage after other reached →
        AtStage before other reached ∨ other = request ∧ stage.next = some reached)
      (kept : ∀ other reached, AtStage before other reached →
        AtStage after other reached ∨ other = request ∧ reached = stage)
      (next : ∀ reached, stage.next = some reached → AtStage after request reached)
      (settled : after.proxy.settled = before.proxy.settled)
      (unlisted : after.unlisted = (before.settle requests request stage).unlisted)
      (userCompleted : after.userCompleted = (before.settle requests request stage).userCompleted)
      (completed : after.completed = (before.settle requests request stage).completed)

theorem moved_client (before : State) (thread : Thread) (pc : ClientPc) (request : Request)
    (stage : Stage) :
    (∃ other call todo, Function.update before.client thread pc other =
        .completing call todo request stage) ↔
      (∃ call todo, pc = .completing call todo request stage) ∨
        ∃ other, other ≠ thread ∧
          ∃ call todo, before.client other = .completing call todo request stage := by
  constructor
  · rintro ⟨other, call, todo, found⟩
    by_cases same : other = thread
    · rw [same, Function.update_self] at found
      exact Or.inl ⟨call, todo, found⟩
    · rw [Function.update_of_ne same] at found
      exact Or.inr ⟨other, same, call, todo, found⟩
  · rintro (⟨call, todo, found⟩ | ⟨other, different, call, todo, found⟩)
    · exact ⟨thread, call, todo, by rw [Function.update_self]; exact found⟩
    · exact ⟨other, call, todo, by rw [Function.update_of_ne different]; exact found⟩

theorem other_clients {before : State} {thread : Thread}
    (old : ∀ call todo request stage, before.client thread ≠ .completing call todo request stage)
    (request : Request) (stage : Stage) :
    (∃ other, other ≠ thread ∧
        ∃ call todo, before.client other = .completing call todo request stage) ↔
      ∃ other call todo, before.client other = .completing call todo request stage := by
  constructor
  · rintro ⟨other, _, call, todo, found⟩
    exact ⟨other, call, todo, found⟩
  · rintro ⟨other, call, todo, found⟩
    refine ⟨other, ?_, call, todo, found⟩
    intro same
    exact old call todo request stage (same ▸ found)

theorem plain_move_stages {kind : Request → Kind} {before after : Proxy} {action : Move}
    (plain : plainMove action = true) (moved : Moved kind before action after) :
    (after.settled = before.settled ∧ ∀ request stage resume,
      after.loop = .completing request stage resume ↔
        before.loop = .completing request stage resume) ∨
    ∃ request resume, after.settled = before.settled ++ [request] ∧
      after.loop = .completing request (Stage.first (kind request)) resume ∧
      ∀ other stage otherResume, before.loop ≠ .completing other stage otherResume := by
  cases moved with
  | submit | withdraw | queue | nextStage | lastStage => simp [plainMove] at plain
  | settleSubmit request outcome err synchronous native here done settles =>
      exact Or.inr ⟨request, .getCancel, rfl, rfl, by simp [here]⟩
  | completeRequest held status handle request here found referred =>
      exact Or.inr ⟨request, .deleteReference handle, rfl, rfl, by simp [here]⟩
  | finish => exact Or.inl ⟨rfl, fun _ _ _ => Iff.rfl⟩
  | testReady here =>
      refine Or.inl ⟨rfl, fun _ _ _ => ?_⟩
      simp only [here]
      split_ifs <;> simp
  | testCancel here =>
      refine Or.inl ⟨rfl, fun _ _ _ => ?_⟩
      simp only [here]
      split_ifs <;> simp
  | noReady here | noCancel here | reapNothing here =>
      exact Or.inl ⟨rfl, fun _ _ _ => by simp [here]⟩
  | takeReady _ _ here | takeCancel _ _ here | sendSubmit _ _ _ here | cancelRequest _ _ here
  | reap _ _ here | badUsercontext _ _ here | badReference _ _ _ here | deleteReference _ here =>
      exact Or.inl ⟨rfl, fun _ _ _ => by simp [here]⟩

theorem client_progress {requests : Requests} {before after : State} {thread : Thread}
    {pc : ClientPc} (client : after.client = Function.update before.client thread pc)
    (old : ∀ call todo request stage, before.client thread ≠ .completing call todo request stage)
    (new : ∀ call todo request stage, pc ≠ .completing call todo request stage)
    (loop : after.proxy.loop = before.proxy.loop)
    (settled : after.proxy.settled = before.proxy.settled)
    (unlisted : after.unlisted = before.unlisted)
    (userCompleted : after.userCompleted = before.userCompleted)
    (completed : after.completed = before.completed) : Progress requests before after := by
  refine .same ?_ settled unlisted userCompleted completed
  intro request stage
  unfold AtStage
  rw [client, loop, moved_client, other_clients old]
  simp [new]

theorem client_advance {requests : Requests} {before after : State} {thread : Thread}
    {call : Call} {todo : List Request} {request : Request} {stage : Stage} (pc : ClientPc)
    (here : before.client thread = .completing call todo request stage)
    (client : after.client = Function.update before.client thread pc)
    (proxy : after.proxy = before.proxy)
    (enters : ∀ call todo other reached, pc = .completing call todo other reached →
      other = request ∧ stage.next = some reached)
    (goes : ∀ reached, stage.next = some reached →
      ∃ call todo, pc = .completing call todo request reached)
    (unlisted : after.unlisted = (before.settle requests request stage).unlisted)
    (userCompleted : after.userCompleted = (before.settle requests request stage).userCompleted)
    (completed : after.completed = (before.settle requests request stage).completed) :
    Progress requests before after := by
  refine .advance request stage (Or.inr ⟨thread, call, todo, here⟩) ?_ ?_ ?_ (by rw [proxy])
    unlisted userCompleted completed
  · intro other reached inside
    unfold AtStage at inside ⊢
    rw [client, proxy, moved_client] at inside
    rcases inside with inLoop | ⟨call, todo, entered⟩ | ⟨other, _, call, todo, found⟩
    · exact Or.inl (Or.inl inLoop)
    · exact Or.inr (enters call todo _ _ entered)
    · exact Or.inl (Or.inr ⟨other, call, todo, found⟩)
  · intro other reached inside
    unfold AtStage at inside ⊢
    rw [client, proxy, moved_client]
    rcases inside with inLoop | ⟨client, otherCall, otherTodo, found⟩
    · exact Or.inl (Or.inl inLoop)
    · by_cases same : client = thread
      · right
        rw [same, here] at found
        injection found with _ _ sameRequest sameStage
        exact ⟨sameRequest.symm, sameStage.symm⟩
      · exact Or.inl (Or.inr (Or.inr ⟨client, same, otherCall, otherTodo, found⟩))
  · intro reached more
    unfold AtStage
    rw [client, moved_client]
    exact Or.inr (Or.inl (goes reached more))

/-- A cancelling thread finds its request ready and begins to complete it. -/
theorem client_start {requests : Requests} {before after : State} {thread : Thread} {call : Call}
    {request : Request} {todo : List Request}
    (here : before.client thread = .cancelling call (request :: todo))
    (client : after.client = Function.update before.client thread
      (.completing call todo request (Stage.first (requests.kind request))))
    (loop : after.proxy.loop = before.proxy.loop)
    (settled : after.proxy.settled = before.proxy.settled ++ [request])
    (unlisted : after.unlisted = before.unlisted)
    (userCompleted : after.userCompleted = before.userCompleted)
    (completed : after.completed = before.completed) : Progress requests before after := by
  refine .start request ?_ settled unlisted userCompleted completed
  intro other stage
  have entered : (∃ otherCall otherTodo, ClientPc.completing call todo request
        (Stage.first (requests.kind request)) = .completing otherCall otherTodo other stage) ↔
      other = request ∧ stage = Stage.first (requests.kind request) := by
    constructor
    · rintro ⟨_, _, found⟩
      injection found with _ _ sameRequest sameStage
      exact ⟨sameRequest.symm, sameStage.symm⟩
    · rintro ⟨rfl, rfl⟩
      exact ⟨call, todo, rfl⟩
  unfold AtStage
  rw [loop, client, moved_client, other_clients (by simp [here]), entered, or_right_comm, or_assoc]

theorem loop_start {requests : Requests} {before after : State} {request : Request}
    {resume : Resume}
    (outside : ∀ other stage otherResume,
      before.proxy.loop ≠ .completing other stage otherResume)
    (loop : after.proxy.loop = .completing request (Stage.first (requests.kind request)) resume)
    (client : after.client = before.client)
    (settled : after.proxy.settled = before.proxy.settled ++ [request])
    (unlisted : after.unlisted = before.unlisted)
    (userCompleted : after.userCompleted = before.userCompleted)
    (completed : after.completed = before.completed) : Progress requests before after := by
  refine .start request ?_ settled unlisted userCompleted completed
  intro other stage
  have entered : (∃ otherResume, after.proxy.loop = .completing other stage otherResume) ↔
      other = request ∧ stage = Stage.first (requests.kind request) := by
    constructor
    · rintro ⟨_, found⟩
      rw [loop] at found
      injection found with sameRequest sameStage _
      exact ⟨sameRequest.symm, sameStage.symm⟩
    · rintro ⟨rfl, rfl⟩
      exact ⟨resume, loop⟩
  unfold AtStage
  simp only [entered, client, outside, exists_false, false_or]
  exact or_comm

theorem stage_moved {kind : Request → Kind} {before after : Proxy} {request : Request}
    {stage : Stage} {resume : Resume} (here : before.loop = .completing request stage resume)
    (moved : move kind before .stage = some after) :
    after.settled = before.settled ∧ ∀ other reached otherResume,
      after.loop = .completing other reached otherResume ↔
        other = request ∧ stage.next = some reached ∧ otherResume = resume := by
  have resumed : ∀ other reached otherResume,
      resume.pc ≠ .completing other reached otherResume := by
    cases resume <;> simp [Resume.pc]
  cases moved_of_move moved with
  | nextStage other old next otherResume found more =>
      rw [here] at found
      injection found with sameRequest sameStage sameResume
      subst sameRequest sameStage sameResume
      simp [more, eq_comm]
  | lastStage other old otherResume found last =>
      rw [here] at found
      injection found with sameRequest sameStage sameResume
      subst sameRequest sameStage sameResume
      simp [last, resumed]

theorem loop_advance {requests : Requests} {before after : State} {request : Request}
    {stage : Stage} {resume : Resume}
    (here : before.proxy.loop = .completing request stage resume)
    (moved : move requests.kind before.proxy .stage = some after.proxy)
    (client : after.client = before.client)
    (unlisted : after.unlisted = (before.settle requests request stage).unlisted)
    (userCompleted : after.userCompleted = (before.settle requests request stage).userCompleted)
    (completed : after.completed = (before.settle requests request stage).completed) :
    Progress requests before after := by
  obtain ⟨settled, loop⟩ := stage_moved here moved
  refine .advance request stage (Or.inl ⟨resume, here⟩) ?_ ?_ ?_ settled unlisted userCompleted
    completed
  · intro other reached inside
    unfold AtStage at inside ⊢
    simp only [client, loop] at inside
    rcases inside with ⟨_, same, more, _⟩ | found
    · exact Or.inr ⟨same, more⟩
    · exact Or.inl (Or.inr found)
  · intro other reached inside
    unfold AtStage at inside ⊢
    simp only [client]
    rcases inside with ⟨otherResume, found⟩ | found
    · rw [here] at found
      injection found with sameRequest sameStage _
      exact Or.inr ⟨sameRequest.symm, sameStage.symm⟩
    · exact Or.inl (Or.inr found)
  · intro reached more
    exact Or.inl ⟨resume, (loop request reached resume).mpr ⟨rfl, more, rfl⟩⟩

theorem submit_keeps {kind : Request → Kind} {before after : Proxy} {request : Request}
    (moved : move kind before (.submit request) = some after) :
    after.loop = before.loop ∧ after.settled = before.settled := by
  cases moved_of_move moved
  exact ⟨rfl, rfl⟩

theorem queue_keeps {kind : Request → Kind} {before after : Proxy} {request : Request}
    (moved : move kind before (.queue request) = some after) :
    after.loop = before.loop ∧ after.settled = before.settled := by
  cases moved_of_move moved
  exact ⟨rfl, rfl⟩

theorem withdraw_keeps {kind : Request → Kind} {before after : Proxy} {request : Request}
    (moved : move kind before (.withdraw request) = some after) :
    after.loop = before.loop ∧ after.settled = before.settled ++ [request] := by
  cases moved_of_move moved
  exact ⟨rfl, rfl⟩

theorem progress_of_step {requests : Requests} {before after : State} {label : Label}
    (taken : step requests before label = some after) : Progress requests before after := by
  cases stepped_of_step taken with
  | submit thread request proxy idle unlocked moved =>
      obtain ⟨loop, settled⟩ := submit_keeps moved
      refine .same ?_ settled rfl rfl rfl
      intro other stage
      unfold AtStage
      simp only [loop]
  | asyncSubmit thread request proxy idle unlocked onPipe moved =>
      obtain ⟨loop, settled⟩ := submit_keeps moved
      exact client_progress rfl (by simp [idle]) (by simp) loop settled rfl rfl rfl
  | record _ _ here | cancel _ _ here | abort _ _ here | snapshot _ _ _ here
  | cancelReturn _ here | allCancelled _ _ _ _ here | cancelMissed _ _ _ _ here
  | awaited _ _ _ _ _ here | abortReturn _ _ _ here =>
      exact client_progress rfl (by simp [here]) (by simp) rfl rfl rfl rfl rfl
  | cancelReady thread call request todo proxy here unlocked ready moved =>
      obtain ⟨loop, settled⟩ := withdraw_keeps moved
      exact client_start here rfl loop settled rfl rfl rfl
  | nextCancelStage thread call todo request stage next here more =>
      refine client_advance (.completing call todo request next) here (by simp [State.setClient])
        (settle_proxy _ _ _ _) ?_ ?_ rfl rfl rfl
      · intro otherCall otherTodo other reached entered
        injection entered with _ _ sameRequest sameStage
        exact ⟨sameRequest.symm, by rw [more, sameStage]⟩
      · intro reached goes
        rw [more, Option.some.injEq] at goes
        exact ⟨call, todo, by rw [goes]⟩
  | lastCancelStage thread call todo request stage here last =>
      refine client_advance (.cancelling call todo) here (by simp [State.setClient])
        (settle_proxy _ _ _ _) ?_ ?_ rfl rfl rfl
      · simp
      · simp [last]
  | cancelQueue thread call todo request proxy here moved =>
      obtain ⟨loop, settled⟩ := queue_keeps moved
      exact client_progress rfl (by simp [here]) (by simp) loop settled rfl rfl rfl
  | loopStage request stage resume proxy here moved =>
      exact loop_advance here moved (settle_client _ _ _ _) rfl rfl rfl
  | loop action proxy plain moved =>
      rcases plain_move_stages plain (moved_of_move moved) with ⟨settled, stages⟩ |
        ⟨request, resume, settled, starts, outside⟩
      · refine .same ?_ settled rfl rfl rfl
        intro request stage
        unfold AtStage
        simp only [stages]
      · exact loop_start outside starts rfl settled rfl rfl rfl

/-! ### How far each request has come -/

structure Settling (requests : Requests) (state : State) : Prop where
  started : ∀ request stage, AtStage state request stage → request ∈ state.proxy.settled
  settled : ∀ request ∈ state.proxy.settled,
    state.completed request = true ∨ PartWay state request
  flagged : ∀ request, state.completed request = true → request ∈ state.proxy.settled
  unlisted : ∀ request ∈ state.unlisted, request ∈ state.proxy.settled
  passedUnlist : ∀ request stage, AtStage state request stage → stage ≠ .unlist →
    Stage.first (requests.kind request) = .unlist → request ∈ state.unlisted
  passedComplete : ∀ request, AtStage state request .flag →
    Stage.first (requests.kind request) ≠ .flag → state.userCompleted request = true
  doneUnlist : ∀ request, state.completed request = true →
    Stage.first (requests.kind request) = .unlist → request ∈ state.unlisted
  doneComplete : ∀ request, state.completed request = true →
    Stage.first (requests.kind request) ≠ .flag → state.userCompleted request = true

theorem initial_settling (requests : Requests) : Settling requests State.initial := by
  have nobody : ∀ request stage, ¬ AtStage State.initial request stage := by
    intro request stage inside
    simp [AtStage, State.initial, Proxy.initial] at inside
  constructor
  · exact fun request stage inside => absurd inside (nobody request stage)
  · exact fun _ member => absurd member List.not_mem_nil
  · exact fun _ done => absurd done Bool.false_ne_true
  · exact fun _ member => absurd member List.not_mem_nil
  · exact fun request stage inside => absurd inside (nobody request stage)
  · exact fun request inside => absurd inside (nobody request .flag)
  · exact fun _ done => absurd done Bool.false_ne_true
  · exact fun _ done => absurd done Bool.false_ne_true

theorem settle_unlisted (requests : Requests) (state : State) (request other : Request)
    (stage : Stage) : other ∈ (state.settle requests request stage).unlisted ↔
      other ∈ state.unlisted ∨ other = request ∧ stage = .unlist := by
  cases stage <;> simp [State.settle, State.unlist]

theorem settle_completed (requests : Requests) (state : State) (request other : Request)
    (stage : Stage) : (state.settle requests request stage).completed other = true ↔
      state.completed other = true ∨ other = request ∧ stage = .flag := by
  cases stage with
  | unlist => simp [State.settle, State.unlist]
  | complete => simp [State.settle]
  | flag =>
      simp only [State.settle, Function.update_apply]
      split_ifs with same <;> simp [same]

theorem settle_user (requests : Requests) (state : State) (request other : Request)
    (stage : Stage) : (state.settle requests request stage).userCompleted other = true ↔
      state.userCompleted other = true ∨ other = request ∧ stage = .complete := by
  cases stage with
  | unlist => simp [State.settle, State.unlist]
  | flag => simp [State.settle]
  | complete =>
      simp only [State.settle, Function.update_apply]
      split_ifs with same <;> simp [same]

theorem settling_kept {requests : Requests} {before after : State}
    (settling : Settling requests before) (progress : Progress requests before after) :
    Settling requests after := by
  cases progress with
  | same stages settled unlisted userCompleted completed =>
      constructor <;> simp only [PartWay, stages, settled, unlisted, userCompleted, completed]
      · exact settling.started
      · exact settling.settled
      · exact settling.flagged
      · exact settling.unlisted
      · exact settling.passedUnlist
      · exact settling.passedComplete
      · exact settling.doneUnlist
      · exact settling.doneComplete
  | start request stages settled unlisted userCompleted completed =>
      constructor <;> simp only [PartWay, stages, settled, unlisted, userCompleted, completed,
        List.mem_append, List.mem_singleton]
      · rintro other stage (inside | ⟨same, _⟩)
        · exact Or.inl (settling.started other stage inside)
        · exact Or.inr same
      · rintro other (known | same)
        · refine (settling.settled other known).imp_right ?_
          rintro ⟨stage, inside⟩
          exact ⟨stage, Or.inl inside⟩
        · exact Or.inr ⟨_, Or.inr ⟨same, rfl⟩⟩
      · exact fun other done => Or.inl (settling.flagged other done)
      · exact fun other member => Or.inl (settling.unlisted other member)
      · rintro other stage (inside | ⟨rfl, rfl⟩) notUnlist first
        · exact settling.passedUnlist other stage inside notUnlist first
        · exact absurd first notUnlist
      · rintro other (inside | ⟨rfl, flag⟩) first
        · exact settling.passedComplete other inside first
        · exact absurd flag.symm first
      · exact settling.doneUnlist
      · exact settling.doneComplete
  | advance request stage here later kept next settled unlisted userCompleted completed =>
      constructor <;> simp only [PartWay, settled, unlisted, userCompleted, completed,
        settle_unlisted, settle_completed, settle_user]
      · intro other reached inside
        rcases later other reached inside with before | ⟨same, _⟩
        · exact settling.started other reached before
        · exact same ▸ settling.started request stage here
      · intro other known
        rcases settling.settled other known with done | ⟨reached, inside⟩
        · exact Or.inl (Or.inl done)
        · rcases kept other reached inside with stays | ⟨rfl, rfl⟩
          · exact Or.inr ⟨reached, stays⟩
          · cases more : reached.next with
            | some following => exact Or.inr ⟨following, next following more⟩
            | none =>
                have last : reached = .flag := by cases reached <;> simp_all [Stage.next]
                exact Or.inl (Or.inr ⟨rfl, last⟩)
      · rintro other (done | ⟨rfl, _⟩)
        · exact settling.flagged other done
        · exact settling.started other stage here
      · rintro other (member | ⟨rfl, _⟩)
        · exact settling.unlisted other member
        · exact settling.started other stage here
      · intro other reached inside notUnlist first
        rcases later other reached inside with before | ⟨rfl, more⟩
        · exact Or.inl (settling.passedUnlist other reached before notUnlist first)
        · by_cases atUnlist : stage = .unlist
          · exact Or.inr ⟨rfl, atUnlist⟩
          · exact Or.inl (settling.passedUnlist other stage here atUnlist first)
      · intro other inside first
        rcases later other .flag inside with before | ⟨rfl, more⟩
        · exact Or.inl (settling.passedComplete other before first)
        · have before : stage = .complete := by cases stage <;> simp_all [Stage.next]
          exact Or.inr ⟨rfl, before⟩
      · rintro other (done | ⟨rfl, rfl⟩) first
        · exact Or.inl (settling.doneUnlist other done first)
        · exact Or.inl (settling.passedUnlist other .flag here (by simp) first)
      · rintro other (done | ⟨rfl, rfl⟩) first
        · exact Or.inl (settling.doneComplete other done first)
        · exact Or.inl (settling.passedComplete other here first)

theorem settling_of_reach {requests : Requests} {allowed : State → Label → Prop} {state : State}
    (reached : Reach (step requests) allowed State.initial state) : Settling requests state := by
  apply reached.invariant (Settling requests) (initial_settling requests)
  intro before label after settling _ taken
  exact settling_kept settling (progress_of_step taken)

end JavaxUsbLinux.RequestCompletion
