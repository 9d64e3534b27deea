import JavaxUsbLinux.CancelAnswer

/-!
# The loop serves everybody in time

The rounds of the loop in the system of clients, loop and kernel: a ready request,
an ended URB and a queued cancel are served after a number of steps of the loop
that depends on their place in the queue and on nothing that comes later.
-/

namespace JavaxUsbLinux.ProxyProgress

open JavaxUsbLinux.NativeUrb
open JavaxUsbLinux.UrbOwnership
open JavaxUsbLinux.DeviceProxy
open JavaxUsbLinux.ProxyPlaces
open JavaxUsbLinux.PipeSystem
open JavaxUsbLinux.ProxyRequests
open JavaxUsbLinux.CancelQueue
open JavaxUsbLinux.BoundedResponse
open JavaxUsbLinux.ProxyRound
open JavaxUsbLinux.CancelAnswer
open JavaxUsbLinux.Runs

set_option autoImplicit false

def ownStep : Label → Bool
  | .loop action => ownMove action
  | _ => false

/-- Every reap of the run is prompt: it hands back the oldest ended URB, as the kernel
does while the device is connected. -/
def PromptStep (state : State) : Label → Prop
  | .loop action => PromptReap state.proxy action
  | _ => True

theorem prompt_foreign {proxy : Proxy} {action : Move} (foreign : ownMove action = false) :
    PromptReap proxy action := by
  cases action with
  | reap => cases foreign
  | _ => trivial

theorem honest_foreign {kind : Request → Kind} {request : Request} {proxy : Proxy}
    {action : Move} (foreign : ownMove action = false) :
    HonestAbout kind request proxy action := by
  cases action with
  | submitRequest => cases foreign
  | _ => trivial

/-- For the proxy every step is one of its moves, or nothing; the moves of its
loop are the steps of the loop thread. -/
theorem step_as_move {requests : Requests} {before after : State} {label : Label}
    (taken : step requests before label = some after) :
    (after.proxy = before.proxy ∧ ownStep label = false) ∨
      ∃ action, Moved requests.kind before.proxy action after.proxy ∧
        (label = .loop action ∨ ownMove action = false ∧ ownStep label = false) := by
  cases stepped_of_step taken with
  | submit thread request proxy idle unlocked moved =>
      exact Or.inr ⟨.submit request, moved_of_move moved, Or.inr ⟨rfl, rfl⟩⟩
  | asyncSubmit thread request proxy idle unlocked onPipe moved =>
      exact Or.inr ⟨.submit request, moved_of_move moved, Or.inr ⟨rfl, rfl⟩⟩
  | cancelReady thread call request todo proxy here unlocked ready moved =>
      exact Or.inr ⟨.withdraw request, moved_of_move moved, Or.inr ⟨rfl, rfl⟩⟩
  | cancelQueue thread call todo request proxy here moved =>
      exact Or.inr ⟨.queue request, moved_of_move moved, Or.inr ⟨rfl, rfl⟩⟩
  | loopStage request stage resume proxy here moved =>
      exact Or.inr ⟨.stage, moved_of_move moved, Or.inl rfl⟩
  | loop action proxy plain moved => exact Or.inr ⟨action, moved_of_move moved, Or.inl rfl⟩
  | nextCancelStage | lastCancelStage => exact Or.inl ⟨settle_proxy requests before _ _, rfl⟩
  | _ => exact Or.inl ⟨rfl, rfl⟩

/-- What the moves of the proxy draw nearer, the steps of the system draw nearer.
The condition on the moves is one on the loop's own. -/
theorem draws_of_moves {requests : Requests} {allowed : State → Label → Prop}
    (able : Proxy → Move → Prop) (ends : Proxy → Move → Proxy → Prop)
    (due : Nat → Proxy → Prop) {given : State → Prop}
    (permits : ∀ state action, allowed state (.loop action) → able state.proxy action)
    (free : ∀ proxy action, ownMove action = false → able proxy action)
    (drawn : ∀ left before action after, Sound requests.kind before → able before action →
      Moved requests.kind before action after → due left before →
        ends before action after ∨ ∃ rest, due rest after ∧ rest + (ownMove action).toNat ≤ left)
    (gives : ∀ before label after action, step requests before label = some after →
      (label = .loop action ∨ ownMove action = false) →
        ends before.proxy action after.proxy → given after) :
    Draws (step requests) allowed ownStep
      (fun left state => Sound requests.kind state.proxy ∧ due left state.proxy) given := by
  rintro left before label after ⟨sound, waits⟩ permitted taken
  rcases step_as_move taken with ⟨same, foreign⟩ | ⟨action, moved, whose⟩
  · refine Or.inr ⟨left, ?_, by simp [foreign]⟩
    simp only [same]
    exact ⟨sound, waits⟩
  · have can : able before.proxy action := by
      rcases whose with rfl | ⟨foreign, _⟩
      · exact permits before action permitted
      · exact free before.proxy action foreign
    have counts : (ownStep label).toNat = (ownMove action).toNat := by
      rcases whose with rfl | ⟨foreign, other⟩
      · rfl
      · rw [foreign, other]
    rcases drawn left before.proxy action after.proxy sound can moved waits with
      ended | ⟨rest, still, nearer⟩
    · exact Or.inl (gives before label after action taken (whose.imp_right And.left) ended)
    · exact Or.inr ⟨rest, ⟨sound_kept sound moved, still⟩, by rw [counts]; exact nearer⟩

theorem completes_gives {requests : Requests} {request : Request} {before after : State}
    {label : Label} {action : Move} (taken : step requests before label = some after)
    (whose : label = .loop action ∨ ownMove action = false)
    (ends : Completes request before.proxy action) : after.completed request = true := by
  obtain ⟨rfl, resume, here⟩ := ends
  obtain rfl := whose.resolve_right (by simp [ownMove])
  cases stepped_of_step taken with
  | loopStage other stage goesOn proxy found moved =>
      rw [here, LoopPc.completing.injEq] at found
      obtain ⟨rfl, rfl, rfl⟩ := found
      simp [State.settle]
  | loop _ _ plain => simp [plainMove] at plain

/-- A request waits in `readyList`, is in the hand of the loop, or is being completed. -/
inductive ReadyDue (request : Request) (proxy : Proxy) : Nat → Prop
  | ready (member : request ∈ proxy.readyList) :
      ReadyDue request proxy (roundMoves * proxy.readyList.idxOf request +
        untilGetReady proxy.loop + 5)
  | hand (here : proxy.loop = .submit request) : ReadyDue request proxy 4
  | completing (stage : Stage) (resume : Resume)
      (here : proxy.loop = .completing request stage resume) :
      ReadyDue request proxy (3 - stagePlace stage)

/-- What becomes of a ready request: a cancel takes it back, it is completed at
once, or the kernel has its URB. -/
def Answers (request : Request) (before : Proxy) (action : Move) (after : Proxy) : Prop :=
  request ∈ after.removed ∨ Completes request before action ∨
    ∃ held ∈ after.native.pending, held.owner = request

theorem answer_to_ready {kind : Request → Kind} {before after : Proxy} {action : Move}
    (sound : Sound kind before) {request : Request}
    (honest : HonestAbout kind request before action) (moved : Moved kind before action after)
    {left : Nat} (due : ReadyDue request before left) :
    Answers request before action after ∨
      ∃ rest, ReadyDue request after rest ∧ rest + (ownMove action).toNat ≤ left := by
  have small := Bool.toNat_le (ownMove action)
  cases due with
  | ready member =>
      rcases ready_drawn moved member with (here | removed) | ⟨still, nearer⟩
      · exact Or.inr ⟨4, .hand here, by omega⟩
      · exact Or.inl (Or.inl removed)
      · exact Or.inr ⟨_, .ready still, by omega⟩
  | hand here =>
      rcases hand_drawn sound honest moved here with (still | owned) | ⟨stage, resume, there⟩
      · have foreign : ownMove action = false := by
          cases moved with
          | submit | withdraw | queue | finish => rfl
          | settleSubmit => simp at still
          | sendSubmit => simp at still
          | _ => simp_all
        exact Or.inr ⟨4, .hand still, by rw [foreign]; exact le_rfl⟩
      · exact Or.inl (Or.inr (Or.inr owned))
      · exact Or.inr ⟨_, .completing stage resume there, by omega⟩
  | completing stage resume here =>
      rcases completing_drawn moved here with ⟨ends, rfl⟩ | ⟨next, there, later⟩
      · exact Or.inl (Or.inr (Or.inl ⟨ends, resume, here⟩))
      · have bound := stage_place_le next
        exact Or.inr ⟨_, .completing next resume there, by omega⟩

/-- The loop takes one ready request in every round. Where the native submit function
reports its outcome truly, the request at this place of `readyList` is completed or given
to the kernel within so many rounds, unless a cancel takes it back. -/
theorem ready_answered (requests : Requests) {request : Request} (index : Nat)
    {before after : State} {labels : List Label}
    (reached : Reach (step requests) anyStep State.initial before)
    (here : before.proxy.readyList[index]? = some request)
    (path : Path (step requests) (HonestAboutStep requests request) before labels after)
    (long : roundMoves * (index + 1) + 7 ≤ labels.countP ownStep) :
    Meets (step requests) (HonestAboutStep requests request) ownStep
      (fun state => request ∈ state.proxy.removed ∨ state.completed request = true ∨
        ∃ held ∈ state.proxy.native.pending, held.owner = request)
      (roundMoves * (index + 1) + 7) before labels after := by
  have draws : Draws (step requests) (HonestAboutStep requests request) ownStep
      (fun left state => Sound requests.kind state.proxy ∧ ReadyDue request state.proxy left)
      (fun state => request ∈ state.proxy.removed ∨ state.completed request = true ∨
        ∃ held ∈ state.proxy.native.pending, held.owner = request) := by
    apply draws_of_moves (HonestAbout requests.kind request) (Answers request)
      (fun left proxy => ReadyDue request proxy left)
    · exact fun _ _ => id
    · exact fun proxy action foreign => honest_foreign foreign
    · exact fun _ _ _ _ sound honest moved due => answer_to_ready sound honest moved due
    · rintro state label next action taken whose (removed | ends | owned)
      · exact Or.inl removed
      · exact Or.inr (Or.inl (completes_gives taken whose ends))
      · exact Or.inr (Or.inr owned)
  have place := Nat.mul_le_mul_left roundMoves (idxOf_le_of_getElem? here)
  have round := until_get_ready_le before.proxy.loop
  apply path.meets draws ⟨sound_run reached, .ready (List.mem_of_getElem? here)⟩ _ long
  simp only [roundMoves] at place round ⊢
  omega

def idleRound : List Label := [.loop .testReady, .loop .testCancel, .loop (.reap none)]

def handedOver : List Label :=
  [.loop .testReady, .loop .getReadyRequest, .loop (.submitRequest (.urb .outOfMemory)),
    .loop .stage, .loop .stage, .loop .getCancelRequest, .loop (.reap none)] ++
    (List.replicate 5 idleRound).flatten

theorem ready_answered_first :
    ∃ before after, run (step exampleRequests) [.submit 0 2] State.initial = some before ∧
      Meets (step exampleRequests) (HonestAboutStep exampleRequests 2) ownStep
        (fun state => 2 ∈ state.proxy.removed ∨ state.completed 2 = true ∨
          ∃ held ∈ state.proxy.native.pending, held.owner = 2) 22 before handedOver after := by
  have passes (state : State) (label : Label) (passed : afterSubmit state label = true) :
      HonestAboutStep exampleRequests 2 state label :=
    (example_orderly 2 state label passed).1
  exact ⟨_, _, rfl, ready_answered exampleRequests 0 (reach_of_run [.submit 0 2] rfl) rfl
    (path_of_checked passes handedOver rfl) (by decide)⟩

/-- Where every reap is prompt the kernel hands one ended URB back in every round: the
request of the URB at this place of its queue is completed within so many rounds. -/
theorem ended_completed (requests : Requests) {held : Held} {status : Int} (index : Nat)
    {before after : State} {labels : List Label}
    (reached : Reach (step requests) anyStep State.initial before)
    (here : before.proxy.native.finished[index]? = some (held, status))
    (path : Path (step requests) PromptStep before labels after)
    (long : roundMoves * (index + 1) + 5 ≤ labels.countP ownStep) :
    Meets (step requests) PromptStep ownStep (fun state => state.completed held.owner = true)
      (roundMoves * (index + 1) + 5) before labels after := by
  have draws : Draws (step requests) PromptStep ownStep
      (fun left state => Sound requests.kind state.proxy ∧
        CompletionDue held.owner state.proxy left)
      (fun state => state.completed held.owner = true) := by
    apply draws_of_moves PromptReap (fun proxy action _ => Completes held.owner proxy action)
      (fun left proxy => CompletionDue held.owner proxy left)
    · exact fun _ _ => id
    · exact fun proxy action foreign => prompt_foreign foreign
    · exact fun _ _ _ _ sound prompt moved due => completion_drawn sound moved prompt due
    · exact fun _ _ _ _ taken whose ends => completes_gives taken whose ends
  have there : (endedOwners before.proxy.native)[index]? = some held.owner := by
    simp [endedOwners, here]
  have place := Nat.mul_le_mul_left roundMoves (idxOf_le_of_getElem? there)
  have round := moves_until_lt (show 9 < roundMoves by decide) before.proxy.loop
  apply path.meets draws ⟨sound_run reached, .ended (List.mem_of_getElem? there)⟩ _ long
  simp only [roundMoves] at place round ⊢
  omega

def promptly (state : State) : Label → Bool
  | .loop (.reap found) => decide (found = state.proxy.native.finished.head?)
  | _ => true

theorem promptly_prompt (state : State) (label : Label) (passed : promptly state label = true) :
    PromptStep state label := by
  cases label with
  | loop action =>
      cases action with
      | reap found =>
          have first : found = state.proxy.native.finished.head? := of_decide_eq_true passed
          exact first
      | _ => trivial
  | _ => trivial

def endedUrb : List Label :=
  [.submit 0 2, .loop .testReady, .loop .getReadyRequest,
    .loop (.submitRequest (.urb (.accepted 100))), .loop (.finish ⟨100, 0, 0, 2⟩ 0)]

def completedUrb : List Label :=
  [.loop .getCancelRequest, .loop (.reap (some (⟨100, 0, 0, 2⟩, 0))), .loop .completeRequest,
    .loop .stage, .loop .stage, .loop .deleteReference] ++ (List.replicate 5 idleRound).flatten

theorem ended_completed_first :
    ∃ before after, run (step exampleRequests) endedUrb State.initial = some before ∧
      Meets (step exampleRequests) PromptStep ownStep (fun state => state.completed 2 = true) 20
        before completedUrb after := by
  refine ⟨_, _, rfl, ended_completed exampleRequests 0
    (reach_of_run endedUrb rfl) rfl (path_of_checked promptly_prompt completedUrb rfl)
    (by decide)⟩

end JavaxUsbLinux.ProxyProgress
