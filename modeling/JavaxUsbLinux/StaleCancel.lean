import JavaxUsbLinux.CancelQueue

/-!
# Cancels and the reuse of addresses

The address of an URB stays in its request after the completion has freed the
URB. A cancel that is served later passes that address to `DISCARDURB`, and
another request may own an URB there by then. The module shows that this is the
only way in which a cancel goes wrong: while `malloc` does not return an address
that is stored in a request with a cancel under way, each cancel discards the
URB of its own request or none.
-/

namespace JavaxUsbLinux.StaleCancel

open JavaxUsbLinux.NativeUrb
open JavaxUsbLinux.UrbOwnership
open JavaxUsbLinux.DeviceProxy
open JavaxUsbLinux.ProxyPlaces
open JavaxUsbLinux.PipeSystem
open JavaxUsbLinux.ProxyRequests
open JavaxUsbLinux.CancelQueue
open JavaxUsbLinux.Runs

set_option autoImplicit false

def toCancel : ClientPc → List Request
  | .cancelling _ todo | .completing _ todo _ _ => todo
  | .queueing _ todo request => request :: todo
  | .idle | .recording _ | .aborting _ _ | .waiting _ _ _ => []

/-- A cancel of the request has begun and has not been served. -/
def Outstanding (proxy : Proxy) (client : Thread → ClientPc) (request : Request) : Prop :=
  request ∈ proxy.cancelList ∨ proxy.loop = .cancel request ∨
    ∃ thread, request ∈ toCancel (client thread)

/-- No other request owns an URB at the address that is stored in this one. -/
def OwnAddress (proxy : Proxy) (request : Request) : Prop :=
  ∀ held ∈ proxy.owned, held.address = proxy.native.urbAddress request → held.owner = request

/-- An accepted URB is not at an address that is stored in another request with
a cancel under way, and a cancel does not begin with such an address. -/
def FreshAddress (state : State) : Label → Prop
  | .cancel _ request => OwnAddress state.proxy request
  | .snapshot thread => ∀ pipe owed, state.client thread = .aborting pipe owed →
      ∀ request ∈ state.inProgress pipe, OwnAddress state.proxy request
  | .loop (.submitRequest (.urb (.accepted address))) =>
      ∀ request, Outstanding state.proxy state.client request →
        state.proxy.loop ≠ .submit request → state.proxy.native.urbAddress request ≠ address
  | _ => True

theorem own_address_kept {kind : Request → Kind} {before after : Proxy} {action : Move}
    (sound : Sound kind before) (moved : Moved kind before action after) {request : Request}
    (own : OwnAddress before request)
    (fresh : ∀ address, action = .submitRequest (.urb (.accepted address)) →
      before.loop ≠ .submit request → before.native.urbAddress request ≠ address) :
    OwnAddress after request := by
  intro other member same
  rcases owned_after sound moved with ⟨fewer, stored⟩ | ⟨held, chosen, here, apart, more, stored⟩
  · apply own other (fewer other member)
    rw [same, stored]
  · rw [stored] at same
    by_cases mine : request = held.owner
    · rw [mine, Function.update_self] at same
      rcases more other member with new | old
      · rw [new, mine]
      · exact absurd same (apart other old)
    · rw [Function.update_of_ne mine] at same
      rcases more other member with new | old
      · have notHere : before.loop ≠ .submit request := by
          rw [here]
          intro equal
          injection equal with equal
          exact mine equal.symm
        exact absurd (new ▸ same.symm) (fresh held.address chosen notHere)
      · exact own other old same

/-! ### Where a cancel comes from -/

theorem outstanding_client {before after : Proxy} {client : Thread → ClientPc} {thread : Thread}
    {pc : ClientPc} {request : Request}
    (outstanding : Outstanding after (Function.update client thread pc) request)
    (fewer : request ∈ toCancel pc → request ∈ toCancel (client thread))
    (cancelList : after.cancelList = before.cancelList) (loop : after.loop = before.loop) :
    Outstanding before client request := by
  unfold Outstanding at outstanding ⊢
  rw [cancelList, loop] at outstanding
  refine outstanding.imp_right (Or.imp_right ?_)
  rintro ⟨other, member⟩
  by_cases same : other = thread
  · rw [same, Function.update_self] at member
    exact ⟨thread, fewer member⟩
  · rw [Function.update_of_ne same] at member
    exact ⟨other, member⟩

theorem outstanding_move {kind : Request → Kind} {before after : Proxy} {action : Move}
    {client : Thread → ClientPc} {request : Request} (moved : Moved kind before action after)
    (notQueue : ∀ other, action ≠ .queue other) (outstanding : Outstanding after client request) :
    Outstanding before client request := by
  rcases outstanding with queued | serving | found
  · left
    cases moved with
    | queue other => exact absurd rfl (notQueue other)
    | takeCancel other rest here first =>
        rw [first]
        exact List.mem_cons_of_mem other queued
    | _ => exact queued
  · cases moved with
    | takeCancel other rest here first =>
        injection serving with same
        left
        rw [first, same]
        exact List.mem_cons_self
    | submit | withdraw | queue | finish => exact Or.inr (Or.inl serving)
    | testReady | testCancel =>
        simp only at serving
        split_ifs at serving
    | lastStage other stage resume here last => cases resume <;> simp [Resume.pc] at serving
    | _ => simp at serving
  · exact Or.inr (Or.inr found)

theorem outstanding_of_step {requests : Requests} {before after : State} {label : Label}
    (taken : step requests before label = some after) {request : Request}
    (outstanding : Outstanding after.proxy after.client request) :
    Outstanding before.proxy before.client request ∨
      (∃ thread, label = .cancel thread request) ∨
      ∃ thread pipe owed, label = .snapshot thread ∧
        before.client thread = .aborting pipe owed ∧ request ∈ before.inProgress pipe := by
  cases stepped_of_step taken with
  | submit thread other proxy idle unlocked moved =>
      exact Or.inl (outstanding_move (moved_of_move moved) (by simp) outstanding)
  | asyncSubmit thread other proxy idle unlocked onPipe moved =>
      cases moved_of_move moved
      exact Or.inl (outstanding_client outstanding (by simp [toCancel]) rfl rfl)
  | record | abort | cancelReturn | allCancelled | awaited | abortReturn =>
      exact Or.inl (outstanding_client outstanding (by simp [toCancel]) rfl rfl)
  | cancel thread other idle =>
      by_cases same : request = other
      · exact Or.inr (Or.inl ⟨thread, by rw [same]⟩)
      · exact Or.inl (outstanding_client outstanding (by simp [toCancel, same]) rfl rfl)
  | snapshot thread pipe owed here =>
      by_cases member : request ∈ before.inProgress pipe
      · exact Or.inr (Or.inr ⟨thread, pipe, owed, rfl, here, member⟩)
      · exact Or.inl (outstanding_client outstanding (by simp [toCancel, member]) rfl rfl)
  | cancelReady thread call other todo proxy here unlocked ready moved =>
      have fewer : request ∈ todo → request ∈ toCancel (before.client thread) := by
        rw [here]
        exact List.mem_cons_of_mem other
      cases moved_of_move moved
      exact Or.inl (outstanding_client outstanding fewer rfl rfl)
  | cancelMissed thread call other todo here unlocked missed =>
      exact Or.inl (outstanding_client outstanding (by rw [here]; exact id) rfl rfl)
  | nextCancelStage thread call todo other stage next here more =>
      have same := settle_client requests before other stage
      simp only [State.setClient, settle_proxy, same] at outstanding
      exact Or.inl (outstanding_client outstanding (by rw [here]; exact id) rfl rfl)
  | lastCancelStage thread call todo other stage here last =>
      have same := settle_client requests before other stage
      simp only [State.setClient, settle_proxy, same] at outstanding
      exact Or.inl (outstanding_client outstanding (by rw [here]; exact id) rfl rfl)
  | cancelQueue thread call todo other proxy here moved =>
      left
      have mine : ∀ one ∈ toCancel (.queueing call todo other),
          Outstanding before.proxy before.client one := by
        intro one member
        rw [← here] at member
        exact Or.inr (Or.inr ⟨thread, member⟩)
      cases moved_of_move moved
      rcases outstanding with queued | serving | found
      · rcases List.mem_append.mp queued with old | new
        · exact Or.inl old
        · rw [List.mem_singleton.mp new]
          exact mine other List.mem_cons_self
      · exact Or.inr (Or.inl serving)
      · refine outstanding_client (Or.inr (Or.inr found)) ?_ rfl rfl
        rw [here]
        exact List.mem_cons_of_mem other
  | loopStage other stage resume proxy here moved =>
      simp only [settle_client] at outstanding
      exact Or.inl (outstanding_move (moved_of_move moved) (by simp) outstanding)
  | loop action proxy plain moved =>
      left
      apply outstanding_move (moved_of_move moved) _ outstanding
      rintro other rfl
      simp [plainMove] at plain

/-! ### While addresses are fresh -/

def CancelsOwn (state : State) : Prop :=
  ∀ request, Outstanding state.proxy state.client request → OwnAddress state.proxy request

theorem cancels_own_kept {requests : Requests} {before after : State} {label : Label}
    (sound : Sound requests.kind before.proxy) (cancels : CancelsOwn before)
    (fresh : FreshAddress before label) (taken : step requests before label = some after) :
    CancelsOwn after := by
  intro request outstanding
  have own : OwnAddress before.proxy request := by
    rcases outstanding_of_step taken outstanding with old | ⟨thread, rfl⟩ |
      ⟨thread, pipe, owed, rfl, here, member⟩
    · exact cancels request old
    · exact fresh
    · exact fresh pipe owed here request member
  rcases step_moves taken with same | ⟨action, fromLoop | other, moved⟩
  · rw [same]
    exact own
  · apply own_address_kept sound (moved_of_move moved) own
    rintro address rfl notHere
    subst fromLoop
    have old : Outstanding before.proxy before.client request := by
      rcases outstanding_of_step taken outstanding with old | ⟨_, same⟩ | ⟨_, _, _, same, _⟩
      · exact old
      · cases same
      · cases same
    exact fresh request old notHere
  · apply own_address_kept sound (moved_of_move moved) own
    rintro address rfl
    cases other

theorem cancels_own_of_reach {requests : Requests} {state : State}
    (reached : Reach (step requests) FreshAddress State.initial state) : CancelsOwn state := by
  apply reached.invariant_with (fun state => Sound requests.kind state.proxy) CancelsOwn
    (fun _ reached => sound_run reached)
  · intro request outstanding held member
    simp [State.initial, Proxy.initial, Proxy.owned, LoopPc.reaped, Native.initial,
      Native.kernel] at member
  · intro before label after sound cancels fresh taken
    exact cancels_own_kept sound cancels fresh taken

theorem cancel_logs (native : Native) (kind : Kind) (request : Request) (status : Int) :
    (cancelNative native kind request status).discarded = native.discarded ∨
      (cancelNative native kind request status).discarded =
        native.discarded ++ [(request, native.urbAddress request)] := by
  by_cases zero : native.urbAddress request = 0
  · left
    cases kind <;> simp [cancelNative, cancelUrb, zero]
  · by_cases isAsynchronous : kind.asynchronous = true
    · exact Or.inr (cancel_discards isAsynchronous rfl zero status)
    · left
      cases kind <;> first | rfl | exact absurd rfl isAsynchronous

/-- In a run in which addresses are fresh, an URB in flight at an address that a
cancel passes to `DISCARDURB` belongs to the cancelled request. -/
theorem cancel_hits_own_urb (requests : Requests) {state after : State}
    (reached : Reach (step requests) FreshAddress State.initial state) (status : Int)
    (taken : step requests state (.loop (.cancelRequest status)) = some after)
    {request : Request} {address : Address}
    (discarded : after.proxy.native.discarded =
      state.proxy.native.discarded ++ [(request, address)]) :
    ∀ held ∈ state.proxy.native.pending, held.address = address → held.owner = request := by
  have cancels := cancels_own_of_reach reached
  intro held pending same
  have owned : held ∈ state.proxy.owned :=
    List.mem_append_right _ (List.mem_append_left _ pending)
  cases stepped_of_step taken with
  | loop _ proxy plain moved =>
      cases moved_of_move moved with
      | cancelRequest other _ here =>
          rcases cancel_logs state.proxy.native (requests.kind other) other status with
            silent | logged
          · simp [silent] at discarded
          · rw [logged] at discarded
            have entry := List.singleton_injective (List.append_cancel_left discarded)
            obtain ⟨rfl, rfl⟩ := Prod.mk.inj entry
            exact cancels other (Or.inr (Or.inl here)) held owned same

/-- A test that lets no URB be accepted. -/
def addressTest (state : State) : Label → Bool
  | .cancel _ request => state.proxy.owned.all fun held =>
      held.address != state.proxy.native.urbAddress request || held.owner == request
  | .snapshot _ | .loop (.submitRequest _) => false
  | _ => true

theorem fresh_of_test (state : State) (label : Label) (passed : addressTest state label = true) :
    FreshAddress state label := by
  cases label with
  | cancel thread request =>
      intro held member same
      have own := List.all_eq_true.mp passed held member
      simpa [same] using own
  | snapshot => cases passed
  | loop action =>
      cases action with
      | submitRequest => cases passed
      | _ => trivial
  | _ => trivial

def toFirstUrb : List Label := [.submit 0 5, .loop .testReady, .loop .getReadyRequest]

def toCancelOfFirst : List Label :=
  [.cancel 1 5, .cancelNext 1, .cancelQueue 1, .loop .getCancelRequest]

theorem cancel_hits_own_urb_first : ∃ state after,
    step exampleRequests state (.loop (.cancelRequest (-2))) = some after ∧
      (⟨100, 0, 0, 5⟩ : Held) ∈ state.proxy.native.pending ∧
      ∀ held ∈ state.proxy.native.pending, held.address = 100 → held.owner = 5 := by
  have start : (run (checked (step exampleRequests) addressTest) toFirstUrb State.initial).map
      (fun state => (state.client, state.proxy.cancelList, state.proxy.loop)) =
        some (fun _ => .idle, [], .submit 5) := rfl
  have ends : ((run (checked (step exampleRequests) addressTest) toFirstUrb State.initial).bind
      fun first => (step exampleRequests first (.loop (.submitRequest (.urb (.accepted 100))))).bind
      fun second => (run (checked (step exampleRequests) addressTest) toCancelOfFirst second).bind
      fun state => (step exampleRequests state (.loop (.cancelRequest (-2)))).map
      fun after => (state.proxy.native.pending, state.proxy.native.discarded,
        after.proxy.native.discarded)) = some ([⟨100, 0, 0, 5⟩], [], [(5, 100)]) := rfl
  obtain ⟨first, ranFirst, ends⟩ := Option.bind_eq_some_iff.mp ends
  obtain ⟨second, accepted, ends⟩ := Option.bind_eq_some_iff.mp ends
  obtain ⟨state, ran, ends⟩ := Option.bind_eq_some_iff.mp ends
  obtain ⟨after, taken, ends⟩ := Option.map_eq_some_iff.mp ends
  have nobody : ∀ request, ¬ Outstanding first.proxy first.client request := by
    simp only [ranFirst, Option.map_some, Option.some.injEq, Prod.mk.injEq] at start
    simp [Outstanding, start, toCancel]
  have permitted : FreshAddress first (.loop (.submitRequest (.urb (.accepted 100)))) :=
    fun request outstanding => absurd outstanding (nobody request)
  have reached := reach_of_checked fresh_of_test toFirstUrb .start ranFirst
  have later := reach_of_checked fresh_of_test toCancelOfFirst (reached.next permitted accepted) ran
  simp only [Prod.mk.injEq] at ends
  refine ⟨state, after, taken, by simp [ends.1], ?_⟩
  apply cancel_hits_own_urb exampleRequests later (-2) taken
  rw [ends.2.1, ends.2.2]
  rfl

/-- The abort has taken the request 5 when it completes and its address is
given to the URB of the request 6. -/
def addressOfCompleted : List Label :=
  [.asyncSubmit 0 5, .record 0, .loop .testReady, .loop .getReadyRequest,
    .loop (.submitRequest (.urb (.accepted 100))), .loop .getCancelRequest, .abort 1 0,
    .snapshot 1, .loop (.finish ⟨100, 0, 0, 5⟩ 0), .loop (.reap (some (⟨100, 0, 0, 5⟩, 0))),
    .loop .completeRequest, .loop .stage, .loop .stage, .loop .stage, .loop .deleteReference,
    .asyncSubmit 0 6, .record 0, .loop .testReady, .cancelNext 1, .cancelQueue 1,
    .loop .getReadyRequest, .loop (.submitRequest (.urb (.accepted 100))),
    .loop .getCancelRequest]

theorem cancel_hits_another : ∃ state after,
    Reach (step exampleRequests) anyStep State.initial state ∧
      step exampleRequests state (.loop (.cancelRequest (-2))) = some after ∧
      after.proxy.native.discarded = state.proxy.native.discarded ++ [(5, 100)] ∧
      (⟨100, 1, 1, 6⟩ : Held) ∈ state.proxy.native.pending ∧
      ((⟨100, 1, 1, 6⟩ : Held), (-2 : Int)) ∈ after.proxy.native.finished := by
  have ends : ((run (step exampleRequests) addressOfCompleted State.initial).bind
      fun state => (step exampleRequests state (.loop (.cancelRequest (-2)))).map
      fun after => (state.proxy.native.pending, state.proxy.native.discarded,
        after.proxy.native.discarded, after.proxy.native.finished)) =
          some ([⟨100, 1, 1, 6⟩], [], [(5, 100)], [(⟨100, 1, 1, 6⟩, -2)]) := rfl
  obtain ⟨state, ran, ends⟩ := Option.bind_eq_some_iff.mp ends
  obtain ⟨after, taken, ends⟩ := Option.map_eq_some_iff.mp ends
  simp only [Prod.mk.injEq] at ends
  obtain ⟨pending, before, discarded, finished⟩ := ends
  refine ⟨state, after, reach_of_run addressOfCompleted ran, taken, ?_, ?_, ?_⟩
  · rw [discarded, before]
    rfl
  · rw [pending]
    exact List.mem_cons_self
  · rw [finished]
    exact List.mem_cons_self

end JavaxUsbLinux.StaleCancel
