import JavaxUsbLinux.DeviceProxy
import JavaxUsbLinux.Runs

/-!
# Every submitted request is in one place

A submitted request waits in `readyList`, is in the hand of the loop, has an
URB that is not freed yet, has had `setCompleted(true)` called on it, or was
lost by an isochronous submission that failed without saying so. `Sound` says
that these places never overlap, together with the ownership of the URBs, and
is kept by every move.
-/

namespace JavaxUsbLinux.ProxyPlaces

open JavaxUsbLinux.NativeUrb
open JavaxUsbLinux.UrbOwnership
open JavaxUsbLinux.DeviceProxy
open JavaxUsbLinux.Runs

set_option autoImplicit false

/-- The places together, each request as often as it is somewhere. -/
def places (proxy : Proxy) (request : Request) : Nat :=
  proxy.readyList.count request + proxy.loop.hand.count request +
    (proxy.owned.map Held.owner).count request + proxy.settled.count request +
    proxy.lost.count request

structure Sound (kind : Request → Kind) (proxy : Proxy) : Prop where
  urbs : Owned kind proxy.native proxy.owned proxy.loop.dangling
  once : proxy.submitted.Nodup
  placed : ∀ request, places proxy request = proxy.submitted.count request
  ordered : proxy.handed ++ proxy.readyList =
    proxy.submitted.filter fun request => decide (request ∉ proxy.removed)
  withdrawn : ∀ request ∈ proxy.removed, request ∈ proxy.settled
  stored : ∀ request, proxy.native.urbAddress request ≠ 0 → request ∈ proxy.handed

theorem initial_sound (kind : Request → Kind) : Sound kind Proxy.initial where
  urbs := initial_owned kind
  once := List.nodup_nil
  placed _ := rfl
  ordered := rfl
  withdrawn _ member := absurd member List.not_mem_nil
  stored _ nonzero := absurd rfl nonzero

namespace Sound

variable {kind : Request → Kind} {proxy : Proxy}

theorem at_most_once (sound : Sound kind proxy) (request : Request) :
    places proxy request ≤ 1 := by
  rw [sound.placed]
  exact List.nodup_iff_count_le_one.mp sound.once request

theorem settled_submitted (sound : Sound kind proxy) {request : Request}
    (settled : request ∈ proxy.settled) : request ∈ proxy.submitted := by
  have placed := sound.placed request
  unfold places at placed
  rw [← List.count_pos_iff] at settled ⊢
  omega

theorem hand_handed (sound : Sound kind proxy) {request : Request}
    (here : proxy.loop = .submit request) : request ∈ proxy.handed ∧
      (∀ held ∈ proxy.owned, held.owner ≠ request) ∧ request ∉ proxy.settled := by
  have single := sound.at_most_once request
  have placed := sound.placed request
  unfold places at single placed
  have counted : proxy.loop.hand.count request = 1 := by simp [here, LoopPc.hand]
  have notReady : request ∉ proxy.readyList := by
    rw [← List.count_eq_zero]
    omega
  have notSettled : request ∉ proxy.settled := by
    rw [← List.count_eq_zero]
    omega
  have submitted : request ∈ proxy.submitted := by
    rw [← List.count_pos_iff]
    omega
  refine ⟨?_, ?_, notSettled⟩
  · have kept : request ∈ proxy.handed ++ proxy.readyList := by
      rw [sound.ordered, List.mem_filter]
      refine ⟨submitted, decide_eq_true fun removed => ?_⟩
      exact notSettled (sound.withdrawn request removed)
    exact (List.mem_append.mp kept).resolve_right notReady
  · intro held member same
    have inOwned : request ∈ proxy.owned.map Held.owner := same ▸ List.mem_map_of_mem member
    have counted := List.count_pos_iff.mpr inOwned
    omega

/-- The loop passes requests on: between its hand and the URBs, and from there
to the settled and the lost ones. Nothing is counted twice or left out. -/
theorem pass_on (sound : Sound kind proxy) {after : Native} {pc : LoopPc}
    {settled lost : List Request} (error : Request → Option Int)
    (urbs : Owned kind after (pc.reaped ++ after.kernel) pc.dangling)
    (balance : ∀ request, pc.hand.count request +
        ((pc.reaped ++ after.kernel).map Held.owner).count request +
        settled.count request + lost.count request =
      proxy.loop.hand.count request + (proxy.owned.map Held.owner).count request +
        proxy.settled.count request + proxy.lost.count request)
    (grows : proxy.settled ⊆ settled)
    (stored : ∀ request, after.urbAddress request ≠ 0 → request ∈ proxy.handed) :
    Sound kind { proxy with
      native := after
      loop := pc
      error := error
      settled := settled
      lost := lost } := by
  refine { sound with urbs := urbs, placed := ?_, withdrawn := ?_, stored := stored }
  · intro request
    have placed := sound.placed request
    have balanced := balance request
    simp only [places, Proxy.owned] at placed balanced ⊢
    omega
  · intro request removed
    exact grows (sound.withdrawn request removed)

theorem hand_over (sound : Sound kind proxy) (after : Native) (pc : LoopPc)
    (hand : pc.hand = proxy.loop.hand) (dangling : pc.dangling = proxy.loop.dangling)
    (owned : (pc.reaped ++ after.kernel).Perm proxy.owned)
    (same : SameBlocks proxy.native after) :
    Sound kind { proxy with native := after, loop := pc } := by
  apply sound.pass_on proxy.error
  · rw [dangling]
    exact (sound.urbs.perm owned).same_blocks same
  · intro request
    rw [hand, (owned.map Held.owner).count_eq]
  · exact List.Subset.refl _
  · rw [same.urbAddress]
    exact sound.stored

theorem shift (sound : Sound kind proxy) (pc : LoopPc)
    (hand : pc.hand = proxy.loop.hand) (reaped : pc.reaped = proxy.loop.reaped)
    (dangling : pc.dangling = proxy.loop.dangling) :
    Sound kind { proxy with loop := pc } := by
  apply sound.hand_over proxy.native pc hand dangling
  · rw [reaped]
    exact List.Perm.refl _
  · constructor <;> rfl

theorem submitted_urbs (sound : Sound kind proxy) {request : Request}
    (here : proxy.loop = .submit request) {outcome : NativeOutcome} {err : Int}
    {synchronous : Bool} {native : Native}
    (done : submitNative proxy.native (kind request) request outcome =
      some (err, synchronous, native)) :
    Submitted kind proxy.native proxy.native.kernel [] request outcome err synchronous native := by
  have owner := (sound.hand_handed here).2.1
  have urbs := sound.urbs
  simp only [Proxy.owned, here, LoopPc.reaped, LoopPc.dangling, List.nil_append] at owner urbs
  exact submit_native_spec urbs owner done

theorem after_submit (sound : Sound kind proxy) {request : Request}
    (fresh : request ∉ proxy.submitted) :
    Sound kind { proxy with
      readyList := proxy.readyList ++ [request]
      submitted := proxy.submitted ++ [request] } := by
  have notRemoved : request ∉ proxy.removed :=
    fun removed => fresh (sound.settled_submitted (sound.withdrawn request removed))
  refine { sound with once := ?_, placed := ?_, ordered := ?_ }
  · rw [List.nodup_append]
    refine ⟨sound.once, List.nodup_singleton _, ?_⟩
    intro other member _ single same
    rw [same, List.mem_singleton.mp single] at member
    exact fresh member
  · intro other
    have placed := sound.placed other
    simp only [places, Proxy.owned, List.count_append] at placed ⊢
    omega
  · rw [← List.append_assoc, sound.ordered, List.filter_append]
    simp [notRemoved]

theorem after_withdraw (sound : Sound kind proxy) {request : Request}
    (ready : request ∈ proxy.readyList) :
    Sound kind { proxy.setError request (-1) with
      readyList := proxy.readyList.erase request
      removed := proxy.removed ++ [request]
      settled := proxy.settled ++ [request] } := by
  have single := sound.at_most_once request
  have counted := List.count_pos_iff.mpr ready
  refine { sound with placed := ?_, ordered := ?_, withdrawn := ?_ }
  · intro other
    have placed := sound.placed other
    simp only [places, Proxy.owned, Proxy.setError, List.count_append, List.count_cons,
      List.count_nil, List.count_erase, beq_iff_eq] at placed ⊢
    split_ifs with same
    · subst same
      omega
    · omega
  · have nodup : (proxy.handed ++ proxy.readyList).Nodup := by
      rw [sound.ordered]
      exact sound.once.filter _
    have notHanded : request ∉ proxy.handed :=
      fun handed => (List.nodup_append.mp nodup).2.2 request handed request ready rfl
    calc proxy.handed ++ proxy.readyList.erase request
        = (proxy.handed ++ proxy.readyList).erase request :=
          (List.erase_append_right _ notHanded).symm
      _ = (proxy.handed ++ proxy.readyList).filter (· != request) :=
          nodup.erase_eq_filter request
      _ = proxy.submitted.filter
            fun other => decide (other ∉ proxy.removed ++ [request]) := by
          rw [sound.ordered, List.filter_filter]
          apply List.filter_congr
          intro other _
          by_cases same : other = request <;> simp [same]
  · intro other member
    rcases List.mem_append.mp member with member | member
    · exact List.mem_append_left _ (sound.withdrawn other member)
    · exact List.mem_append_right _ member

theorem after_take (sound : Sound kind proxy) {request : Request} {rest : List Request}
    (here : proxy.loop = .getReady) (first : proxy.readyList = request :: rest) :
    Sound kind { proxy with
      readyList := rest
      loop := .submit request
      handed := proxy.handed ++ [request] } := by
  refine { sound with urbs := ?_, placed := ?_, ordered := ?_, stored := ?_ }
  · have urbs := sound.urbs
    simpa only [Proxy.owned, here, LoopPc.reaped, LoopPc.dangling] using urbs
  · intro other
    have placed := sound.placed other
    simp only [places, Proxy.owned, here, first, LoopPc.hand, LoopPc.reaped,
      List.count_cons, List.count_nil] at placed ⊢
    omega
  · rw [← sound.ordered, first, List.append_assoc]
    rfl
  · intro other nonzero
    exact List.mem_append_left _ (sound.stored other nonzero)

theorem after_settle (sound : Sound kind proxy) {request : Request} {outcome : NativeOutcome}
    {err : Int} {synchronous : Bool} {native : Native} (here : proxy.loop = .submit request)
    (done : submitNative proxy.native (kind request) request outcome =
      some (err, synchronous, native)) (settles : synchronous = true ∨ err ≠ 0) :
    Sound kind { tellError proxy request err with
      native := native
      loop := .completing request (Stage.first (kind request)) .getCancel
      settled := proxy.settled ++ [request] } := by
  cases sound.submitted_urbs here done with
  | accepted held mine chosen free silent later => simp [silent, later] at settles
  | lost isochronous silent later => simp [silent, later] at settles
  | refused told pending finished stored urbs =>
      have kernel : native.kernel = proxy.native.kernel := by
        rw [Native.kernel, pending, finished, Native.kernel]
      apply sound.pass_on
      · rw [kernel]
        exact urbs
      · intro other
        simp only [Proxy.owned, tellError, here, kernel, LoopPc.hand, LoopPc.reaped,
          List.count_append, List.count_nil]
        omega
      · exact List.subset_append_left _ _
      · rw [stored]
        exact sound.stored

theorem after_send (sound : Sound kind proxy) {request : Request} {outcome : NativeOutcome}
    {native : Native} (here : proxy.loop = .submit request)
    (done : submitNative proxy.native (kind request) request outcome =
      some (0, false, native)) :
    Sound kind { proxy with
      native := native
      loop := .getCancel
      lost := if NativeOutcome.accepts outcome then proxy.lost
        else proxy.lost ++ [request] } := by
  cases sound.submitted_urbs here done with
  | refused told => simp at told
  | accepted held mine chosen free silent later pending finished stored urbs =>
      have kernel : native.kernel.Perm (held :: proxy.native.kernel) := by
        rw [Native.kernel, pending, finished, List.append_assoc]
        exact List.perm_middle
      have accepts := accepts_iff.mpr ⟨held.address, chosen⟩
      rw [if_pos accepts]
      apply sound.pass_on
      · exact urbs.perm kernel
      · intro other
        have count := (kernel.map Held.owner).count_eq other
        simp only [Proxy.owned, here, LoopPc.hand, LoopPc.reaped, List.nil_append, List.map_cons,
          List.count_cons, List.count_nil, mine] at count ⊢
        omega
      · exact List.Subset.refl _
      · intro other nonzero
        by_cases same : other = request
        · rw [same]
          exact (sound.hand_handed here).1
        · apply sound.stored other
          simpa [stored, same] using nonzero
  | lost isochronous silent later rejected pending finished stored urbs =>
      have kernel : native.kernel = proxy.native.kernel := by
        rw [Native.kernel, pending, finished, Native.kernel]
      have unsaid : ¬ NativeOutcome.accepts outcome = true := by
        intro accepts
        obtain ⟨address, chosen⟩ := accepts_iff.mp accepts
        exact rejected address chosen
      rw [if_neg unsaid]
      apply sound.pass_on
      · rw [kernel]
        exact urbs
      · intro other
        simp only [Proxy.owned, here, kernel, LoopPc.hand, LoopPc.reaped, List.count_append,
          List.count_nil]
        omega
      · exact List.Subset.refl _
      · rw [stored]
        exact sound.stored

theorem reaped_block (sound : Sound kind proxy) {held : Held} {status : Int}
    (here : proxy.loop = .complete held status) :
    (proxy.native.heap held.address).bind Urb.usercontext = some held.handle ∧
      proxy.native.references held.handle = some held.owner := by
  have owned : held ∈ proxy.owned := by simp [Proxy.owned, here, LoopPc.reaped]
  refine ⟨?_, sound.urbs.reference held owned⟩
  rw [(sound.urbs.block held owned).2]
  rfl

theorem after_complete (sound : Sound kind proxy) {held : Held} {status : Int}
    (here : proxy.loop = .complete held status) :
    Sound kind
      { tellError proxy held.owner
          (completeNative proxy.native (kind held.owner) held.owner status).1 with
        native := (completeNative proxy.native (kind held.owner) held.owner status).2
        loop := .completing held.owner (Stage.first (kind held.owner))
          (.deleteReference held.handle)
        settled := proxy.settled ++ [held.owner] } := by
  have urbs := sound.urbs
  simp only [Proxy.owned, here, LoopPc.reaped, LoopPc.dangling] at urbs
  have kernel : (proxy.native.free held.address).kernel = proxy.native.kernel := by
    simp [Native.kernel]
  simp only [urbs.complete_eq List.mem_cons_self]
  apply sound.pass_on
  · rw [kernel]
    exact urbs.complete
  · intro other
    simp only [Proxy.owned, tellError, here, kernel, LoopPc.hand, LoopPc.reaped, List.nil_append,
      List.cons_append, List.map_cons, List.count_cons, List.count_append, List.count_nil]
    omega
  · exact List.subset_append_left _ _
  · intro other nonzero
    exact sound.stored other (by simpa using nonzero)

theorem after_delete (sound : Sound kind proxy) {handle : Handle}
    (here : proxy.loop = .deleteReference handle) :
    Sound kind { proxy with
      native := proxy.native.deleteGlobalRef handle
      loop := .testReady } := by
  have urbs := sound.urbs
  simp only [Proxy.owned, here, LoopPc.reaped, LoopPc.dangling] at urbs
  have kernel : (proxy.native.deleteGlobalRef handle).kernel = proxy.native.kernel := by
    simp [Native.kernel]
  apply sound.pass_on
  · rw [kernel]
    exact urbs.deleteGlobalRef
  · intro other
    simp only [Proxy.owned, here, kernel, LoopPc.hand, LoopPc.reaped]
  · exact List.Subset.refl _
  · simpa using sound.stored

end Sound

/-- Every move keeps the requests in their places. -/
theorem sound_kept {kind : Request → Kind} {before after : Proxy} {action : Move}
    (sound : Sound kind before) (moved : Moved kind before action after) : Sound kind after := by
  cases moved with
  | submit request fresh => exact sound.after_submit fresh
  | withdraw request ready => exact sound.after_withdraw ready
  | queue request => exact { sound with }
  | testReady here | testCancel here =>
      apply sound.shift <;> rw [here] <;> split_ifs <;> rfl
  | noReady here | noCancel here | reapNothing here =>
      apply sound.shift <;> rw [here] <;> rfl
  | takeReady request rest here first => exact sound.after_take here first
  | settleSubmit request outcome err synchronous native here done settles =>
      exact sound.after_settle here done settles
  | sendSubmit request outcome native here done => exact sound.after_send here done
  | nextStage request stage next resume here more =>
      apply sound.shift <;> rw [here]
      · rfl
      · rfl
      · rw [completing_dangling, completing_dangling]
  | lastStage request stage resume here last =>
      apply sound.shift <;> rw [here]
      · exact resume_hand resume
      · exact resume_reaped resume
      · exact (completing_dangling request stage resume).symm
  | takeCancel request rest here first =>
      have shifted := sound.shift (.cancel request) (by rw [here]; rfl) (by rw [here]; rfl)
        (by rw [here]; rfl)
      exact { shifted with }
  | cancelRequest request status here =>
      apply sound.hand_over
      · rw [here]
        rfl
      · rw [here]
        rfl
      · have kernel := cancel_kernel before.native (kind request) request status
        simpa only [Proxy.owned, here, LoopPc.reaped, List.nil_append] using kernel
      · exact cancel_same_blocks before.native (kind request) request status
  | reap held status here finished =>
      apply sound.hand_over
      · rw [here]
        rfl
      · rw [here]
        rfl
      · simp only [Proxy.owned, here, LoopPc.reaped]
        exact reap_kernel before.native held status finished
      · exact reap_same_blocks before.native held status
  | badUsercontext held status here missing =>
      -- the block of a reaped URB is there until the loop frees it
      rw [(sound.reaped_block here).1] at missing
      contradiction
  | badReference held status handle here found missing =>
      rw [(sound.reaped_block here).1, Option.some.injEq] at found
      rw [← found, (sound.reaped_block here).2] at missing
      contradiction
  | completeRequest held status handle request here found referred =>
      rw [(sound.reaped_block here).1, Option.some.injEq] at found
      rw [← found, (sound.reaped_block here).2, Option.some.injEq] at referred
      subst found referred
      exact sound.after_complete here
  | deleteReference handle here => exact sound.after_delete here
  | finish held status pending =>
      exact sound.hand_over (before.native.finishUrb held status) before.loop rfl rfl
        ((finish_kernel before.native held status pending).append_left _)
        (finish_same_blocks before.native held status)

theorem sound_of_reach {kind : Request → Kind} {allowed : Proxy → Move → Prop} {proxy : Proxy}
    (reached : Reach (move kind) allowed Proxy.initial proxy) : Sound kind proxy := by
  apply reached.invariant (Sound kind) (initial_sound kind)
  intro before action after sound _ moved
  exact sound_kept sound (moved_of_move moved)

theorem submitted_kept {kind : Request → Kind} {before after : Proxy} {action : Move}
    (moved : Moved kind before action after) {request : Request}
    (submitted : request ∈ before.submitted) : request ∈ after.submitted := by
  cases moved with
  | submit => exact List.mem_append_left _ submitted
  | _ => exact submitted

/-- The only move that takes up a new URB is an accepted submission. -/
theorem owned_after {kind : Request → Kind} {before after : Proxy} {action : Move}
    (sound : Sound kind before) (moved : Moved kind before action after) :
    ((∀ held ∈ after.owned, held ∈ before.owned) ∧
      after.native.urbAddress = before.native.urbAddress) ∨
    ∃ held, action = .submitRequest (.urb (.accepted held.address)) ∧
      before.loop = .submit held.owner ∧ (∀ other ∈ before.owned, other.address ≠ held.address) ∧
      (∀ other ∈ after.owned, other = held ∨ other ∈ before.owned) ∧
      after.native.urbAddress =
        Function.update before.native.urbAddress held.owner held.address := by
  have kernelOnly (reaped : after.loop.reaped = [])
      (fewer : ∀ held ∈ after.native.kernel, held ∈ before.native.kernel)
      (held : Held) (member : held ∈ after.owned) : held ∈ before.owned := by
    rw [Proxy.owned, reaped] at member
    exact List.mem_append_right _ (fewer held member)
  cases moved with
  | submit | withdraw | queue => exact Or.inl ⟨fun _ => id, rfl⟩
  | testReady here | testCancel here =>
      exact Or.inl ⟨kernelOnly (by simp only; split_ifs <;> rfl) (fun _ => id), rfl⟩
  | noReady | takeReady | noCancel | takeCancel | reapNothing | nextStage | badUsercontext
  | badReference => exact Or.inl ⟨kernelOnly rfl (fun _ => id), rfl⟩
  | lastStage request stage resume here last =>
      exact Or.inl ⟨kernelOnly (resume_reaped resume) (fun _ => id), rfl⟩
  | settleSubmit request outcome err synchronous native here done settles =>
      cases sound.submitted_urbs here done with
      | accepted held mine chosen free silent later => simp [silent, later] at settles
      | lost isochronous silent later => simp [silent, later] at settles
      | refused told pending finished stored =>
          exact Or.inl ⟨kernelOnly rfl (by simp [Native.kernel, pending, finished]), stored⟩
  | sendSubmit request outcome native here done =>
      cases sound.submitted_urbs here done with
      | refused told => simp at told
      | lost isochronous silent later rejected pending finished stored =>
          exact Or.inl ⟨kernelOnly rfl (by simp [Native.kernel, pending, finished]), stored⟩
      | accepted held mine chosen free silent later pending finished stored =>
          subst mine
          refine Or.inr ⟨held, by rw [chosen], here, ?_, ?_, stored⟩
          · intro other member
            exact sound.urbs.elsewhere free other member
          · intro other member
            simp only [Proxy.owned, here, LoopPc.reaped, Native.kernel, pending, finished,
              List.nil_append, List.mem_append, List.mem_singleton] at member ⊢
            tauto
  | cancelRequest request status here =>
      have same := cancel_same_blocks before.native (kind request) request status
      have kernel := cancel_kernel before.native (kind request) request status
      exact Or.inl ⟨kernelOnly rfl (fun _ => kernel.mem_iff.mp), same.urbAddress⟩
  | reap held status here finished =>
      have kernel := reap_kernel before.native held status finished
      refine Or.inl ⟨?_, rfl⟩
      intro other member
      exact List.mem_append_right _ (kernel.mem_iff.mp member)
  | completeRequest held status handle request here found referred =>
      have keeps := complete_keeps before.native (kind request) request status
      refine Or.inl ⟨kernelOnly rfl ?_, keeps.2⟩
      rw [keeps.1]
      exact fun _ => id
  | deleteReference handle here =>
      refine Or.inl ⟨kernelOnly rfl ?_, Native.delete_urb_address _ _⟩
      simp [Native.kernel]
  | finish held status pending =>
      have kernel := finish_kernel before.native held status pending
      refine Or.inl ⟨?_, rfl⟩
      intro other member
      exact (kernel.append_left before.loop.reaped).mem_iff.mp member

/-- The native submit function tells the truth in this move. -/
def HonestMove (kind : Request → Kind) (proxy : Proxy) : Move → Prop
  | .submitRequest outcome => ∀ request, proxy.loop = .submit request →
      Truthful proxy.native (kind request) request outcome
  | _ => True

/-- The same for the submission of one request only. -/
def HonestAbout (kind : Request → Kind) (request : Request) (proxy : Proxy) : Move → Prop
  | .submitRequest outcome => proxy.loop = .submit request →
      Truthful proxy.native (kind request) request outcome
  | _ => True

theorem not_lost_kept {kind : Request → Kind} {request : Request} {before after : Proxy}
    {action : Move} (sound : Sound kind before) (notLost : request ∉ before.lost)
    (honest : HonestAbout kind request before action) (moved : Moved kind before action after) :
    request ∉ after.lost := by
  cases moved with
  | sendSubmit other outcome native here done =>
      by_cases same : other = request
      · subst same
        have accepts : NativeOutcome.accepts outcome = true := by
          cases sound.submitted_urbs here done with
          | accepted held mine chosen => exact accepts_iff.mpr ⟨held.address, chosen⟩
          | refused told => simp at told
          | lost isochronous silent later rejected =>
              have isAsynchronous : (kind other).asynchronous = true := by rw [isochronous]; rfl
              obtain ⟨address, chosen⟩ := (honest here 0 false native done isAsynchronous).mp rfl
              exact absurd chosen (rejected address)
        simpa [accepts] using notLost
      · have different : request ≠ other := fun equal => same equal.symm
        simp only
        split_ifs
        · exact notLost
        · simp [notLost, different]
  | _ => exact notLost

theorem honest_about {kind : Request → Kind} {proxy : Proxy} {action : Move}
    (honest : HonestMove kind proxy action) (request : Request) :
    HonestAbout kind request proxy action := by
  cases action with
  | submitRequest => exact honest request
  | _ => trivial

/-- A request is not lost if its native submit function tells the truth. -/
theorem not_lost {kind : Request → Kind} {request : Request} {proxy : Proxy}
    (reached : Reach (move kind) (HonestAbout kind request) Proxy.initial proxy) :
    request ∉ proxy.lost := by
  apply reached.invariant_with (Sound kind) (fun proxy => request ∉ proxy.lost)
    (fun _ reached => sound_of_reach reached) List.not_mem_nil
  intro before action after sound notLost honest moved
  exact not_lost_kept sound notLost honest (moved_of_move moved)

theorem none_lost {kind : Request → Kind} {proxy : Proxy}
    (reached : Reach (move kind) (HonestMove kind) Proxy.initial proxy) : proxy.lost = [] := by
  apply List.eq_nil_iff_forall_not_mem.mpr
  intro request
  exact not_lost (reached.weaken fun _ _ honest => honest_about honest request)

end JavaxUsbLinux.ProxyPlaces
