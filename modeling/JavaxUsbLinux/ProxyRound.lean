import JavaxUsbLinux.BoundedResponse
import JavaxUsbLinux.ProxyPlaces

/-!
# The round of the loop

A round of the loop takes one ready request, one cancel and one ended URB. So
whatever waits in one of these three queues comes nearer with every move of the
loop itself, and the moves of the clients and of the kernel do not set it back.
-/

namespace JavaxUsbLinux.ProxyRound

open JavaxUsbLinux.NativeUrb
open JavaxUsbLinux.UrbOwnership
open JavaxUsbLinux.DeviceProxy
open JavaxUsbLinux.ProxyPlaces
open JavaxUsbLinux.BoundedResponse

set_option autoImplicit false

/-! ### One round of the loop -/

def stagePlace : Stage → Nat
  | .unlist => 0
  | .complete => 1
  | .flag => 2

/-- The place of a position in the round, which begins at `testReady`. -/
def roundPlace : LoopPc → Nat
  | .testReady => 0
  | .testCancel => 1
  | .getReady => 2
  | .submit _ => 3
  | .completing _ stage .getCancel => 4 + stagePlace stage
  | .getCancel => 7
  | .cancel _ => 8
  | .reap => 9
  | .complete _ _ => 10
  | .completing _ stage (.deleteReference _) => 11 + stagePlace stage
  | .deleteReference _ => 14

def roundMoves : Nat := 15

def ownMove : Move → Bool
  | .submit _ | .withdraw _ | .queue _ | .finish _ _ => false
  | _ => true

/-- How far it is at most to a place of the round that is not left out. -/
def movesUntil (target : Nat) (pc : LoopPc) : Nat :=
  if roundPlace pc ≤ target then target - roundPlace pc
  else roundMoves - roundPlace pc + target

theorem stage_place_le (stage : Stage) : stagePlace stage ≤ 2 := by
  cases stage <;> decide

theorem round_place_lt (pc : LoopPc) : roundPlace pc < roundMoves := by
  cases pc with
  | completing request stage resume =>
      have bound := stage_place_le stage
      cases resume <;> simp only [roundPlace, roundMoves] <;> omega
  | _ => simp [roundPlace, roundMoves]

theorem place_own {pc : LoopPc} :
    (roundPlace pc = 7 → pc = .getCancel) ∧ (roundPlace pc = 9 → pc = .reap) := by
  cases pc with
  | getCancel | reap => simp [roundPlace]
  | completing request stage resume =>
      have bound := stage_place_le stage
      cases resume <;> simp only [roundPlace] <;> omega
  | _ => simp [roundPlace]

theorem moves_until_lt {target : Nat} (inside : target < roundMoves) (pc : LoopPc) :
    movesUntil target pc < roundMoves := by
  have bound := round_place_lt pc
  unfold movesUntil
  split_ifs <;> omega

/-- The loop goes on in the round without leaving the target out, or from a
place after the target to a new round. -/
theorem moves_until_falls {target : Nat} {pc next : LoopPc}
    (onward : roundPlace pc < roundPlace next ∨ next = .testReady ∧ target < roundPlace pc)
    (elsewhere : roundPlace pc ≠ target)
    (stops : roundPlace pc < target → roundPlace next ≤ target) :
    movesUntil target next + 1 ≤ movesUntil target pc := by
  have bound := round_place_lt pc
  have nextBound := round_place_lt next
  unfold movesUntil
  rcases onward with later | ⟨rfl, beyond⟩
  · split_ifs <;> omega
  · have start : roundPlace .testReady = 0 := rfl
    rw [start, if_pos (Nat.zero_le _), if_neg (by omega)]
    omega

theorem foreign_stays {kind : Request → Kind} {before after : Proxy} {action : Move}
    (moved : Moved kind before action after) (foreign : ownMove action = false) :
    after.loop = before.loop := by
  cases moved with
  | submit | withdraw | queue | finish => rfl
  | _ => simp [ownMove] at foreign

/-- Where a move of the loop leads: onward in the round, or to the next round
once the loop has come to `reap`. -/
theorem round_goes_on {kind : Request → Kind} {before after : Proxy} {action : Move}
    (moved : Moved kind before action after) (own : ownMove action = true) :
    roundPlace before.loop < roundPlace after.loop ∨
      after.loop = .testReady ∧ 9 ≤ roundPlace before.loop := by
  cases moved with
  | submit | withdraw | queue | finish => simp [ownMove] at own
  | testReady here | testCancel here =>
      left
      simp only [here]
      split_ifs <;> simp [roundPlace]
  | noReady here | takeReady _ _ here | sendSubmit _ _ _ here | noCancel here
  | takeCancel _ _ here | cancelRequest _ _ here | reap _ _ here =>
      left
      simp [here, roundPlace]
  | settleSubmit _ _ _ _ _ here | completeRequest _ _ _ _ here =>
      left
      simp only [here, roundPlace]
      omega
  | nextStage request stage next resume here more =>
      left
      cases stage <;> cases more <;> cases resume <;> simp [here, roundPlace, stagePlace]
  | lastStage request stage resume here last =>
      left
      cases stage <;> cases last
      cases resume <;> simp [here, roundPlace, stagePlace, Resume.pc]
  | reapNothing here | badUsercontext _ _ here | badReference _ _ _ here | deleteReference _ here =>
      right
      simp [here, roundPlace]

theorem next_place {kind : Request → Kind} {before after : Proxy} {action : Move}
    (moved : Moved kind before action after) (own : ownMove action = true)
    (ahead : roundPlace before.loop < 9) :
    roundPlace after.loop ≤ 7 ∨ roundPlace after.loop ≤ 9 ∧
      (7 ≤ roundPlace before.loop ∨ before.cancelList = []) := by
  have behind (handle : Handle) (request : Request) (stage : Stage)
      (here : before.loop = .completing request stage (.deleteReference handle)) : False := by
    rw [here, roundPlace] at ahead
    omega
  cases moved with
  | submit | withdraw | queue | finish => simp [ownMove] at own
  | testReady here =>
      left
      simp only
      split_ifs <;> simp [roundPlace]
  | testCancel here =>
      by_cases empty : before.cancelList = []
      · exact Or.inr ⟨by simp [empty, roundPlace], Or.inr empty⟩
      · left
        simp [empty, roundPlace]
  | noReady | takeReady | sendSubmit => simp [roundPlace]
  | settleSubmit request outcome err synchronous native here =>
      left
      have bound := stage_place_le (Stage.first (kind request))
      simp only [roundPlace]
      omega
  | nextStage request stage next resume here more =>
      cases resume with
      | deleteReference handle => exact (behind handle request stage here).elim
      | getCancel =>
          left
          have bound := stage_place_le next
          simp only [roundPlace]
          omega
  | lastStage request stage resume here last =>
      cases resume with
      | deleteReference handle => exact (behind handle request stage here).elim
      | getCancel => exact Or.inl le_rfl
  | noCancel here empty => exact Or.inr ⟨le_rfl, Or.inr empty⟩
  | takeCancel request rest here | cancelRequest request status here =>
      exact Or.inr ⟨by simp [roundPlace], Or.inl (by simp [here, roundPlace])⟩
  | reapNothing here | reap _ _ here | badUsercontext _ _ here | badReference _ _ _ here
  | completeRequest _ _ _ _ here | deleteReference _ here => simp [here, roundPlace] at ahead

theorem comes_nearer {kind : Request → Kind} {before after : Proxy} {action : Move}
    (moved : Moved kind before action after) (own : ownMove action = true) {target : Nat}
    (inRound : target ≤ 9) (elsewhere : roundPlace before.loop ≠ target)
    (stops : roundPlace before.loop < target → roundPlace after.loop ≤ target) :
    movesUntil target after.loop + 1 ≤ movesUntil target before.loop := by
  apply moves_until_falls _ elsewhere stops
  exact (round_goes_on moved own).imp_right fun wraps => ⟨wraps.1, by omega⟩

/-! ### The three queues -/

/-- At `testCancel` the loop may leave out a request that has just come. -/
def untilGetReady (pc : LoopPc) : Nat :=
  if pc = .testCancel then roundMoves + 1 else movesUntil 2 pc

theorem until_get_ready_le (pc : LoopPc) : untilGetReady pc ≤ roundMoves + 1 := by
  have bound := moves_until_lt (show 2 < roundMoves by decide) pc
  unfold untilGetReady
  split_ifs <;> omega

theorem early_places (pc : LoopPc) :
    pc = .testReady ∨ pc = .testCancel ∨ pc = .getReady ∨ 2 < roundPlace pc := by
  cases pc with
  | completing request stage resume => cases resume <;> simp [roundPlace] <;> omega
  | _ => simp [roundPlace]

/-- A round in which a request waits comes nearer to `getReady`. -/
theorem nearer_get_ready {kind : Request → Kind} {before after : Proxy} {action : Move}
    (moved : Moved kind before action after) (own : ownMove action = true)
    (waits : before.readyList ≠ []) (elsewhere : before.loop ≠ .getReady) :
    untilGetReady after.loop + 1 ≤ untilGetReady before.loop := by
  rcases early_places before.loop with here | here | here | beyond
  · have next : after.loop = .getReady := by
      cases moved <;> simp_all [ownMove]
    rw [here, next]
    decide
  · have next : after.loop = .getReady ∨ after.loop = .reap := by
      cases moved <;> simp_all [ownMove]
      exact (em _).symm
    rcases next with next | next <;> rw [here, next] <;> decide
  · exact absurd here elsewhere
  · have later : before.loop ≠ .testCancel ∧ after.loop ≠ .testCancel := by
      refine ⟨fun early => by simp [early, roundPlace] at beyond, fun early => ?_⟩
      rcases round_goes_on moved own with onward | ⟨wraps, _⟩
      · rw [early, roundPlace] at onward
        omega
      · rw [early] at wraps
        contradiction
    rw [untilGetReady, if_neg later.2, untilGetReady, if_neg later.1]
    exact comes_nearer moved own (by decide) (by omega) fun ahead => absurd ahead (by omega)

theorem round_nearer {Item : Type*} [BEq Item] [LawfulBEq Item] {item first : Item}
    {rest queue : List Item}
    (taken : queue = first :: rest) (different : first ≠ item) :
    roundMoves * rest.idxOf item + 14 + 1 ≤ roundMoves * queue.idxOf item := by
  rw [taken, List.idxOf_cons_ne rest different, roundMoves]
  omega

/-- A ready request is handed over or withdrawn, or comes nearer to it. -/
theorem ready_drawn {kind : Request → Kind} {before after : Proxy} {action : Move}
    (moved : Moved kind before action after) {request : Request}
    (ready : request ∈ before.readyList) :
    (after.loop = .submit request ∨ request ∈ after.removed) ∨ request ∈ after.readyList ∧
      roundMoves * after.readyList.idxOf request + untilGetReady after.loop +
          (ownMove action).toNat ≤
        roundMoves * before.readyList.idxOf request + untilGetReady before.loop := by
  by_cases own : ownMove action = true
  · by_cases here : before.loop = .getReady
    · cases moved with
      | noReady _ empty => simp [empty] at ready
      | takeReady first rest _ queue =>
          by_cases mine : first = request
          · exact Or.inl (Or.inl (by rw [mine]))
          · right
            have nearer := round_nearer queue mine
            rw [queue, List.mem_cons] at ready
            exact ⟨ready.resolve_left (Ne.symm mine), nearer.trans (Nat.le_add_right _ _)⟩
      | submit | withdraw | queue | finish => simp [ownMove] at own
      | _ => simp_all
    · right
      have same : after.readyList = before.readyList := by
        cases moved with
        | submit | withdraw | queue | finish => simp [ownMove] at own
        | takeReady first rest there => exact absurd there here
        | _ => rfl
      have nearer := nearer_get_ready moved own (List.ne_nil_of_mem ready) here
      rw [same, own, Bool.toNat_true]
      exact ⟨ready, by omega⟩
  · cases moved with
    | submit other fresh =>
        refine Or.inr ⟨List.mem_append_left _ ready, ?_⟩
        rw [List.idxOf_append_of_mem ready]
        exact le_rfl
    | withdraw other there =>
        by_cases mine : request = other
        · exact Or.inl (Or.inr (by simp [mine]))
        · refine Or.inr ⟨(List.mem_erase_of_ne mine).mpr ready, ?_⟩
          have shorter := idxOf_erase_le mine before.readyList
          simp only [roundMoves, ownMove, Bool.toNat_false]
          exact Nat.add_le_add_right (Nat.mul_le_mul_left 15 shorter) _
    | queue | finish => exact Or.inr ⟨ready, le_rfl⟩
    | _ => simp [ownMove] at own

/-- `REAPURBNDELAY` hands the finished URBs back in order and fails only if there is none. -/
def PromptReap (proxy : Proxy) : Move → Prop
  | .reap found => found = proxy.native.finished.head?
  | _ => True

theorem complete_finished (native : Native) (kind : Kind) (request : Request) (status : Int) :
    (completeNative native kind request status).2.finished = native.finished := by
  have found : (completeUrb native request status).2.finished = native.finished := by
    unfold completeUrb
    split_ifs <;> simp
  cases kind <;> first | exact found | rfl

theorem cancel_finished (native : Native) (kind : Kind) (request : Request) (status : Int) :
    native.finished <+: (cancelNative native kind request status).finished := by
  have found : native.finished <+: (cancelUrb native request status).finished := by
    unfold cancelUrb Native.discardUrb
    split_ifs
    · exact List.prefix_rfl
    · split
      · exact List.prefix_rfl
      · exact List.prefix_append _ _
  cases kind <;> first | exact found | exact List.prefix_rfl

/-- Only `reap` takes finished URBs away; the others come in behind them. -/
theorem finished_grows {kind : Request → Kind} {before after : Proxy} {action : Move}
    (sound : Sound kind before) (moved : Moved kind before action after)
    (elsewhere : before.loop = .reap → ownMove action = false) :
    before.native.finished <+: after.native.finished := by
  cases moved with
  | settleSubmit request outcome err synchronous native here done
  | sendSubmit request outcome native here done =>
      cases sound.submitted_urbs here done with
      | accepted _ _ _ _ _ _ _ finished | refused _ _ finished | lost _ _ _ _ _ finished =>
          simp only [finished, List.prefix_rfl]
  | cancelRequest request status here => exact cancel_finished _ _ _ _
  | reap held status here => exact absurd (elsewhere here) (by simp [ownMove])
  | completeRequest held status handle request here =>
      simp only [complete_finished, List.prefix_rfl]
  | deleteReference handle here => simp
  | finish held status pending => exact List.prefix_append _ _
  | _ => exact List.prefix_rfl

/-- The requests whose URBs the kernel has ended, in the order in which it will hand them back. -/
def endedOwners (native : Native) : List Request :=
  native.finished.map fun ended => ended.1.owner

theorem ended_drawn {kind : Request → Kind} {before after : Proxy} {action : Move}
    (sound : Sound kind before) (moved : Moved kind before action after)
    (prompt : PromptReap before action) {request : Request}
    (member : request ∈ endedOwners before.native) :
    (∃ held status, after.loop = .complete held status ∧ held.owner = request) ∨
      request ∈ endedOwners after.native ∧
        roundMoves * (endedOwners after.native).idxOf request + movesUntil 9 after.loop +
            (ownMove action).toNat ≤
          roundMoves * (endedOwners before.native).idxOf request + movesUntil 9 before.loop := by
  by_cases reaps : before.loop = .reap ∧ ownMove action = true
  · obtain ⟨here, own⟩ := reaps
    cases moved with
    | reapNothing _ =>
        rw [endedOwners, List.head?_eq_none_iff.mp (Eq.symm prompt)] at member
        exact absurd member List.not_mem_nil
    | reap held status _ _ =>
        obtain ⟨rest, queue⟩ := List.head?_eq_some_iff.mp (Eq.symm prompt)
        by_cases mine : held.owner = request
        · exact Or.inl ⟨held, status, rfl, mine⟩
        · right
          have owners : endedOwners before.native =
              held.owner :: rest.map fun ended => ended.1.owner := by
            rw [endedOwners, queue, List.map_cons]
          have left : endedOwners (before.native.reapUrb held status) =
              rest.map fun ended => ended.1.owner := by
            simp [endedOwners, Native.reapUrb, queue]
          have nearer := round_nearer owners mine
          rw [owners, List.mem_cons] at member
          refine ⟨left ▸ member.resolve_left (Ne.symm mine), ?_⟩
          simp only [left]
          exact nearer.trans (Nat.le_add_right _ _)
    | submit | withdraw | queue | finish => simp [ownMove] at own
    | _ => simp_all
  · right
    have elsewhere : before.loop = .reap → ownMove action = false := by simpa using reaps
    have grows : endedOwners before.native <+: endedOwners after.native :=
      (finished_grows sound moved elsewhere).map _
    refine ⟨grows.subset member, ?_⟩
    rw [← grows.idxOf_eq_of_mem member]
    cases own : ownMove action with
    | true =>
        have away : roundPlace before.loop ≠ 9 := fun there =>
          absurd (elsewhere (place_own.2 there)) (by simp [own])
        have nearer := comes_nearer moved own le_rfl away fun ahead =>
          (next_place moved own ahead).elim (fun near => by omega) And.left
        rw [Bool.toNat_true]
        omega
    | false =>
        rw [foreign_stays moved own]
        exact le_rfl

theorem reaped_drawn {kind : Request → Kind} {before after : Proxy} {action : Move}
    (sound : Sound kind before) (moved : Moved kind before action after) {held : Held}
    {status : Int} (here : before.loop = .complete held status) :
    (after.loop = .complete held status ∧ ownMove action = false) ∨
      ∃ stage resume, after.loop = .completing held.owner stage resume := by
  have block := sound.reaped_block here
  cases moved with
  | submit | withdraw | queue | finish => exact Or.inl ⟨here, rfl⟩
  | badUsercontext other ended there missing =>
      rw [here, LoopPc.complete.injEq] at there
      rw [← there.1, block.1] at missing
      contradiction
  | badReference other ended handle there found missing =>
      rw [here, LoopPc.complete.injEq] at there
      rw [← there.1, block.1, Option.some.injEq] at found
      rw [← found, block.2] at missing
      contradiction
  | completeRequest other ended handle request there found referred =>
      rw [here, LoopPc.complete.injEq] at there
      rw [← there.1, block.1, Option.some.injEq] at found
      rw [← found, block.2, Option.some.injEq] at referred
      exact Or.inr ⟨Stage.first (kind request), .deleteReference handle, by rw [referred]⟩
  | _ => simp_all

theorem completing_drawn {kind : Request → Kind} {before after : Proxy} {action : Move}
    (moved : Moved kind before action after) {request : Request} {stage : Stage}
    {resume : Resume} (here : before.loop = .completing request stage resume) :
    (action = .stage ∧ stage = .flag) ∨
      ∃ next, after.loop = .completing request next resume ∧
        stagePlace stage + (ownMove action).toNat ≤ stagePlace next := by
  cases moved with
  | submit | withdraw | queue | finish => exact Or.inr ⟨stage, here, le_rfl⟩
  | nextStage other reached next goesOn there more =>
      rw [here, LoopPc.completing.injEq] at there
      obtain ⟨rfl, rfl, rfl⟩ := there
      refine Or.inr ⟨next, rfl, ?_⟩
      cases stage <;> cases more <;> decide
  | lastStage other reached goesOn there last =>
      rw [here, LoopPc.completing.injEq] at there
      obtain ⟨rfl, rfl, rfl⟩ := there
      left
      cases stage <;> cases last
      exact ⟨rfl, rfl⟩
  | _ => simp_all

/-- The loop will complete the request after so many moves of its own: its URB
waits in the queue of the kernel, is reaped, or `setCompleted(true)` is called. -/
inductive CompletionDue (request : Request) (proxy : Proxy) : Nat → Prop
  | ended (member : request ∈ endedOwners proxy.native) :
      CompletionDue request proxy (roundMoves * (endedOwners proxy.native).idxOf request +
        movesUntil 9 proxy.loop + 5)
  | reaped (held : Held) (status : Int) (here : proxy.loop = .complete held status)
      (mine : held.owner = request) : CompletionDue request proxy 4
  | completing (stage : Stage) (resume : Resume)
      (here : proxy.loop = .completing request stage resume) :
      CompletionDue request proxy (3 - stagePlace stage)

def Completes (request : Request) (proxy : Proxy) (action : Move) : Prop :=
  action = .stage ∧ ∃ resume, proxy.loop = .completing request .flag resume

theorem completion_drawn {kind : Request → Kind} {before after : Proxy} {action : Move}
    (sound : Sound kind before) (moved : Moved kind before action after)
    (prompt : PromptReap before action) {request : Request} {left : Nat}
    (due : CompletionDue request before left) :
    Completes request before action ∨
      ∃ rest, CompletionDue request after rest ∧ rest + (ownMove action).toNat ≤ left := by
  have small := Bool.toNat_le (ownMove action)
  cases due with
  | ended member =>
      right
      rcases ended_drawn sound moved prompt member with ⟨held, status, here, mine⟩ | ⟨still, nearer⟩
      · exact ⟨4, .reaped held status here mine, by omega⟩
      · exact ⟨_, .ended still, by omega⟩
  | reaped held status here mine =>
      right
      rcases reaped_drawn sound moved here with ⟨stays, foreign⟩ | ⟨stage, resume, there⟩
      · rw [foreign]
        exact ⟨4, .reaped held status stays mine, le_rfl⟩
      · rw [mine] at there
        exact ⟨_, .completing stage resume there, by omega⟩
  | completing stage resume here =>
      rcases completing_drawn moved here with ⟨ends, rfl⟩ | ⟨next, there, later⟩
      · exact Or.inl ⟨ends, resume, here⟩
      · have bound := stage_place_le next
        exact Or.inr ⟨_, .completing next resume there, by omega⟩

end JavaxUsbLinux.ProxyRound
