import Mathlib.Data.Nat.Count

/-!
# The topology listener

`nativeTopologyListener` waits for events of the devices file. It does not look
at what `poll` returns, so that a call that fails leaves it with the events of an
earlier one, and an error that comes with an event hides the event.
-/

namespace JavaxUsbLinux.TopologyListener

set_option autoImplicit false

abbrev Revents := UInt16

def pollin : Revents := 0x1
def pollerr : Revents := 0x8
def maxPollingErrors : Nat := 64
def enolink : Int := 67

/-- A call of `poll`: the events it returns, or a failure that leaves `revents`
as it was. -/
inductive Poll where
  | success (revents : Revents)
  | failure
  deriving DecidableEq

def Poll.revents (poll : Poll) (before : Revents) : Revents :=
  match poll with
  | success revents => revents
  | failure => before

def hasErr (revents : Revents) : Bool := revents &&& pollerr != 0
def hasIn (revents : Revents) : Bool := revents &&& pollin != 0

/-- The variables of the loop, the numbers of the polls after which it has called
`topologyChange`, and the result of the function once it has one. -/
structure Listener where
  revents : Revents
  pollingError : Nat
  topologyChanges : List Nat
  exit : Option Int

/-- One iteration, on the poll with this number. -/
def iteration (listener : Listener) (number : Nat) (poll : Poll) : Listener :=
  let revents := poll.revents listener.revents
  let listener := { listener with revents := revents }
  if 0x0 = revents then listener
  else if hasErr revents then
    let pollingError := listener.pollingError + 1
    let listener := { listener with pollingError := pollingError }
    if maxPollingErrors < pollingError then { listener with exit := some (-enolink) } else listener
  else if hasIn revents then
    { listener with topologyChanges := listener.topologyChanges ++ [number] }
  else listener

/-- The loop during the first polls; `leftover` is what stands in `revents` before them. -/
def listen (leftover : Revents) (polls : Nat → Poll) : Nat → Listener
  | 0 => ⟨leftover, 0, [], none⟩
  | number + 1 =>
      let listener := listen leftover polls number
      if listener.exit.isSome then listener else iteration listener number (polls number)

/-- The function during the first polls, for the results of `open` and its `errno`. -/
def nativeTopologyListener (descriptor errno : Int) (leftover : Revents) (polls : Nat → Poll)
    (number : Nat) : Listener :=
  if 0 ≥ descriptor then ⟨leftover, 0, [], some errno⟩ else listen leftover polls number

/-! ### What the listener is to do -/

def Poll.isChange : Poll → Bool
  | success revents => hasIn revents
  | failure => false

def Poll.isError : Poll → Bool
  | success revents => hasErr revents
  | failure => false

def errors (polls : Nat → Poll) (number : Nat) : Nat :=
  Nat.count (fun index => (polls index).isError = true) number

/-- As long as the function has not returned, it calls `topologyChange` once for
each poll that tells of a change and for no other, and it returns after the poll
with which the errors get too many. -/
def Reports (run : Nat → Listener) (polls : Nat → Poll) : Prop :=
  ∀ number, (run number).exit = none →
    (run (number + 1)).topologyChanges = (run number).topologyChanges ++
        (if (polls number).isChange then [number] else []) ∧
      ((run (number + 1)).exit.isSome = true ↔ maxPollingErrors < errors polls (number + 1))

/-! ### The events the loop sees -/

section Seen

variable (leftover : Revents) (polls : Nat → Poll)

def held : Nat → Revents
  | 0 => leftover
  | number + 1 => (polls number).revents (held number)

def seenErrors (number : Nat) : Nat :=
  Nat.count (fun index => hasErr (held leftover polls (index + 1)) = true) number

def staleErrors (number : Nat) : Nat :=
  Nat.count (fun index => hasErr (held leftover polls (index + 1)) = true ∧
    polls index = .failure) number

theorem seen_errors_split (number : Nat) :
    seenErrors leftover polls number = errors polls number + staleErrors leftover polls number := by
  unfold seenErrors errors staleErrors
  induction number with
  | zero => simp
  | succ number ih =>
      rw [Nat.count_succ, Nat.count_succ, Nat.count_succ, ih, held]
      cases polls number with
      | success revents =>
          cases error : hasErr revents <;> simp [Poll.revents, Poll.isError, error]
          omega
      | failure =>
          cases error : hasErr (held leftover polls number) <;>
            simp [Poll.revents, Poll.isError, error]
          omega

theorem seen_errors_succ (number : Nat) :
    seenErrors leftover polls (number + 1) = seenErrors leftover polls number +
      if hasErr (held leftover polls (number + 1)) then 1 else 0 :=
  Nat.count_succ _ number

end Seen

theorem iteration_eq (listener : Listener) (number : Nat) (poll : Poll) :
    iteration listener number poll =
      { revents := poll.revents listener.revents
        pollingError := listener.pollingError +
          if hasErr (poll.revents listener.revents) then 1 else 0
        topologyChanges := listener.topologyChanges ++
          if !hasErr (poll.revents listener.revents) && hasIn (poll.revents listener.revents) then
            [number] else []
        exit :=
          if hasErr (poll.revents listener.revents) ∧ maxPollingErrors < listener.pollingError + 1
          then some (-enolink) else listener.exit } := by
  unfold iteration
  by_cases empty : 0x0 = poll.revents listener.revents
  · have noErr : hasErr 0x0 = false := by decide
    have noIn : hasIn 0x0 = false := by decide
    simp [← empty, noErr, noIn]
  · cases error : hasErr (poll.revents listener.revents) with
    | true =>
        by_cases many : maxPollingErrors < listener.pollingError + 1 <;> simp [empty, many, error]
    | false =>
        cases change : hasIn (poll.revents listener.revents) <;> simp [empty, error, change]

section Loop

variable (leftover : Revents) (polls : Nat → Poll)

structure Follows (number : Nat) (listener : Listener) : Prop where
  revents : listener.revents = held leftover polls number
  counted : listener.pollingError = seenErrors leftover polls number
  few : seenErrors leftover polls number ≤ maxPollingErrors

variable {leftover polls}

theorem listen_next {number : Nat} (running : (listen leftover polls number).exit = none)
    (follows : Follows leftover polls number (listen leftover polls number)) :
    listen leftover polls (number + 1) =
      { revents := held leftover polls (number + 1)
        pollingError := seenErrors leftover polls (number + 1)
        topologyChanges := (listen leftover polls number).topologyChanges ++
          if !hasErr (held leftover polls (number + 1)) &&
              hasIn (held leftover polls (number + 1)) then [number] else []
        exit := if maxPollingErrors < seenErrors leftover polls (number + 1) then some (-enolink)
          else none } := by
  have now : (polls number).revents (listen leftover polls number).revents =
      held leftover polls (number + 1) := congrArg (polls number).revents follows.revents
  have few := follows.few
  rw [listen]
  simp only [running, Option.isSome_none, Bool.false_eq_true, if_false, iteration_eq, now,
    follows.counted, seen_errors_succ]
  cases error : hasErr (held leftover polls (number + 1)) with
  | true => simp
  | false => simp [Nat.not_lt.mpr few]

theorem listen_exited {number : Nat} (exited : (listen leftover polls number).exit ≠ none) :
    listen leftover polls (number + 1) = listen leftover polls number := by
  rw [listen]
  exact if_pos (Option.isSome_iff_ne_none.mpr exited)

variable (leftover polls)

theorem listen_follows (number : Nat) :
    ((listen leftover polls number).exit = none ↔
        seenErrors leftover polls number ≤ maxPollingErrors) ∧
      ((listen leftover polls number).exit = none →
        Follows leftover polls number (listen leftover polls number)) := by
  induction number with
  | zero =>
      have none : seenErrors leftover polls 0 = 0 := Nat.count_zero _
      exact ⟨iff_of_true rfl (none ▸ Nat.zero_le _),
        fun _ => ⟨rfl, none.symm, none ▸ Nat.zero_le _⟩⟩
  | succ number ih =>
      obtain ⟨goesOn, follows⟩ := ih
      by_cases running : (listen leftover polls number).exit = none
      · rw [listen_next running (follows running)]
        by_cases many : maxPollingErrors < seenErrors leftover polls (number + 1)
        · simp [many]
        · have few := Nat.not_lt.mp many
          simp only [if_neg many]
          exact ⟨iff_of_true trivial few, fun _ => ⟨rfl, rfl, few⟩⟩
      · have many : ¬ seenErrors leftover polls (number + 1) ≤ maxPollingErrors := by
          rw [seen_errors_succ]
          rw [goesOn] at running
          omega
        rw [listen_exited running]
        exact ⟨iff_of_false running many, fun here => absurd here running⟩

end Loop

/-! ### When the listener does it -/

/-- As long as the loop goes on, no poll that succeeds has a change and an error,
and none fails while a change without an error is left from an earlier one; and
if the errors seen get too many, no poll has failed with one of them left. -/
structure Undisturbed (leftover : Revents) (polls : Nat → Poll) : Prop where
  single : ∀ number, seenErrors leftover polls number ≤ maxPollingErrors →
    ∀ revents, polls number = .success revents → ¬ (hasIn revents = true ∧ hasErr revents = true)
  fresh : ∀ number, seenErrors leftover polls number ≤ maxPollingErrors →
    polls number = .failure → hasIn (held leftover polls number) = true →
      hasErr (held leftover polls number) = true
  counted : ∀ number, seenErrors leftover polls number ≤ maxPollingErrors →
    maxPollingErrors < seenErrors leftover polls (number + 1) →
      ∀ index ≤ number, polls index = .failure → hasErr (held leftover polls index) = false

section Condition

variable {leftover : Revents} {polls : Nat → Poll} {number : Nat}

theorem change_right_iff (number : Nat) :
    (!hasErr (held leftover polls (number + 1)) && hasIn (held leftover polls (number + 1))) =
        (polls number).isChange ↔
      (∀ revents, polls number = .success revents →
        ¬ (hasIn revents = true ∧ hasErr revents = true)) ∧
      (polls number = .failure → hasIn (held leftover polls number) = true →
        hasErr (held leftover polls number) = true) := by
  rw [held]
  cases poll : polls number with
  | success revents =>
      simp only [Poll.revents, Poll.isChange, Poll.success.injEq, forall_eq', reduceCtorEq,
        false_implies, and_true]
      cases hasErr revents <;> cases hasIn revents <;> decide
  | failure =>
      simp only [Poll.revents, Poll.isChange, reduceCtorEq, false_implies, implies_true, true_and,
        forall_const]
      cases hasErr (held leftover polls number) <;> cases hasIn (held leftover polls number) <;>
        decide

theorem stale_errors_none_iff : staleErrors leftover polls (number + 1) = 0 ↔
    ∀ index ≤ number, polls index = .failure → hasErr (held leftover polls index) = false := by
  unfold staleErrors
  rw [Nat.count_iff_forall_not]
  refine forall_congr' fun index => ?_
  rw [Nat.lt_succ_iff]
  refine forall_congr' fun _ => ?_
  constructor
  · intro fine failed
    rw [held, failed] at fine
    simpa [Poll.revents] using fine
  · rintro fine ⟨error, failed⟩
    rw [held, failed] at error
    exact absurd (fine failed) (by simpa [Poll.revents] using error)

theorem exit_right_iff (few : seenErrors leftover polls number ≤ maxPollingErrors) :
    (maxPollingErrors < seenErrors leftover polls (number + 1) ↔
        maxPollingErrors < errors polls (number + 1)) ↔
      (maxPollingErrors < seenErrors leftover polls (number + 1) →
        ∀ index ≤ number, polls index = .failure → hasErr (held leftover polls index) = false) := by
  rw [← stale_errors_none_iff]
  have split := seen_errors_split leftover polls (number + 1)
  have step : seenErrors leftover polls (number + 1) ≤ seenErrors leftover polls number + 1 := by
    rw [seen_errors_succ]
    split_ifs <;> omega
  omega

theorem poll_right_iff (few : seenErrors leftover polls number ≤ maxPollingErrors) :
    ((listen leftover polls (number + 1)).topologyChanges =
        (listen leftover polls number).topologyChanges ++
          (if (polls number).isChange then [number] else []) ∧
      ((listen leftover polls (number + 1)).exit.isSome = true ↔
        maxPollingErrors < errors polls (number + 1))) ↔
      (!hasErr (held leftover polls (number + 1)) && hasIn (held leftover polls (number + 1))) =
          (polls number).isChange ∧
        (maxPollingErrors < seenErrors leftover polls (number + 1) ↔
          maxPollingErrors < errors polls (number + 1)) := by
  obtain ⟨goesOn, follows⟩ := listen_follows leftover polls number
  have running := goesOn.mpr few
  rw [listen_next running (follows running)]
  refine and_congr ?_ (iff_congr ?_ Iff.rfl)
  · rw [List.append_cancel_left_eq]
    cases !hasErr (held leftover polls (number + 1)) && hasIn (held leftover polls (number + 1)) <;>
      cases (polls number).isChange <;> simp
  · by_cases many : maxPollingErrors < seenErrors leftover polls (number + 1) <;> simp [many]

end Condition

theorem loop_reports_iff (leftover : Revents) (polls : Nat → Poll) :
    Reports (listen leftover polls) polls ↔ Undisturbed leftover polls := by
  have runs := fun number => (listen_follows leftover polls number).1
  constructor
  · intro reports
    constructor
    case single =>
      intro number few
      exact ((change_right_iff number).mp
        ((poll_right_iff few).mp (reports number ((runs number).mpr few))).1).1
    case fresh =>
      intro number few
      exact ((change_right_iff number).mp
        ((poll_right_iff few).mp (reports number ((runs number).mpr few))).1).2
    case counted =>
      intro number few
      exact (exit_right_iff few).mp
        ((poll_right_iff few).mp (reports number ((runs number).mpr few))).2
  · intro condition number running
    have few := (runs number).mp running
    exact (poll_right_iff few).mpr ⟨(change_right_iff number).mpr
      ⟨condition.single number few, condition.fresh number few⟩,
      (exit_right_iff few).mpr (condition.counted number few)⟩

/-- The listener reports all changes and only these, and gives up in time, exactly
if it does not get to poll or nothing disturbs its polls. -/
theorem listener_reports_iff (descriptor errno : Int) (leftover : Revents) (polls : Nat → Poll) :
    Reports (nativeTopologyListener descriptor errno leftover polls) polls ↔
      descriptor ≤ 0 ∨ Undisturbed leftover polls := by
  by_cases failed : 0 ≥ descriptor
  · have closed : Reports (nativeTopologyListener descriptor errno leftover polls) polls := by
      intro number running
      rw [nativeTopologyListener, if_pos failed] at running
      cases running
    exact iff_of_true closed (Or.inl failed)
  · have loop : nativeTopologyListener descriptor errno leftover polls = listen leftover polls :=
      funext fun number => if_neg failed
    rw [loop, loop_reports_iff, or_iff_right failed]

theorem change_with_error_lost :
    ¬ Reports (nativeTopologyListener 3 0 0 fun _ => .success 0x9) fun _ => .success 0x9 := by
  intro reports
  have first := (reports 0 rfl).1
  exact absurd first (by decide)

end JavaxUsbLinux.TopologyListener
