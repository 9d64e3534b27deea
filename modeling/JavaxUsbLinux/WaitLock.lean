import Mathlib.Data.Fintype.Basic
import JavaxUsbLinux.Runs

/-!
# Waiting for the completion of a request

Any number of threads call `waitUntilCompleted` of a `LinuxRequest`, and one
thread calls `setCompleted(true)`. Each read and write of `completed` and
`waitCount` and each operation on the monitor of `waitLock` is a step of its own.
-/

namespace JavaxUsbLinux.WaitLock

open JavaxUsbLinux.Runs

set_option autoImplicit false

/-- Where a thread is in `waitUntilCompleted`, by what it does next. -/
inductive WaiterPc where
  | outside
  | entering
  | readingCount
  | addingTo (count : Int)
  | testing
  | toWait
  | waiting
  | woken
  | readingBack
  | takingFrom (count : Int)
  | leaving
  deriving DecidableEq

namespace WaiterPc

def holds : WaiterPc → Bool
  | .outside | .entering | .waiting | .woken => false
  | _ => true

def inside : WaiterPc → Bool
  | .outside | .entering => false
  | _ => true

def counted : WaiterPc → Bool
  | .testing | .toWait | .waiting | .woken | .readingBack | .takingFrom _ => true
  | _ => false

def readValue : WaiterPc → Option Int
  | .addingTo count | .takingFrom count => some count
  | _ => none

def pastLoop : WaiterPc → Bool
  | .readingBack | .takingFrom _ | .leaving => true
  | _ => false

def awaits : WaiterPc → Bool
  | .toWait | .waiting => true
  | _ => false

def notified : WaiterPc → WaiterPc
  | .waiting => .woken
  | pc => pc

end WaiterPc

inductive CompleterPc where
  | idle
  | testing
  | readingCount
  | entering
  | notifying
  | leaving
  | finished
  deriving DecidableEq

namespace CompleterPc

def holds : CompleterPc → Bool
  | .notifying | .leaving => true
  | _ => false

/-- The thread has yet to look at `waitCount`, or is on its way to notify. -/
def willNotify : CompleterPc → Bool
  | .testing | .readingCount | .entering | .notifying => true
  | _ => false

end CompleterPc

inductive Owner (Thread : Type) where
  | waiter (thread : Thread)
  | completer
  deriving DecidableEq

/-- `waitCount` is a Java int, which the threads do not overflow (`wait_count_fits`). -/
structure State (Thread : Type) where
  completed : Bool
  waitCount : Int
  monitor : Option (Owner Thread)
  waiter : Thread → WaiterPc
  completer : CompleterPc

variable {Thread : Type}

namespace State

def initial : State Thread where
  completed := false
  waitCount := 0
  monitor := none
  waiter _ := .outside
  completer := .idle

def setWaiter [DecidableEq Thread] (state : State Thread) (thread : Thread) (pc : WaiterPc) :
    State Thread :=
  { state with waiter := Function.update state.waiter thread pc }

end State

/-! ### `waitUntilCompleted` -/

section Waiters

variable [DecidableEq Thread]

def waitUntilCompleted (thread : Thread) (state : State Thread) : Option (State Thread) :=
  if state.waiter thread = .outside then some (state.setWaiter thread .entering) else none

def enter (thread : Thread) (state : State Thread) : Option (State Thread) :=
  if state.waiter thread = .entering ∧ state.monitor = none then
    some { state.setWaiter thread .readingCount with monitor := some (.waiter thread) }
  else none

def readCount (thread : Thread) (state : State Thread) : Option (State Thread) :=
  match state.waiter thread with
  | .readingCount => some (state.setWaiter thread (.addingTo state.waitCount))
  | .readingBack => some (state.setWaiter thread (.takingFrom state.waitCount))
  | _ => none

def writeCount (thread : Thread) (state : State Thread) : Option (State Thread) :=
  match state.waiter thread with
  | .addingTo count => some { state.setWaiter thread .testing with waitCount := count + 1 }
  | .takingFrom count => some { state.setWaiter thread .leaving with waitCount := count - 1 }
  | _ => none

def isCompleted (thread : Thread) (state : State Thread) : Option (State Thread) :=
  if state.waiter thread = .testing then
    some (state.setWaiter thread (if state.completed then .readingBack else .toWait))
  else none

def wait (thread : Thread) (state : State Thread) : Option (State Thread) :=
  if state.waiter thread = .toWait then
    some { state.setWaiter thread .waiting with monitor := none }
  else none

/-- `wait()` of a thread that is interrupted already; the exception is swallowed. -/
def waitInterrupted (thread : Thread) (state : State Thread) : Option (State Thread) :=
  if state.waiter thread = .toWait then some (state.setWaiter thread .testing) else none

/-- An interrupt or a spurious wake-up takes the thread out of the wait set. -/
def wake (thread : Thread) (state : State Thread) : Option (State Thread) :=
  if state.waiter thread = .waiting then some (state.setWaiter thread .woken) else none

def resume (thread : Thread) (state : State Thread) : Option (State Thread) :=
  if state.waiter thread = .woken ∧ state.monitor = none then
    some { state.setWaiter thread .testing with monitor := some (.waiter thread) }
  else none

def leave (thread : Thread) (state : State Thread) : Option (State Thread) :=
  if state.waiter thread = .leaving then
    some { state.setWaiter thread .outside with monitor := none }
  else none

end Waiters

/-! ### `setCompleted(true)` -/

def setCompleted (state : State Thread) : Option (State Thread) :=
  if state.completer = .idle ∨ state.completer = .finished then
    some { state with completed := true, completer := .testing }
  else none

def testCompleted (state : State Thread) : Option (State Thread) :=
  if state.completer = .testing then
    some { state with completer := if state.completed then .readingCount else .finished }
  else none

def notifyCompleted (state : State Thread) : Option (State Thread) :=
  if state.completer = .readingCount then
    some { state with completer := if 0 < state.waitCount then .entering else .finished }
  else none

def enterNotify (state : State Thread) : Option (State Thread) :=
  if state.completer = .entering ∧ state.monitor = none then
    some { state with completer := .notifying, monitor := some .completer }
  else none

def notifyAll (state : State Thread) : Option (State Thread) :=
  if state.completer = .notifying then
    some { state with
      completer := .leaving
      waiter := fun thread => (state.waiter thread).notified }
  else none

def leaveNotify (state : State Thread) : Option (State Thread) :=
  if state.completer = .leaving then
    some { state with completer := .finished, monitor := none }
  else none

inductive Label (Thread : Type) where
  | waitUntilCompleted (thread : Thread)
  | enter (thread : Thread)
  | readCount (thread : Thread)
  | writeCount (thread : Thread)
  | isCompleted (thread : Thread)
  | wait (thread : Thread)
  | waitInterrupted (thread : Thread)
  | wake (thread : Thread)
  | resume (thread : Thread)
  | leave (thread : Thread)
  | setCompleted
  | testCompleted
  | notifyCompleted
  | enterNotify
  | notifyAll
  | leaveNotify

def step [DecidableEq Thread] (state : State Thread) : Label Thread → Option (State Thread)
  | .waitUntilCompleted thread => waitUntilCompleted thread state
  | .enter thread => enter thread state
  | .readCount thread => readCount thread state
  | .writeCount thread => writeCount thread state
  | .isCompleted thread => isCompleted thread state
  | .wait thread => wait thread state
  | .waitInterrupted thread => waitInterrupted thread state
  | .wake thread => wake thread state
  | .resume thread => resume thread state
  | .leave thread => leave thread state
  | .setCompleted => setCompleted state
  | .testCompleted => testCompleted state
  | .notifyCompleted => notifyCompleted state
  | .enterNotify => enterNotify state
  | .notifyAll => notifyAll state
  | .leaveNotify => leaveNotify state

/-! ### The invariant -/

/-- What a state owes a waiting thread at a place. -/
structure At (state : State Thread) (thread : Thread) (pc : WaiterPc) : Prop where
  holds : pc.holds = true → state.monitor = some (.waiter thread)
  fresh : ∀ count, pc.readValue = some count → count = state.waitCount
  past : pc.pastLoop = true → state.completed = true
  awaits : pc.awaits = true → state.completed = true → state.completer.willNotify = true

/-- `waitCount` is right between the steps, and from the write of `completed` on
nobody depends on a notification unless it is still to come. -/
structure Sound [Fintype Thread] (state : State Thread) : Prop where
  threads : ∀ thread, At state thread (state.waiter thread)
  holds : state.completer.holds = true → state.monitor = some .completer
  written : state.completer ≠ .idle → state.completed = true
  counted : state.waitCount = population WaiterPc.counted state.waiter

theorem reads_holding {pc : WaiterPc} {count : Int} (reads : pc.readValue = some count) :
    pc.holds = true := by
  cases pc <;> simp_all [WaiterPc.readValue, WaiterPc.holds]

theorem awaits_counted {pc : WaiterPc} (awaits : pc.awaits = true) : pc.counted = true := by
  cases pc <;> simp_all [WaiterPc.awaits, WaiterPc.counted]

theorem initial_sound [Fintype Thread] : Sound (State.initial : State Thread) where
  threads thread := by
    constructor <;> simp [State.initial, WaiterPc.holds, WaiterPc.readValue, WaiterPc.pastLoop,
      WaiterPc.awaits]
  holds := by simp [State.initial, CompleterPc.holds]
  written := by simp [State.initial]
  counted := by simp [State.initial, population, WaiterPc.counted]

namespace Sound

section Completer

variable [Fintype Thread] {state after : State Thread}

/-- While nobody owns the monitor, those inside are those that are counted. -/
theorem inside_counted (sound : Sound state) (free : state.monitor = none) :
    state.waitCount = population WaiterPc.inside state.waiter := by
  rw [sound.counted, population_congr]
  intro thread
  have holds := (sound.threads thread).holds
  rw [free] at holds
  cases place : state.waiter thread <;>
    simp_all [WaiterPc.holds, WaiterPc.inside, WaiterPc.counted]

theorem nobody_forgotten (sound : Sound state) (finished : state.completer = .finished)
    (thread : Thread) : state.waiter thread ≠ .waiting := by
  intro waiting
  have own := sound.threads thread
  rw [waiting] at own
  have willNotify := own.awaits rfl (sound.written (by simp [finished]))
  rw [finished] at willNotify
  contradiction

theorem completer_walks (sound : Sound state) {pc : CompleterPc} {completed : Bool}
    (holds : pc.holds = true → state.monitor = some .completer)
    (written : pc ≠ .idle → completed = true) (kept : state.completed = true → completed = true)
    (awaits : ∀ thread, (state.waiter thread).awaits = true → pc.willNotify = true) :
    Sound { state with completed := completed, completer := pc } where
  threads thread := { sound.threads thread with
    past := fun past => kept ((sound.threads thread).past past)
    awaits := fun there _ => awaits thread there }
  holds := holds
  written := written
  counted := sound.counted

theorem after_set_completed (sound : Sound state) (taken : setCompleted state = some after) :
    Sound after := by
  unfold setCompleted at taken
  split_ifs at taken
  rw [← Option.some.inj taken]
  apply sound.completer_walks
  · simp [CompleterPc.holds]
  · exact fun _ => rfl
  · exact fun _ => rfl
  · exact fun _ _ => rfl

theorem after_test_completed (sound : Sound state) (taken : testCompleted state = some after) :
    Sound after := by
  unfold testCompleted at taken
  split_ifs at taken with testing completed
  · rw [← Option.some.inj taken]
    apply sound.completer_walks
    · simp [CompleterPc.holds]
    · exact fun _ => completed
    · exact id
    · exact fun _ _ => rfl
  · exact absurd (sound.written (by simp [testing])) completed

/-- With `waitCount` at 0 nobody is on its way into the wait set. -/
theorem after_notify_completed (sound : Sound state)
    (taken : notifyCompleted state = some after) : Sound after := by
  unfold notifyCompleted at taken
  split_ifs at taken with reading positive
  · rw [← Option.some.inj taken]
    apply sound.completer_walks
    · simp [CompleterPc.holds]
    · exact fun _ => sound.written (by simp [reading])
    · exact id
    · exact fun _ _ => rfl
  · rw [← Option.some.inj taken]
    apply sound.completer_walks
    · simp [CompleterPc.holds]
    · exact fun _ => sound.written (by simp [reading])
    · exact id
    · intro thread awaits
      have member : 0 < population WaiterPc.counted state.waiter :=
        population_pos (awaits_counted awaits)
      rw [sound.counted] at positive
      omega

theorem after_enter_notify (sound : Sound state) (taken : enterNotify state = some after) :
    Sound after := by
  unfold enterNotify at taken
  split_ifs at taken with entering
  rw [← Option.some.inj taken]
  have completed := sound.written (by simp [entering.1])
  exact {
    threads := by
      intro thread
      refine { sound.threads thread with holds := ?_, awaits := fun _ _ => rfl }
      intro holds
      have owned := (sound.threads thread).holds holds
      rw [entering.2] at owned
      contradiction
    holds := fun _ => rfl
    written := fun _ => completed
    counted := sound.counted }

/-- The notifying thread owns the monitor, so whoever depends on it is in the wait set. -/
theorem after_notify_all (sound : Sound state) (taken : notifyAll state = some after) :
    Sound after := by
  unfold notifyAll at taken
  split_ifs at taken with notifying
  rw [← Option.some.inj taken]
  have owner := sound.holds (by rw [notifying]; rfl)
  exact {
    threads := by
      intro thread
      have own := sound.threads thread
      cases place : state.waiter thread with
      | toWait =>
          rw [place] at own
          have owned := own.holds rfl
          rw [owner] at owned
          cases owned
      | waiting => constructor <;>
          simp [place, WaiterPc.notified, WaiterPc.holds, WaiterPc.readValue, WaiterPc.pastLoop,
            WaiterPc.awaits]
      | _ =>
          rw [place] at own
          simp only [place]
          exact { own with awaits := by simp [WaiterPc.notified, WaiterPc.awaits] }
    holds := fun _ => owner
    written := fun _ => sound.written (by simp [notifying])
    counted := by
      change state.waitCount = _
      rw [sound.counted, population_congr]
      intro thread
      cases state.waiter thread <;> rfl }

theorem after_leave_notify (sound : Sound state) (taken : leaveNotify state = some after) :
    Sound after := by
  unfold leaveNotify at taken
  split_ifs at taken with leaving
  rw [← Option.some.inj taken]
  have owner := sound.holds (by rw [leaving]; rfl)
  have completed := sound.written (by simp [leaving])
  exact {
    threads := by
      intro thread
      refine { sound.threads thread with holds := ?_, awaits := ?_ }
      · intro holds
        have owned := (sound.threads thread).holds holds
        rw [owner] at owned
        cases owned
      · intro awaits _
        have willNotify := (sound.threads thread).awaits awaits completed
        rw [leaving] at willNotify
        contradiction
    holds := by simp [CompleterPc.holds]
    written := fun _ => completed
    counted := sound.counted }

end Completer

variable [DecidableEq Thread] {state after : State Thread} {thread : Thread}

theorem threads_after {pc : WaiterPc}
    (moved : after.waiter = Function.update state.waiter thread pc) (own : At after thread pc)
    (others : ∀ other, other ≠ thread → At after other (state.waiter other)) (other : Thread) :
    At after other (after.waiter other) := by
  rw [moved]
  by_cases same : other = thread
  · rw [same, Function.update_self]
    exact own
  · rw [Function.update_of_ne same]
    exact others other same

variable [Fintype Thread]

theorem counted_after (sound : Sound state) {pc : WaiterPc} :
    (population WaiterPc.counted (Function.update state.waiter thread pc) : Int) =
      state.waitCount + (pc.counted.toNat : Int) - ((state.waiter thread).counted.toNat : Int) := by
  have balance := population_update WaiterPc.counted state.waiter thread pc
  rw [sound.counted]
  omega

theorem walks_counted (sound : Sound state) {pc : WaiterPc}
    (counted : pc.counted = (state.waiter thread).counted) :
    state.waitCount = population WaiterPc.counted (state.setWaiter thread pc).waiter := by
  rw [State.setWaiter, sound.counted_after, counted]
  omega

theorem walks (sound : Sound state) {pc : WaiterPc} (own : At state thread pc)
    (counted : pc.counted = (state.waiter thread).counted) :
    Sound (state.setWaiter thread pc) where
  threads := threads_after rfl { own with } fun other _ => { sound.threads other with }
  holds := sound.holds
  written := sound.written
  counted := sound.walks_counted counted

theorem takes_monitor (sound : Sound state) {pc : WaiterPc} (free : state.monitor = none)
    (read : pc.readValue = none) (past : pc.pastLoop = false) (awaits : pc.awaits = false)
    (counted : pc.counted = (state.waiter thread).counted) :
    Sound { state.setWaiter thread pc with monitor := some (.waiter thread) } where
  threads := by
    refine threads_after rfl ⟨fun _ => rfl, ?_, ?_, ?_⟩ ?_
    · simp [read]
    · simp [past]
    · simp [awaits]
    · intro other _
      refine { sound.threads other with holds := ?_ }
      intro holds
      have owned := (sound.threads other).holds holds
      rw [free] at owned
      contradiction
  holds holds := by
    have owned := sound.holds holds
    rw [free] at owned
    contradiction
  written := sound.written
  counted := sound.walks_counted counted

/-- The owner of the monitor gives it up. -/
theorem gives_monitor (sound : Sound state) {pc : WaiterPc}
    (owner : (state.waiter thread).holds = true) (own : At state thread pc)
    (free : pc.holds = false) (counted : pc.counted = (state.waiter thread).counted) :
    Sound { state.setWaiter thread pc with monitor := none } where
  threads := by
    refine threads_after rfl { own with holds := by simp [free] } ?_
    intro other different
    refine { sound.threads other with holds := ?_ }
    intro holds
    have owned := (sound.threads other).holds holds
    rw [(sound.threads thread).holds owner] at owned
    exact absurd (Owner.waiter.inj (Option.some.inj owned)).symm different
  holds holds := by
    have owned := sound.holds holds
    rw [(sound.threads thread).holds owner] at owned
    cases owned
  written := sound.written
  counted := sound.walks_counted counted

theorem writes_count (sound : Sound state) {pc : WaiterPc} {count : Int}
    (owner : (state.waiter thread).holds = true) (own : At state thread pc)
    (read : pc.readValue = none)
    (counted : count = state.waitCount + (pc.counted.toNat : Int) -
      ((state.waiter thread).counted.toNat : Int)) :
    Sound { state.setWaiter thread pc with waitCount := count } where
  threads := by
    refine threads_after rfl { own with fresh := by simp [read] } ?_
    intro other different
    refine { sound.threads other with fresh := ?_ }
    intro old reads
    have owned := (sound.threads other).holds (reads_holding reads)
    rw [(sound.threads thread).holds owner] at owned
    exact absurd (Owner.waiter.inj (Option.some.inj owned)).symm different
  holds := sound.holds
  written := sound.written
  counted := counted.trans sound.counted_after.symm

theorem after_wait_until_completed (sound : Sound state)
    (taken : waitUntilCompleted thread state = some after) : Sound after := by
  unfold waitUntilCompleted at taken
  split_ifs at taken with outside
  rw [← Option.some.inj taken]
  apply sound.walks
  · constructor <;> simp [WaiterPc.holds, WaiterPc.readValue, WaiterPc.pastLoop, WaiterPc.awaits]
  · rw [outside]
    rfl

theorem after_enter (sound : Sound state) (taken : enter thread state = some after) :
    Sound after := by
  unfold enter at taken
  split_ifs at taken with entering
  rw [← Option.some.inj taken]
  apply sound.takes_monitor entering.2 rfl rfl rfl
  rw [entering.1]
  rfl

theorem after_read_count (sound : Sound state) (taken : readCount thread state = some after) :
    Sound after := by
  have own := sound.threads thread
  unfold readCount at taken
  split at taken
  case h_1 reading =>
    rw [reading] at own
    rw [← Option.some.inj taken]
    apply sound.walks
    · exact {
        holds := own.holds
        fresh := fun count read => (Option.some.inj read).symm
        past := own.past
        awaits := own.awaits }
    · rw [reading]
      rfl
  case h_2 reading =>
    rw [reading] at own
    rw [← Option.some.inj taken]
    apply sound.walks
    · exact {
        holds := own.holds
        fresh := fun count read => (Option.some.inj read).symm
        past := own.past
        awaits := own.awaits }
    · rw [reading]
      rfl
  case h_3 => contradiction

theorem after_write_count (sound : Sound state) (taken : writeCount thread state = some after) :
    Sound after := by
  have own := sound.threads thread
  unfold writeCount at taken
  split at taken
  case h_1 count adding =>
    rw [adding] at own
    rw [← Option.some.inj taken]
    apply sound.writes_count
    · rw [adding]
      rfl
    · exact ⟨own.holds, by simp [WaiterPc.readValue], own.past, own.awaits⟩
    · rfl
    · rw [adding, own.fresh count rfl]
      simp [WaiterPc.counted]
  case h_2 count taking =>
    rw [taking] at own
    rw [← Option.some.inj taken]
    apply sound.writes_count
    · rw [taking]
      rfl
    · exact ⟨own.holds, by simp [WaiterPc.readValue], own.past, own.awaits⟩
    · rfl
    · rw [taking, own.fresh count rfl]
      simp [WaiterPc.counted]
  case h_3 => contradiction

theorem after_is_completed (sound : Sound state) (taken : isCompleted thread state = some after) :
    Sound after := by
  have own := sound.threads thread
  unfold isCompleted at taken
  split_ifs at taken with testing
  · rename_i completed
    rw [testing] at own
    rw [← Option.some.inj taken]
    apply sound.walks
    · exact ⟨own.holds, by simp [WaiterPc.readValue], fun _ => completed, own.awaits⟩
    · rw [testing]
      rfl
  · rename_i pending
    rw [testing] at own
    rw [← Option.some.inj taken]
    apply sound.walks
    · exact ⟨own.holds, by simp [WaiterPc.readValue], own.past, fun _ done => absurd done pending⟩
    · rw [testing]
      rfl

theorem after_wait (sound : Sound state) (taken : wait thread state = some after) :
    Sound after := by
  have own := sound.threads thread
  unfold wait at taken
  split_ifs at taken with toWait
  rw [toWait] at own
  rw [← Option.some.inj taken]
  apply sound.gives_monitor
  · rw [toWait]
    rfl
  · exact ⟨by simp [WaiterPc.holds], own.fresh, own.past, own.awaits⟩
  · rfl
  · rw [toWait]
    rfl

theorem after_wait_interrupted (sound : Sound state)
    (taken : waitInterrupted thread state = some after) : Sound after := by
  have own := sound.threads thread
  unfold waitInterrupted at taken
  split_ifs at taken with toWait
  rw [toWait] at own
  rw [← Option.some.inj taken]
  apply sound.walks
  · exact ⟨own.holds, own.fresh, own.past, by simp [WaiterPc.awaits]⟩
  · rw [toWait]
    rfl

theorem after_wake (sound : Sound state) (taken : wake thread state = some after) :
    Sound after := by
  have own := sound.threads thread
  unfold wake at taken
  split_ifs at taken with waiting
  rw [waiting] at own
  rw [← Option.some.inj taken]
  apply sound.walks
  · exact ⟨own.holds, own.fresh, own.past, by simp [WaiterPc.awaits]⟩
  · rw [waiting]
    rfl

theorem after_resume (sound : Sound state) (taken : resume thread state = some after) :
    Sound after := by
  unfold resume at taken
  split_ifs at taken with woken
  rw [← Option.some.inj taken]
  apply sound.takes_monitor woken.2 rfl rfl rfl
  rw [woken.1]
  rfl

theorem after_leave (sound : Sound state) (taken : leave thread state = some after) :
    Sound after := by
  unfold leave at taken
  split_ifs at taken with leaving
  rw [← Option.some.inj taken]
  apply sound.gives_monitor
  · rw [leaving]
    rfl
  · constructor <;> simp [WaiterPc.holds, WaiterPc.readValue, WaiterPc.pastLoop, WaiterPc.awaits]
  · rfl
  · rw [leaving]
    rfl

theorem after_step (sound : Sound state) {label : Label Thread}
    (taken : step state label = some after) : Sound after := by
  cases label with
  | waitUntilCompleted thread => exact sound.after_wait_until_completed taken
  | enter thread => exact sound.after_enter taken
  | readCount thread => exact sound.after_read_count taken
  | writeCount thread => exact sound.after_write_count taken
  | isCompleted thread => exact sound.after_is_completed taken
  | wait thread => exact sound.after_wait taken
  | waitInterrupted thread => exact sound.after_wait_interrupted taken
  | wake thread => exact sound.after_wake taken
  | resume thread => exact sound.after_resume taken
  | leave thread => exact sound.after_leave taken
  | setCompleted => exact sound.after_set_completed taken
  | testCompleted => exact sound.after_test_completed taken
  | notifyCompleted => exact sound.after_notify_completed taken
  | enterNotify => exact sound.after_enter_notify taken
  | notifyAll => exact sound.after_notify_all taken
  | leaveNotify => exact sound.after_leave_notify taken

end Sound

theorem sound_of_reach [DecidableEq Thread] [Fintype Thread] {state : State Thread}
    (reached : Reach step anyStep State.initial state) : Sound state :=
  reached.invariant Sound initial_sound fun _ _ _ inv _ taken => inv.after_step taken

/-- `waitCount` counts threads, so it fits into an int while there are fewer than `2 ^ 31`. -/
theorem wait_count_fits [DecidableEq Thread] [Fintype Thread] {state : State Thread}
    (reached : Reach step anyStep State.initial state) (few : Fintype.card Thread < 2 ^ 31) :
    0 ≤ state.waitCount ∧ state.waitCount < 2 ^ 31 := by
  have counted := (sound_of_reach reached).counted
  have bounded := population_le_card WaiterPc.counted state.waiter
  omega

/-- In every run, a finished `setCompleted` has left nobody in the wait set, and
who returns from `waitUntilCompleted` finds the request completed and leaves
`waitCount` at the number of threads that are still inside. -/
theorem no_lost_wake_up [DecidableEq Thread] [Fintype Thread] {state : State Thread}
    (reached : Reach step anyStep State.initial state) :
    (state.completer = .finished → ∀ thread, state.waiter thread ≠ .waiting) ∧
      ∀ thread after, leave thread state = some after → state.completed = true ∧
        after.waitCount = population WaiterPc.inside after.waiter := by
  have sound := sound_of_reach reached
  refine ⟨sound.nobody_forgotten, ?_⟩
  intro thread after taken
  have left := sound.after_leave taken
  unfold leave at taken
  split_ifs at taken with leaving
  have own := sound.threads thread
  rw [leaving] at own
  refine ⟨own.past rfl, left.inside_counted ?_⟩
  rw [← Option.some.inj taken]

def twoWaiters : List (Label (Fin 2)) :=
  [.waitUntilCompleted 0, .waitUntilCompleted 1, .enter 0, .readCount 0, .writeCount 0,
    .isCompleted 0, .wait 0, .setCompleted, .testCompleted, .notifyCompleted, .enterNotify,
    .notifyAll, .leaveNotify, .enter 1, .readCount 1, .writeCount 1, .isCompleted 1,
    .readCount 1, .writeCount 1]

theorem no_lost_wake_up_two_waiters :
    ∃ state, run step twoWaiters State.initial = some state ∧ state.completer = .finished ∧
      (∀ thread, state.waiter thread ≠ .waiting) ∧
      ∃ after, leave 1 state = some after ∧ state.completed = true ∧
        after.waitCount = population WaiterPc.inside after.waiter ∧ after.waitCount = 1 := by
  obtain ⟨nobody, returns⟩ := no_lost_wake_up (reach_of_run twoWaiters rfl)
  have returned := returns 1 _ rfl
  exact ⟨_, rfl, rfl, nobody rfl, _, rfl, returned.1, returned.2, rfl⟩

end JavaxUsbLinux.WaitLock
