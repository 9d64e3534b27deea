import Mathlib.Logic.Function.Basic
import JavaxUsbLinux.Runs

/-!
# Starting the loop of a device

`getLinuxDeviceProxy` starts the proxy of a device when it is not running.
`start` creates a thread and waits until this thread has tried to open the
device node and called `startCompleted`. The blocks that are synchronized on
`startLock` contain no blocking call apart from the wait itself, so each of
them is one step. The fields from `starter` on only keep the books.
-/

namespace JavaxUsbLinux.ProxyStart

open JavaxUsbLinux.Runs

set_option autoImplicit false

abbrev Caller := Nat

/-- The threads that run `nativeDeviceProxy`. -/
abbrev Loop := Nat

/-- Where a caller of `getLinuxDeviceProxy` is: it has seen that the proxy is
not running, it holds the lock of the proxy, it waits for the loop that it
started, or it is back from the wait. -/
inductive CallerPc where
  | idle
  | checked
  | locked
  | waiting (loop : Loop)
  | woken (loop : Loop)
  deriving DecidableEq

inductive LoopPc where
  | unborn
  | opening
  | opened
  | failed (errno : Int)
  | running
  | returning
  | dead
  deriving DecidableEq

namespace LoopPc

def isAlive : LoopPc → Bool
  | .unborn | .dead => false
  | _ => true

def hasDescriptor : LoopPc → Bool
  | .opened | .running => true
  | _ => false

def starting : LoopPc → Bool
  | .opening | .opened | .failed _ => true
  | _ => false

theorem starting_unopened {pc : LoopPc} (starts : pc.starting = true) (unopened : pc ≠ .opened) :
    pc.hasDescriptor = false ∧ pc ≠ .unborn := by
  cases pc <;> simp_all [starting, hasDescriptor]

end LoopPc

def CallerPc.inStart : CallerPc → Bool
  | .idle | .checked => false
  | _ => true

structure State where
  caller : Caller → CallerPc
  loop : Loop → LoopPc
  created : Nat
  proxyLock : Option Caller
  thread : Option Loop
  startError : Int
  starter : Loop → Caller
  returned : List Loop
  threw : List Loop

namespace State

def initial : State where
  caller _ := .idle
  loop _ := .unborn
  created := 0
  proxyLock := none
  thread := none
  startError := -1
  starter _ := 0
  returned := []
  threw := []

def setCaller (state : State) (caller : Caller) (pc : CallerPc) : State :=
  { state with caller := Function.update state.caller caller pc }

def setLoop (state : State) (loop : Loop) (pc : LoopPc) : State :=
  { state with loop := Function.update state.loop loop pc }

def isRunning (state : State) : Bool :=
  match state.thread with
  | none => false
  | some loop => (state.loop loop).isAlive

end State

def CallerPc.notified : CallerPc → CallerPc
  | .waiting loop => .woken loop
  | pc => pc

def check (caller : Caller) (state : State) : Option State :=
  if state.caller caller = .idle then
    if state.isRunning then some state else some (state.setCaller caller .checked)
  else none

def enter (caller : Caller) (state : State) : Option State :=
  if state.caller caller = .checked ∧ state.proxyLock = none then
    some { state.setCaller caller .locked with proxyLock := some caller }
  else none

def startThread (caller : Caller) (state : State) : Option State :=
  if state.caller caller = .locked then
    some { (state.setCaller caller (.waiting state.created)).setLoop state.created .opening with
      created := state.created + 1
      starter := Function.update state.starter state.created caller }
  else none

/-- The wait ends with an `InterruptedException`, which `start` swallows. -/
def interrupt (caller : Caller) (state : State) : Option State :=
  match state.caller caller with
  | .waiting loop => some (state.setCaller caller (.woken loop))
  | _ => none

def openDevice (loop : Loop) (errno : Int) (state : State) : Option State :=
  if state.loop loop = .opening then
    some (state.setLoop loop (if errno = 0 then .opened else .failed errno))
  else none

def completeStart (loop : Loop) (error : Int) (pc : LoopPc) (state : State) : State :=
  { state.setLoop loop pc with
    startError := error
    caller := fun caller => (state.caller caller).notified }

/-- The call of `startCompleted`; only an open device has its loop run. -/
def startCompleted (loop : Loop) (state : State) : Option State :=
  match state.loop loop with
  | .opened => some (completeStart loop 0 .running state)
  | .failed errno => some (completeStart loop errno .returning state)
  | _ => none

def readError (caller : Caller) (state : State) : Option State :=
  match state.caller caller with
  | .woken loop =>
      if state.startError ≠ 0 then
        some { state.setCaller caller .idle with
          proxyLock := none
          threw := state.threw ++ [loop] }
      else
        some { state.setCaller caller .idle with
          proxyLock := none
          thread := some loop
          returned := state.returned ++ [loop] }
  | _ => none

def exit (loop : Loop) (state : State) : Option State :=
  if state.loop loop = .returning then some (state.setLoop loop .dead) else none

inductive Label where
  | check (caller : Caller)
  | enter (caller : Caller)
  | startThread (caller : Caller)
  | interrupt (caller : Caller)
  | openDevice (loop : Loop) (errno : Int)
  | startCompleted (loop : Loop)
  | readError (caller : Caller)
  | exit (loop : Loop)

def step (state : State) : Label → Option State
  | .check caller => check caller state
  | .enter caller => enter caller state
  | .startThread caller => startThread caller state
  | .interrupt caller => interrupt caller state
  | .openDevice loop errno => openDevice loop errno state
  | .startCompleted loop => startCompleted loop state
  | .readError caller => readError caller state
  | .exit loop => exit loop state

/-- At most one loop has the device open. A `start` that returned has a running
loop to show for it, and one that threw has left no open descriptor behind. -/
structure OneLoop (state : State) : Prop where
  single : ∀ first second, (state.loop first).hasDescriptor = true →
    (state.loop second).hasDescriptor = true → first = second
  returned : ∀ loop ∈ state.returned, ∃ running, state.loop running = .running
  threw : ∀ loop ∈ state.threw, (state.loop loop).hasDescriptor = false

/-- The proxy is still not running when a caller enters. A caller that is
interrupted in its wait leaves a loop behind that does not open the device, and
this loop does not call `startCompleted` while another start is under way. -/
def Undisturbed (state : State) : Label → Prop
  | .enter _ => state.isRunning = false
  | .interrupt caller => ∀ loop, state.caller caller = .waiting loop → state.loop loop ≠ .opened
  | .openDevice loop errno => errno = 0 → state.caller (state.starter loop) = .waiting loop
  | .startCompleted loop => ∀ caller other,
      state.caller caller = .waiting other ∨ state.caller caller = .woken other → other = loop
  | _ => True

/-- What the lock and the handshake guarantee between the steps. -/
structure Ordered (state : State) : Prop where
  holder : ∀ caller, (state.caller caller).inStart = true → state.proxyLock = some caller
  unborn : ∀ loop, state.created ≤ loop → state.loop loop = .unborn
  errno : ∀ loop errno, state.loop loop = .failed errno → errno ≠ 0
  opened : ∀ loop, state.loop loop = .opened → state.caller (state.starter loop) = .waiting loop
  running : ∀ loop, state.loop loop = .running → state.thread = some loop ∨
    (state.caller (state.starter loop) = .woken loop ∧ state.startError = 0)
  locked : ∀ caller, state.caller caller = .locked → ∀ loop, state.loop loop ≠ .running
  waiting : ∀ caller loop, state.caller caller = .waiting loop →
    state.starter loop = caller ∧ (state.loop loop).starting = true ∧
      ∀ other, state.loop other ≠ .running
  woken : ∀ caller loop, state.caller caller = .woken loop →
    state.starter loop = caller ∧
      (state.startError = 0 → state.loop loop = .running ∧
        ∀ other, state.loop other = .running → other = loop) ∧
      (state.startError ≠ 0 → (state.loop loop).hasDescriptor = false ∧
        state.loop loop ≠ .unborn ∧ ∀ other, state.loop other ≠ .running)
  zero : state.startError = 0 → ∃ loop, state.loop loop = .running
  threw : ∀ loop ∈ state.threw, (state.loop loop).hasDescriptor = false ∧
    state.loop loop ≠ .unborn ∧ ∀ caller, state.caller caller ≠ .waiting loop
  returned : ∀ loop ∈ state.returned, state.loop loop = .running

theorem Ordered.initial : Ordered State.initial := by
  constructor <;> simp [State.initial, CallerPc.inStart]

namespace Ordered

variable {state after : State}

theorem alone (ordered : Ordered state) {first second : Caller}
    (one : (state.caller first).inStart = true) (two : (state.caller second).inStart = true) :
    first = second := by
  have held := ordered.holder first one
  rw [ordered.holder second two] at held
  exact (Option.some.inj held).symm

theorem shut_stays {places : Loop → LoopPc} {loop other : Loop} {pc : LoopPc}
    (shut : (places other).hasDescriptor = false) (born : places other ≠ .unborn)
    (moved : other = loop → pc.hasDescriptor = false ∧ pc ≠ .unborn) :
    (Function.update places loop pc other).hasDescriptor = false ∧
      Function.update places loop pc other ≠ .unborn :=
  update_keeps (fun place => LoopPc.hasDescriptor place = false ∧ place ≠ .unborn)
    ⟨shut, born⟩ moved

theorem caller_moved (ordered : Ordered state) {caller : Caller} {pc : CallerPc}
    (lock : Option Caller)
    (was : ∀ loop, state.caller caller ≠ .waiting loop ∧ state.caller caller ≠ .woken loop)
    (new : ∀ loop, pc ≠ .waiting loop ∧ pc ≠ .woken loop)
    (holder : ∀ other, ((state.setCaller caller pc).caller other).inStart = true →
      lock = some other)
    (locked : pc = .locked → ∀ loop, state.loop loop ≠ .running) :
    Ordered { state.setCaller caller pc with proxyLock := lock } where
  holder := holder
  unborn := ordered.unborn
  errno := ordered.errno
  opened loop open_ := update_stays (ordered.opened loop open_) (was loop).1
  running loop runs :=
    (ordered.running loop runs).imp_right fun back => ⟨update_stays back.1 (was loop).2, back.2⟩
  locked other there := by
    rcases update_cases there with ⟨_, here⟩ | ⟨_, before⟩
    · exact locked here
    · exact ordered.locked other before
  waiting other loop there := ordered.waiting other loop (update_was there (new loop).1)
  woken other loop there := ordered.woken other loop (update_was there (new loop).2)
  zero := ordered.zero
  threw loop member := by
    obtain ⟨closed, born, unawaited⟩ := ordered.threw loop member
    exact ⟨closed, born, fun other there => unawaited other (update_was there (new loop).1)⟩
  returned := ordered.returned

theorem after_check (ordered : Ordered state) {caller : Caller}
    (taken : check caller state = some after) : Ordered after := by
  unfold check at taken
  split_ifs at taken with idle running
  · rwa [← Option.some.inj taken]
  · rw [← Option.some.inj taken]
    apply ordered.caller_moved state.proxyLock
    · simp [idle]
    · simp
    · intro other inside
      by_cases same : other = caller
      · simp [State.setCaller, same, CallerPc.inStart] at inside
      · apply ordered.holder other
        simpa [State.setCaller, same] using inside
    · simp

theorem after_enter (ordered : Ordered state) {caller : Caller}
    (stopped : state.isRunning = false)
    (taken : enter caller state = some after) : Ordered after := by
  unfold enter at taken
  split_ifs at taken with free
  rw [← Option.some.inj taken]
  have nobody : ∀ other, (state.caller other).inStart = false := by
    intro other
    by_contra inside
    have held := ordered.holder other (by simpa using inside)
    rw [free.2] at held
    contradiction
  apply ordered.caller_moved (some caller)
  · simp [free.1]
  · simp
  · intro other inside
    by_cases same : other = caller
    · rw [same]
    · simp [State.setCaller, same, nobody] at inside
  · intro _ loop running
    rcases ordered.running loop running with thread | back
    · simp [State.isRunning, thread, running, LoopPc.isAlive] at stopped
    · have inside := nobody (state.starter loop)
      rw [back.1] at inside
      contradiction

theorem only_locked (ordered : Ordered state) {caller : Caller}
    (locked : state.caller caller = .locked) (other : Caller) (loop : Loop) :
    state.caller other ≠ .waiting loop ∧ state.caller other ≠ .woken loop := by
  have inside : (state.caller caller).inStart = true := by rw [locked]; rfl
  constructor
  · intro there
    have same := ordered.alone inside (by rw [there]; rfl)
    rw [← same, locked] at there
    contradiction
  · intro there
    have same := ordered.alone inside (by rw [there]; rfl)
    rw [← same, locked] at there
    contradiction

theorem after_start_thread (ordered : Ordered state) {caller : Caller}
    (taken : startThread caller state = some after) : Ordered after := by
  unfold startThread at taken
  split_ifs at taken with locked
  rw [← Option.some.inj taken]
  have alone := ordered.only_locked locked
  have stopped := ordered.locked caller locked
  have new := ordered.unborn state.created (Nat.le_refl _)
  have stoppedAfter : ∀ loop,
      Function.update state.loop state.created .opening loop ≠ .running :=
    fun loop there => stopped loop (update_was there (by simp))
  exact {
    holder := by
      intro other inside
      by_cases same : other = caller
      · rw [same]
        exact ordered.holder caller (by rw [locked]; rfl)
      · apply ordered.holder other
        simpa [State.setCaller, State.setLoop, same] using inside
    unborn := by
      intro loop beyond
      have later : state.created < loop := beyond
      change Function.update state.loop state.created .opening loop = .unborn
      rw [Function.update_of_ne (Nat.ne_of_gt later)]
      exact ordered.unborn loop (Nat.le_of_lt later)
    errno := fun loop errno there => ordered.errno loop errno (update_was there (by simp))
    opened := by
      intro loop there
      have before := ordered.opened loop (update_was there (by simp))
      exact absurd before (alone _ loop).1
    running := fun loop there => absurd there (stoppedAfter loop)
    locked := fun _ _ => stoppedAfter
    waiting := by
      intro other loop there
      rcases update_cases there with ⟨rfl, here⟩ | ⟨_, before⟩
      · obtain rfl := CallerPc.waiting.inj here
        refine ⟨Function.update_self _ _ _, ?_, stoppedAfter⟩
        change (Function.update state.loop state.created .opening state.created).starting = true
        rw [Function.update_self]
        rfl
      · exact absurd before (alone other loop).1
    woken := fun other loop there => absurd (update_was there (by simp)) (alone other loop).2
    zero := by
      intro zero
      obtain ⟨loop, running⟩ := ordered.zero zero
      exact absurd running (stopped loop)
    threw := by
      intro loop member
      obtain ⟨closed, born, unawaited⟩ := ordered.threw loop member
      have other : loop ≠ state.created := fun same => born (same ▸ new)
      refine and_assoc.mp ⟨shut_stays closed born fun same => absurd same other, ?_⟩
      intro waiter there
      rcases update_cases there with ⟨_, here⟩ | ⟨_, before⟩
      · exact other (CallerPc.waiting.inj here).symm
      · exact unawaited waiter before
    returned := fun loop member => absurd (ordered.returned loop member) (stopped loop) }

theorem after_interrupt (ordered : Ordered state) {caller : Caller}
    (unopened : ∀ loop, state.caller caller = .waiting loop → state.loop loop ≠ .opened)
    (taken : interrupt caller state = some after) : Ordered after := by
  unfold interrupt at taken
  split at taken
  case h_2 => contradiction
  case h_1 loop waits =>
    rw [← Option.some.inj taken]
    obtain ⟨started, starting, stopped⟩ := ordered.waiting caller loop waits
    have closed := unopened loop waits
    have shut := LoopPc.starting_unopened starting closed
    exact {
      holder := by
        intro other inside
        by_cases same : other = caller
        · rw [same]
          exact ordered.holder caller (by rw [waits]; rfl)
        · apply ordered.holder other
          simpa [State.setCaller, same] using inside
      unborn := ordered.unborn
      errno := ordered.errno
      opened := by
        intro other there
        apply update_stays (ordered.opened other there)
        intro here
        rw [waits] at here
        exact closed (CallerPc.waiting.inj here ▸ there)
      running := fun other there => absurd there (stopped other)
      locked := fun other there => ordered.locked other (update_was there (by simp))
      waiting := fun other awaited there =>
        ordered.waiting other awaited (update_was there (by simp))
      woken := by
        intro other awaited there
        rcases update_cases there with ⟨rfl, here⟩ | ⟨_, before⟩
        · obtain rfl := CallerPc.woken.inj here
          refine ⟨started, ?_, ?_⟩
          · intro zero
            obtain ⟨running, runs⟩ := ordered.zero zero
            exact absurd runs (stopped running)
          · intro _
            exact ⟨shut.1, shut.2, stopped⟩
        · exact ordered.woken other awaited before
      zero := ordered.zero
      threw := by
        intro other member
        obtain ⟨shut, born, unawaited⟩ := ordered.threw other member
        exact ⟨shut, born, fun waiter there => unawaited waiter (update_was there (by simp))⟩
      returned := ordered.returned }

/-- A loop whose starter does not wait any more may only fail to open the device. -/
theorem after_open_device (ordered : Ordered state) {loop : Loop} {errno : Int}
    (awaited : errno = 0 → state.caller (state.starter loop) = .waiting loop)
    (taken : openDevice loop errno state = some after) : Ordered after := by
  unfold openDevice at taken
  rw [Option.ite_none_right_eq_some] at taken
  obtain ⟨opening, taken⟩ := taken
  rw [← Option.some.inj taken]
  let pc : LoopPc := if errno = 0 then .opened else .failed errno
  have running : ∀ other, state.loop other = .running →
      Function.update state.loop loop pc other = .running :=
    fun other runs => update_stays runs (by simp [opening])
  have stopped : ∀ other, Function.update state.loop loop pc other = .running →
      state.loop other = .running :=
    fun other runs => update_was runs (by simp only [pc]; split_ifs <;> simp)
  have closed : (errno = 0 → False) → pc.hasDescriptor = false ∧ pc ≠ .unborn := by
    intro failed
    simp only [pc, if_neg failed]
    exact ⟨rfl, by simp⟩
  change Ordered (state.setLoop loop pc)
  exact {
    holder := ordered.holder
    unborn := fun other beyond => update_stays (ordered.unborn other beyond) (by simp [opening])
    errno := by
      intro other code there
      rcases update_cases there with ⟨_, here⟩ | ⟨_, before⟩
      · simp only [pc] at here
        split_ifs at here with success
        rwa [← LoopPc.failed.inj here]
      · exact ordered.errno other code before
    opened := by
      intro other there
      rcases update_cases there with ⟨rfl, here⟩ | ⟨_, before⟩
      · apply awaited
        by_contra failed
        simp [pc, failed] at here
      · exact ordered.opened other before
    running := fun other there => ordered.running other (stopped other there)
    locked := fun caller there other runs =>
      ordered.locked caller there other (stopped other runs)
    waiting := by
      intro caller other there
      obtain ⟨started, starting, noneRunning⟩ := ordered.waiting caller other there
      refine ⟨started, ?_, fun another runs => noneRunning another (stopped another runs)⟩
      apply update_keeps (fun place => LoopPc.starting place = true) starting
      intro _
      simp only [pc]
      split_ifs <;> rfl
    woken := by
      intro caller other there
      obtain ⟨started, success, failure⟩ := ordered.woken caller other there
      refine ⟨started, ?_, ?_⟩
      · intro zero
        obtain ⟨runs, only⟩ := success zero
        exact ⟨running other runs, fun another again => only another (stopped another again)⟩
      · intro nonzero
        obtain ⟨shut, wasBorn, noneRunning⟩ := failure nonzero
        refine and_assoc.mp ⟨shut_stays shut wasBorn ?_,
          fun another runs => noneRunning another (stopped another runs)⟩
        rintro rfl
        apply closed
        intro opens
        have waits := awaited opens
        rw [started] at waits
        exact absurd (waits.symm.trans there) (by simp)
    zero := fun zero => (ordered.zero zero).imp running
    threw := by
      intro other member
      obtain ⟨shut, wasBorn, unawaited⟩ := ordered.threw other member
      refine and_assoc.mp ⟨shut_stays shut wasBorn ?_, unawaited⟩
      rintro rfl
      exact closed fun opens => unawaited _ (awaited opens)
    returned := fun other member => running other (ordered.returned other member) }

theorem notified_in_start (pc : CallerPc) : pc.notified.inStart = pc.inStart := by
  cases pc <;> rfl

theorem not_waiting_notified (pc : CallerPc) (loop : Loop) : pc.notified ≠ .waiting loop := by
  cases pc <;> simp [CallerPc.notified]

theorem notified_locked {pc : CallerPc} (there : pc.notified = .locked) : pc = .locked := by
  cases pc <;> simp_all [CallerPc.notified]

theorem notified_woken {pc : CallerPc} {loop : Loop} (there : pc.notified = .woken loop) :
    pc = .waiting loop ∨ pc = .woken loop := by
  cases pc <;> simp_all [CallerPc.notified]

theorem start_succeeds (ordered : Ordered state) {loop : Loop}
    (opened : state.loop loop = .opened) : Ordered (completeStart loop 0 .running state) := by
  have waits := ordered.opened loop opened
  obtain ⟨_, _, stopped⟩ := ordered.waiting _ loop waits
  have inside : (state.caller (state.starter loop)).inStart = true := by rw [waits]; rfl
  have only : ∀ caller, (state.caller caller).inStart = true → caller = state.starter loop :=
    fun caller there => ordered.alone there inside
  have alone : ∀ other, Function.update state.loop loop .running other = .running →
      other = loop := by
    intro other there
    rcases update_cases there with ⟨same, _⟩ | ⟨_, before⟩
    · exact same
    · exact absurd before (stopped other)
  have self : Function.update state.loop loop .running loop = .running :=
    Function.update_self _ _ _
  have woken : (state.caller (state.starter loop)).notified = .woken loop := by
    rw [waits]
    rfl
  exact {
    holder := fun caller there =>
      ordered.holder caller ((notified_in_start (state.caller caller)).symm.trans there)
    unborn := fun other beyond => update_stays (ordered.unborn other beyond) (by simp [opened])
    errno := fun other errno there => ordered.errno other errno (update_was there (by simp))
    opened := by
      intro other there
      rcases update_cases there with ⟨_, here⟩ | ⟨different, before⟩
      · contradiction
      · have also := ordered.opened other before
        have same := only (state.starter other) (by rw [also]; rfl)
        rw [same, waits] at also
        exact absurd (CallerPc.waiting.inj also).symm different
    running := by
      intro other there
      rw [alone other there]
      exact Or.inr ⟨woken, rfl⟩
    locked := by
      intro caller there
      have before := notified_locked there
      rw [only caller (by rw [before]; rfl), waits] at before
      contradiction
    waiting := fun caller other there => absurd there (not_waiting_notified _ other)
    woken := by
      intro caller other there
      have isStarter := only caller (by
        rw [← notified_in_start, show (state.caller caller).notified = .woken other from there]
        rfl)
      have here : (state.caller caller).notified = .woken other := there
      rw [isStarter, woken] at here
      obtain rfl := CallerPc.woken.inj here
      exact ⟨isStarter.symm, fun _ => ⟨self, alone⟩, fun nonzero => absurd rfl nonzero⟩
    zero := fun _ => ⟨loop, self⟩
    threw := by
      intro other member
      obtain ⟨closed, born, unawaited⟩ := ordered.threw other member
      have different : other ≠ loop := by
        intro same
        exact unawaited _ (same ▸ waits)
      exact and_assoc.mp ⟨shut_stays closed born fun same => absurd same different,
        fun caller => not_waiting_notified _ other⟩
    returned := fun other member => absurd (ordered.returned other member) (stopped other) }

theorem start_fails (ordered : Ordered state) {loop : Loop} {errno : Int}
    (failed : state.loop loop = .failed errno)
    (own : ∀ caller other, state.caller caller = .waiting other ∨
      state.caller caller = .woken other → other = loop) :
    Ordered (completeStart loop errno .returning state) := by
  have nonzero := ordered.errno loop errno failed
  have stopped : ∀ other, Function.update state.loop loop .returning other = .running →
      state.loop other = .running := fun other there => update_was there (by simp)
  exact {
    holder := fun caller there =>
      ordered.holder caller ((notified_in_start (state.caller caller)).symm.trans there)
    unborn := fun other beyond => update_stays (ordered.unborn other beyond) (by simp [failed])
    errno := fun other code there => ordered.errno other code (update_was there (by simp))
    opened := by
      intro other there
      have before := update_was there (by simp)
      have same := own _ other (Or.inl (ordered.opened other before))
      rw [same, failed] at before
      contradiction
    running := by
      intro other there
      have before := stopped other there
      rcases ordered.running other before with thread | ⟨back, _⟩
      · exact Or.inl thread
      · rw [own _ other (Or.inr back), failed] at before
        contradiction
    locked := fun caller there other runs =>
      ordered.locked caller (notified_locked there) other (stopped other runs)
    waiting := fun caller other there => absurd there (not_waiting_notified _ other)
    woken := by
      intro caller other there
      have before := notified_woken there
      obtain rfl := own caller other before
      have facts : state.starter other = caller ∧ ∀ another, state.loop another ≠ .running := by
        rcases before with waits | back
        · exact ⟨(ordered.waiting caller other waits).1, (ordered.waiting caller other waits).2.2⟩
        · obtain ⟨started, success, failure⟩ := ordered.woken caller other back
          refine ⟨started, (failure ?_).2.2⟩
          intro zero
          rw [(success zero).1] at failed
          contradiction
      refine ⟨facts.1, fun zero => absurd zero nonzero, fun _ => ?_⟩
      change (Function.update state.loop other .returning other).hasDescriptor = false ∧
        Function.update state.loop other .returning other ≠ .unborn ∧ _
      rw [Function.update_self]
      exact ⟨rfl, by simp, fun another runs => facts.2 another (stopped another runs)⟩
    zero := fun zero => absurd zero nonzero
    threw := by
      intro other member
      obtain ⟨closed, born, _⟩ := ordered.threw other member
      exact and_assoc.mp ⟨shut_stays closed born fun _ => ⟨rfl, by simp⟩,
        fun caller => not_waiting_notified _ other⟩
    returned := fun other member =>
      update_stays (ordered.returned other member) (by simp [failed]) }

theorem after_start_completed (ordered : Ordered state) {loop : Loop}
    (own : ∀ caller other, state.caller caller = .waiting other ∨
      state.caller caller = .woken other → other = loop)
    (taken : startCompleted loop state = some after) : Ordered after := by
  unfold startCompleted at taken
  split at taken
  case h_1 opened =>
    rw [← Option.some.inj taken]
    exact ordered.start_succeeds opened
  case h_2 errno failed =>
    rw [← Option.some.inj taken]
    exact ordered.start_fails failed own
  case h_3 => contradiction

theorem left_start (ordered : Ordered state) {caller : Caller} {loop : Loop}
    (woken : state.caller caller = .woken loop) (other : Caller) :
    (Function.update state.caller caller .idle other).inStart = false := by
  by_cases same : other = caller
  · rw [same, Function.update_self]
    rfl
  · rw [Function.update_of_ne same]
    by_contra inside
    exact same (ordered.alone (by simpa using inside) (by rw [woken]; rfl))

theorem nobody_inside (ordered : Ordered state) {caller : Caller} {loop : Loop}
    (woken : state.caller caller = .woken loop) (other : Caller) (pc : CallerPc)
    (inside : pc.inStart = true) : Function.update state.caller caller .idle other ≠ pc := by
  intro there
  rw [← there, ordered.left_start woken other] at inside
  contradiction

theorem none_opened (ordered : Ordered state) {caller : Caller} {loop : Loop}
    (woken : state.caller caller = .woken loop) (other : Loop) : state.loop other ≠ .opened := by
  intro there
  have waits := ordered.opened other there
  have same := ordered.alone (by rw [waits]; rfl) (by rw [woken]; rfl)
  rw [same, woken] at waits
  contradiction

theorem start_throws (ordered : Ordered state) {caller : Caller} {loop : Loop}
    (woken : state.caller caller = .woken loop) (nonzero : state.startError ≠ 0) :
    Ordered { state.setCaller caller .idle with
      proxyLock := none
      threw := state.threw ++ [loop] } := by
  obtain ⟨_, _, failure⟩ := ordered.woken caller loop woken
  obtain ⟨closed, born, stopped⟩ := failure nonzero
  have left := ordered.left_start woken
  have nobody := ordered.nobody_inside woken
  have noneOpened := ordered.none_opened woken
  exact {
    holder := fun other there => absurd ((left other).symm.trans there) (by simp)
    unborn := ordered.unborn
    errno := ordered.errno
    opened := fun other there => absurd there (noneOpened other)
    running := fun other there => absurd there (stopped other)
    locked := fun other there => absurd there (nobody other _ rfl)
    waiting := fun other another there => absurd there (nobody other _ rfl)
    woken := fun other another there => absurd there (nobody other _ rfl)
    zero := fun zero => absurd zero nonzero
    threw := by
      intro other member
      have unawaited : ∀ waiter, Function.update state.caller caller .idle waiter ≠
          .waiting other := fun waiter => nobody waiter _ rfl
      rcases List.mem_append.mp member with earlier | now
      · obtain ⟨shut, wasBorn, _⟩ := ordered.threw other earlier
        exact ⟨shut, wasBorn, unawaited⟩
      · rw [List.mem_singleton.mp now] at unawaited ⊢
        exact ⟨closed, born, unawaited⟩
    returned := ordered.returned }

theorem start_returns (ordered : Ordered state) {caller : Caller} {loop : Loop}
    (woken : state.caller caller = .woken loop) (zero : state.startError = 0) :
    Ordered { state.setCaller caller .idle with
      proxyLock := none
      thread := some loop
      returned := state.returned ++ [loop] } := by
  obtain ⟨_, success, _⟩ := ordered.woken caller loop woken
  obtain ⟨runs, only⟩ := success zero
  have left := ordered.left_start woken
  have nobody := ordered.nobody_inside woken
  have noneOpened := ordered.none_opened woken
  exact {
    holder := fun other there => absurd ((left other).symm.trans there) (by simp)
    unborn := ordered.unborn
    errno := ordered.errno
    opened := fun other there => absurd there (noneOpened other)
    running := fun other there => Or.inl (congrArg some (only other there).symm)
    locked := fun other there => absurd there (nobody other _ rfl)
    waiting := fun other another there => absurd there (nobody other _ rfl)
    woken := fun other another there => absurd there (nobody other _ rfl)
    zero := ordered.zero
    threw := by
      intro other member
      obtain ⟨shut, born, _⟩ := ordered.threw other member
      exact ⟨shut, born, fun waiter => nobody waiter _ rfl⟩
    returned := by
      intro other member
      rcases List.mem_append.mp member with earlier | now
      · exact ordered.returned other earlier
      · rw [List.mem_singleton.mp now]
        exact runs }

theorem after_read_error (ordered : Ordered state) {caller : Caller}
    (taken : readError caller state = some after) : Ordered after := by
  unfold readError at taken
  split at taken
  case h_1 loop woken =>
    split_ifs at taken with nonzero
    · rw [← Option.some.inj taken]
      exact ordered.start_throws woken nonzero
    · rw [← Option.some.inj taken]
      exact ordered.start_returns woken (Decidable.of_not_not nonzero)
  case h_2 => contradiction

theorem after_exit (ordered : Ordered state) {loop : Loop}
    (taken : exit loop state = some after) : Ordered after := by
  unfold exit at taken
  split_ifs at taken with returning
  rw [← Option.some.inj taken]
  have stopped : ∀ other, Function.update state.loop loop .dead other = .running →
      state.loop other = .running := fun other there => update_was there (by simp)
  have closed : ∀ other, (state.loop other).hasDescriptor = false →
      state.loop other ≠ .unborn →
        (Function.update state.loop loop .dead other).hasDescriptor = false ∧
          Function.update state.loop loop .dead other ≠ .unborn :=
    fun other shut born => shut_stays shut born fun _ => ⟨rfl, by simp⟩
  exact {
    holder := ordered.holder
    unborn := fun other beyond => update_stays (ordered.unborn other beyond) (by simp [returning])
    errno := fun other errno there => ordered.errno other errno (update_was there (by simp))
    opened := fun other there => ordered.opened other (update_was there (by simp))
    running := fun other there => ordered.running other (stopped other there)
    locked := fun caller there other runs => ordered.locked caller there other (stopped other runs)
    waiting := by
      intro caller other there
      obtain ⟨started, starting, noneRunning⟩ := ordered.waiting caller other there
      refine ⟨started, ?_, fun another runs => noneRunning another (stopped another runs)⟩
      have different : other ≠ loop := by
        intro same
        rw [same, returning] at starting
        contradiction
      exact update_keeps (fun place => LoopPc.starting place = true) starting
        fun same => absurd same different
    woken := by
      intro caller other there
      obtain ⟨started, success, failure⟩ := ordered.woken caller other there
      refine ⟨started, ?_, ?_⟩
      · intro zero
        obtain ⟨runs, only⟩ := success zero
        exact ⟨update_stays runs (by simp [returning]),
          fun another again => only another (stopped another again)⟩
      · intro nonzero
        obtain ⟨shut, born, noneRunning⟩ := failure nonzero
        exact and_assoc.mp ⟨closed other shut born,
          fun another runs => noneRunning another (stopped another runs)⟩
    zero := fun zero => (ordered.zero zero).imp
      fun other runs => update_stays runs (by simp [returning])
    threw := by
      intro other member
      obtain ⟨shut, born, unawaited⟩ := ordered.threw other member
      exact and_assoc.mp ⟨closed other shut born, unawaited⟩
    returned := fun other member =>
      update_stays (ordered.returned other member) (by simp [returning]) }

theorem after_step (ordered : Ordered state) {label : Label} (allowed : Undisturbed state label)
    (taken : step state label = some after) : Ordered after := by
  cases label with
  | check caller => exact ordered.after_check taken
  | enter caller => exact ordered.after_enter allowed taken
  | startThread caller => exact ordered.after_start_thread taken
  | interrupt caller => exact ordered.after_interrupt allowed taken
  | openDevice loop errno => exact ordered.after_open_device allowed taken
  | startCompleted loop => exact ordered.after_start_completed allowed taken
  | readError caller => exact ordered.after_read_error taken
  | exit loop => exact ordered.after_exit taken

/-- An open descriptor is on its way to the caller that waits for it, or the
loop is the one that the proxy knows. -/
theorem one_loop (ordered : Ordered state) : OneLoop state where
  single first second one two := by
    have position : ∀ loop, (state.loop loop).hasDescriptor = true →
        state.loop loop = .opened ∨ state.loop loop = .running := by
      intro loop held
      cases pc : state.loop loop <;> simp [pc, LoopPc.hasDescriptor] at held ⊢
    have notBoth : ∀ loop other, state.loop loop = .opened → state.loop other ≠ .running :=
      fun loop other opened => (ordered.waiting _ loop (ordered.opened loop opened)).2.2 other
    rcases position first one with opened | running
    · rcases position second two with also | runs
      · have waits := ordered.opened first opened
        have waitsToo := ordered.opened second also
        have same := ordered.alone (by rw [waits]; rfl) (by rw [waitsToo]; rfl)
        rw [same, waitsToo] at waits
        exact (CallerPc.waiting.inj waits).symm
      · exact absurd runs (notBoth first second opened)
    · rcases position second two with opened | runs
      · exact absurd running (notBoth second first opened)
      · rcases ordered.running first running with known | ⟨back, zero⟩
        · rcases ordered.running second runs with knownToo | ⟨back, zero⟩
          · rw [known] at knownToo
            exact Option.some.inj knownToo
          · exact (((ordered.woken _ second back).2.1 zero).2 first running)
        · exact (((ordered.woken _ first back).2.1 zero).2 second runs).symm
  returned loop member := ⟨loop, ordered.returned loop member⟩
  threw loop member := (ordered.threw loop member).1

end Ordered

/-- In every run in which no start is disturbed, at most one loop has the
device open, and every call of `start` has told its caller the truth. -/
theorem one_loop_per_device {state : State} (reached : Reach step Undisturbed State.initial state) :
    OneLoop state := by
  have ordered := reached.invariant Ordered Ordered.initial
    fun before label after inv allowed taken => inv.after_step allowed taken
  exact ordered.one_loop

theorem Ordered.announces {state : State} (ordered : Ordered state) (caller : Caller)
    (loop : Loop) (waits : state.caller caller = .waiting loop) :
    Undisturbed state (.startCompleted loop) := by
  intro other another inside
  have same : other = caller := by
    apply ordered.alone _ (by rw [waits]; rfl)
    rcases inside with there | there <;> rw [there] <;> rfl
  rw [same, waits] at inside
  rcases inside with there | there
  · exact (CallerPc.waiting.inj there).symm
  · contradiction

/-- A test that a step disturbs no start, which leaves `startCompleted` aside. -/
def quietStep (state : State) : Label → Bool
  | .enter _ => !state.isRunning
  | .interrupt _ | .startCompleted _ => false
  | .openDevice loop errno => decide (errno = 0 → state.caller (state.starter loop) = .waiting loop)
  | _ => true

theorem quiet_step_passes (state : State) (label : Label) (quiet : quietStep state label = true) :
    Undisturbed state label := by
  cases label with
  | enter caller => simpa [quietStep, Undisturbed] using quiet
  | interrupt caller => simp [quietStep] at quiet
  | startCompleted loop => simp [quietStep] at quiet
  | openDevice loop errno =>
      simp only [quietStep, decide_eq_true_eq] at quiet
      exact quiet
  | _ => trivial

def startedOnce : List Label :=
  [.check 0, .enter 0, .startThread 0, .openDevice 0 0, .startCompleted 0, .readError 0, .check 1]

theorem one_loop_per_device_started :
    ∃ state, run step startedOnce State.initial = some state ∧ state.returned = [0] ∧
      OneLoop state := by
  have begins : Reach step Undisturbed State.initial State.initial := .start
  have opened := reach_of_checked quiet_step_passes
    [.check 0, .enter 0, .startThread 0, .openDevice 0 0] begins rfl
  have ordered := opened.invariant Ordered Ordered.initial
    fun before label after inv allowed taken => inv.after_step allowed taken
  have completed := Reach.next opened (ordered.announces 0 0 rfl) rfl
  have ended := reach_of_checked quiet_step_passes [.readError 0, .check 1] completed rfl
  exact ⟨_, rfl, rfl, one_loop_per_device ended⟩

def twoCallers : List Label :=
  [.check 0, .check 1, .enter 0, .startThread 0, .openDevice 0 0, .startCompleted 0,
    .readError 0, .enter 1, .startThread 1, .openDevice 1 0]

/-- The caller is interrupted before the device is open. -/
def interruptedCaller : List Label :=
  [.check 0, .enter 0, .startThread 0, .interrupt 0, .readError 0, .openDevice 0 0,
    .startCompleted 0]

/-- The first run ends with two open descriptors, the second one with a running
loop whose start has thrown. -/
theorem two_loops_on_one_device :
    (∃ state, Reach step anyStep State.initial state ∧ state.loop 0 = .running ∧
      state.loop 1 = .opened ∧ ¬ OneLoop state) ∧
    ∃ state, Reach step anyStep State.initial state ∧ state.threw = [0] ∧
      state.loop 0 = .running ∧ ¬ OneLoop state := by
  constructor
  · refine ⟨_, reach_of_run twoCallers rfl, rfl, rfl, ?_⟩
    intro truthful
    exact absurd (truthful.single 0 1 rfl rfl) (by decide)
  · refine ⟨_, reach_of_run interruptedCaller rfl, rfl, rfl, ?_⟩
    intro truthful
    have closed := truthful.threw 0 (List.mem_singleton.mpr rfl)
    contradiction

end JavaxUsbLinux.ProxyStart
