import JavaxUsbLinux.Runs

/-!
# Access to the root hub

`getUsbRootHub` starts the topology listener when it is not alive and then
waits once on `topologyLock`; otherwise it goes straight to the two result
fields. The blocks that are synchronized on `topologyLock` contain no blocking
call apart from the wait, so each is one step; the monitor of the services
object stays with the caller, also while it waits. `stored`, `enumerated` and
`outcomes` only keep the books.
-/

namespace JavaxUsbLinux.RootHubAccess

open JavaxUsbLinux.Runs

set_option autoImplicit false

abbrev Caller := Nat

/-- Where a call of `getUsbRootHub` is: in the wait, past the `if` block, or
past the test of `topologyListenerError`. -/
inductive CallerPc where
  | idle
  | waiting
  | checked
  | errorRead
  deriving DecidableEq

/-- The thread in the field `topologyListener`. On its exit it sets the error,
notifies the waiting caller, and dies. -/
inductive ListenerPc where
  | unstarted
  | running
  | exiting
  | notified
  | dead
  deriving DecidableEq

def ListenerPc.isAlive : ListenerPc → Bool
  | .unstarted | .dead => false
  | _ => true

/-- The thread of `topologyUpdateManager` in a run of `updateTopology`. -/
inductive UpdatePc where
  | idle
  | scanning
  | stored (result : Int)
  deriving DecidableEq

/-- How a call ended; a hub comes with whether an update run had finished with result 0. -/
inductive Outcome where
  | hub (enumerated : Bool)
  | usbException
  deriving DecidableEq

structure State where
  caller : Caller → CallerPc
  monitor : Option Caller
  listener : ListenerPc
  pending : Nat
  update : UpdatePc
  topologyListenerError : Int
  topologyUpdateResult : Int
  stored : Bool
  enumerated : Bool
  outcomes : List Outcome

namespace State

def initial : State where
  caller _ := .idle
  monitor := none
  listener := .unstarted
  pending := 0
  update := .idle
  topologyListenerError := 0
  topologyUpdateResult := 0
  stored := false
  enumerated := false
  outcomes := []

def setCaller (state : State) (caller : Caller) (pc : CallerPc) : State :=
  { state with caller := Function.update state.caller caller pc }

def finish (state : State) (caller : Caller) (outcome : Outcome) : State :=
  { state.setCaller caller .idle with
    monitor := none
    outcomes := state.outcomes ++ [outcome] }

end State

def CallerPc.notified : CallerPc → CallerPc
  | .waiting => .checked
  | pc => pc

def notifyAll (state : State) : State :=
  { state with caller := fun caller => (state.caller caller).notified }

/-- The call up to the end of the `if` block, or up to the wait in it.
`loaded` says that `loadLibrary` does not throw. -/
def enter (caller : Caller) (loaded : Bool) (state : State) : Option State :=
  if state.caller caller = .idle ∧ state.monitor = none then
    if loaded then
      if state.listener.isAlive then
        some { state.setCaller caller .checked with monitor := some caller }
      else
        some { state.setCaller caller .waiting with
          monitor := some caller
          listener := .running
          topologyListenerError := 0 }
    else some (state.finish caller .usbException)
  else none

def interrupt (caller : Caller) (state : State) : Option State :=
  if state.caller caller = .waiting then some (state.finish caller .usbException) else none

def readError (caller : Caller) (state : State) : Option State :=
  if state.caller caller = .checked then
    if state.topologyListenerError ≠ 0 then some (state.finish caller .usbException)
    else some (state.setCaller caller .errorRead)
  else none

def readResult (caller : Caller) (state : State) : Option State :=
  if state.caller caller = .errorRead then
    if state.topologyUpdateResult ≠ 0 then some (state.finish caller .usbException)
    else some (state.finish caller (.hub state.enumerated))
  else none

def topologyChange (state : State) : Option State :=
  if state.listener = .running then some { state with pending := state.pending + 1 } else none

def listenerExit (error : Int) (state : State) : Option State :=
  if state.listener = .running then
    some { state with listener := .exiting, topologyListenerError := error }
  else none

def listenerNotify (state : State) : Option State :=
  if state.listener = .exiting then some { notifyAll state with listener := .notified } else none

def listenerDie (state : State) : Option State :=
  if state.listener = .notified then some { state with listener := .dead } else none

def beginUpdate (state : State) : Option State :=
  match state.update, state.pending with
  | .idle, pending + 1 => some { state with update := .scanning, pending := pending }
  | _, _ => none

def storeResult (result : Int) (state : State) : Option State :=
  if state.update = .scanning then
    some { state with update := .stored result, topologyUpdateResult := result, stored := true }
  else none

def finishUpdate (state : State) : Option State :=
  match state.update with
  | .stored result => some { notifyAll state with
      update := .idle
      enumerated := state.enumerated || result = 0 }
  | _ => none

inductive Label where
  | enter (caller : Caller) (loaded : Bool)
  | interrupt (caller : Caller)
  | readError (caller : Caller)
  | readResult (caller : Caller)
  | topologyChange
  | listenerExit (error : Int)
  | listenerNotify
  | listenerDie
  | beginUpdate
  | storeResult (result : Int)
  | finishUpdate

def step (state : State) : Label → Option State
  | .enter caller loaded => enter caller loaded state
  | .interrupt caller => interrupt caller state
  | .readError caller => readError caller state
  | .readResult caller => readResult caller state
  | .topologyChange => topologyChange state
  | .listenerExit error => listenerExit error state
  | .listenerNotify => listenerNotify state
  | .listenerDie => listenerDie state
  | .beginUpdate => beginUpdate state
  | .storeResult result => storeResult result state
  | .finishUpdate => finishUpdate state

/-- Until an update has stored its result, no wait is interrupted and no
listener exits without an error. The result of an update is not read while the
update that stored 0 is still running, unless an earlier one has finished with 0. -/
def Orderly (state : State) : Label → Prop
  | .interrupt _ => state.stored = true
  | .listenerExit error => error ≠ 0 ∨ state.stored = true
  | .readResult _ => state.update = .stored 0 → state.enumerated = true
  | _ => True

/-- What a caller that gets as far as the result fields can rely on. -/
structure Evident (state : State) : Prop where
  holder : ∀ caller, state.caller caller ≠ .idle → state.monitor = some caller
  stored : ∀ result, state.update = .stored result → state.stored = true
  result : state.stored = true → state.topologyUpdateResult = 0 →
    state.enumerated = true ∨ state.update = .stored 0
  listening : state.listener.isAlive = true → state.stored = true ∨
    state.topologyListenerError ≠ 0 ∨
    ∃ caller, state.monitor = some caller ∧ state.caller caller = .waiting
  exiting : state.listener = .exiting → state.stored = true ∨ state.topologyListenerError ≠ 0
  checked : ∀ caller, state.caller caller = .checked →
    state.stored = true ∨ state.topologyListenerError ≠ 0
  errorRead : ∀ caller, state.caller caller = .errorRead → state.stored = true
  outcomes : .hub false ∉ state.outcomes

theorem Evident.initial : Evident State.initial := by
  constructor <;> simp [State.initial, ListenerPc.isAlive]

namespace Evident

variable {state after : State}

/-- Only the holder of the monitor is under way, so when it ends nobody is. -/
theorem nobody (evident : Evident state) {caller : Caller}
    (holds : state.monitor = none ∨ state.monitor = some caller) (other : Caller) :
    Function.update state.caller caller .idle other = .idle := by
  by_cases same : other = caller
  · rw [same, Function.update_self]
  · rw [Function.update_of_ne same]
    by_contra under
    have held := evident.holder other under
    rcases holds with free | mine
    · rw [free] at held
      contradiction
    · rw [mine] at held
      exact same (Option.some.inj held).symm

theorem finishes (evident : Evident state) {caller : Caller} {outcome : Outcome}
    (holds : state.monitor = none ∨ state.monitor = some caller)
    (quiet : state.caller caller = .waiting → state.stored = true)
    (truthful : outcome ≠ .hub false) : Evident (state.finish caller outcome) := by
  have nobody := evident.nobody holds
  have gone : ∀ {pc : CallerPc} (other : Caller),
      Function.update state.caller caller .idle other = pc → pc = .idle :=
    fun {pc} other there => there.symm.trans (nobody other)
  exact {
    holder := fun other under => absurd (nobody other) under
    stored := evident.stored
    result := evident.result
    listening := by
      intro alive
      rcases evident.listening alive with stored | failed | ⟨waiter, mine, waits⟩
      · exact Or.inl stored
      · exact Or.inr (Or.inl failed)
      · left
        apply quiet
        rcases holds with free | held
        · rw [free] at mine
          contradiction
        · rw [held] at mine
          rwa [Option.some.inj mine]
    exiting := evident.exiting
    checked := fun other there => absurd (gone other there) (by simp)
    errorRead := fun other there => absurd (gone other there) (by simp)
    outcomes := by
      intro member
      rcases List.mem_append.mp member with earlier | now
      · exact evident.outcomes earlier
      · exact truthful (List.mem_singleton.mp now).symm }

/-- A call that has the monitor moves on. -/
theorem moves (evident : Evident state) {caller : Caller} {pc : CallerPc}
    (holds : state.monitor = none ∨ state.monitor = some caller)
    (notWaiting : state.caller caller ≠ .waiting)
    (checked : pc = .checked → state.stored = true ∨ state.topologyListenerError ≠ 0)
    (errorRead : pc = .errorRead → state.stored = true) :
    Evident { state.setCaller caller pc with monitor := some caller } where
  holder other under := by
    by_cases same : other = caller
    · rw [same]
    · have before : state.caller other ≠ .idle := by
        simpa [State.setCaller, Function.update_of_ne same] using under
      rcases holds with free | mine
      · rw [evident.holder other before] at free
        contradiction
      · exact mine ▸ evident.holder other before
  stored := evident.stored
  result := evident.result
  listening alive := by
    rcases evident.listening alive with stored | failed | ⟨waiter, mine, waits⟩
    · exact Or.inl stored
    · exact Or.inr (Or.inl failed)
    · rcases holds with free | held
      · rw [free] at mine
        contradiction
      · rw [held] at mine
        rw [← Option.some.inj mine] at waits
        exact absurd waits notWaiting
  exiting := evident.exiting
  checked other there :=
    (update_cases there).elim (fun moved => checked moved.2) fun stays =>
      evident.checked other stays.2
  errorRead other there :=
    (update_cases there).elim (fun moved => errorRead moved.2) fun stays =>
      evident.errorRead other stays.2
  outcomes := evident.outcomes

theorem restarts (evident : Evident state) {caller : Caller} (free : state.monitor = none) :
    Evident { state.setCaller caller .waiting with
      monitor := some caller
      listener := .running
      topologyListenerError := 0 } where
  holder other under := by
    by_cases same : other = caller
    · rw [same]
    · have others : Function.update state.caller caller .idle other = .idle :=
        evident.nobody (Or.inl free) other
      rw [Function.update_of_ne same] at others
      exact absurd others (by simpa [State.setCaller, Function.update_of_ne same] using under)
  stored := evident.stored
  result := evident.result
  listening _ := Or.inr (Or.inr ⟨caller, rfl, Function.update_self _ _ _⟩)
  exiting := by simp
  checked other there := by
    have before := update_was there (by simp)
    have held := evident.holder other (by rw [before]; simp)
    rw [free] at held
    contradiction
  errorRead other there := evident.errorRead other (update_was there (by simp))
  outcomes := evident.outcomes

theorem after_enter (evident : Evident state) {caller : Caller} {loaded : Bool}
    (taken : enter caller loaded state = some after) : Evident after := by
  unfold enter at taken
  split_ifs at taken with free loads alive
  · rw [← Option.some.inj taken]
    apply evident.moves (Or.inl free.2)
    · simp [free.1]
    · intro _
      rcases evident.listening alive with stored | failed | ⟨waiter, mine, _⟩
      · exact Or.inl stored
      · exact Or.inr failed
      · rw [free.2] at mine
        contradiction
    · simp
  · rw [← Option.some.inj taken]
    exact evident.restarts free.2
  · rw [← Option.some.inj taken]
    apply evident.finishes (Or.inl free.2)
    · simp [free.1]
    · simp

theorem after_interrupt (evident : Evident state) {caller : Caller}
    (stored : state.stored = true) (taken : interrupt caller state = some after) :
    Evident after := by
  unfold interrupt at taken
  split_ifs at taken with waits
  rw [← Option.some.inj taken]
  apply evident.finishes
  · exact Or.inr (evident.holder caller (by rw [waits]; simp))
  · exact fun _ => stored
  · simp

theorem after_read_error (evident : Evident state) {caller : Caller}
    (taken : readError caller state = some after) : Evident after := by
  unfold readError at taken
  rw [Option.ite_none_right_eq_some] at taken
  obtain ⟨checked, taken⟩ := taken
  have held := evident.holder caller (by rw [checked]; simp)
  split_ifs at taken with failed
  · rw [← Option.some.inj taken]
    apply evident.finishes (Or.inr held)
    · simp [checked]
    · simp
  · rw [← Option.some.inj taken]
    have moved : Evident { state.setCaller caller .errorRead with monitor := some caller } := by
      apply evident.moves (Or.inr held)
      · simp [checked]
      · simp
      · exact fun _ => (evident.checked caller checked).resolve_right failed
    rwa [← held] at moved

theorem after_read_result (evident : Evident state) {caller : Caller}
    (settled : state.update = .stored 0 → state.enumerated = true)
    (taken : readResult caller state = some after) : Evident after := by
  unfold readResult at taken
  rw [Option.ite_none_right_eq_some] at taken
  obtain ⟨read, taken⟩ := taken
  have held := evident.holder caller (by rw [read]; simp)
  split_ifs at taken with failed
  · rw [← Option.some.inj taken]
    apply evident.finishes (Or.inr held)
    · simp [read]
    · simp
  · rw [← Option.some.inj taken]
    apply evident.finishes (Or.inr held)
    · simp [read]
    · have stored := evident.errorRead caller read
      have enumerated : state.enumerated = true :=
        (evident.result stored (Decidable.of_not_not failed)).elim id settled
      simp [enumerated]

theorem after_topology_change (evident : Evident state)
    (taken : topologyChange state = some after) : Evident after := by
  unfold topologyChange at taken
  split_ifs at taken
  rw [← Option.some.inj taken]
  exact { evident with }

theorem after_listener_exit (evident : Evident state) {error : Int}
    (known : error ≠ 0 ∨ state.stored = true)
    (taken : listenerExit error state = some after) : Evident after := by
  unfold listenerExit at taken
  split_ifs at taken
  rw [← Option.some.inj taken]
  exact {
    holder := evident.holder
    stored := evident.stored
    result := evident.result
    listening := fun _ => known.symm.imp_right Or.inl
    exiting := fun _ => known.symm
    checked := fun _ _ => known.symm
    errorRead := evident.errorRead
    outcomes := evident.outcomes }

theorem notified_idle {pc : CallerPc} (under : pc.notified ≠ .idle) : pc ≠ .idle := by
  cases pc <;> simp_all [CallerPc.notified]

theorem notified_error_read {pc : CallerPc} (there : pc.notified = .errorRead) :
    pc = .errorRead := by
  cases pc <;> simp_all [CallerPc.notified]

theorem after_listener_notify (evident : Evident state)
    (taken : listenerNotify state = some after) : Evident after := by
  unfold listenerNotify at taken
  split_ifs at taken with exits
  rw [← Option.some.inj taken]
  have known := evident.exiting exits
  exact {
    holder := fun caller under => evident.holder caller (notified_idle under)
    stored := evident.stored
    result := evident.result
    listening := fun _ => known.imp_right Or.inl
    exiting := by simp
    checked := fun _ _ => known
    errorRead := fun caller there => evident.errorRead caller (notified_error_read there)
    outcomes := evident.outcomes }

theorem after_listener_die (evident : Evident state)
    (taken : listenerDie state = some after) : Evident after := by
  unfold listenerDie at taken
  split_ifs at taken
  rw [← Option.some.inj taken]
  exact {
    holder := evident.holder
    stored := evident.stored
    result := evident.result
    listening := by simp [ListenerPc.isAlive]
    exiting := by simp
    checked := evident.checked
    errorRead := evident.errorRead
    outcomes := evident.outcomes }

theorem after_begin_update (evident : Evident state)
    (taken : beginUpdate state = some after) : Evident after := by
  unfold beginUpdate at taken
  split at taken
  case h_1 pending idle queued =>
    rw [← Option.some.inj taken]
    exact {
      holder := evident.holder
      stored := by simp
      result := by
        intro stored zero
        rcases evident.result stored zero with enumerated | busy
        · exact Or.inl enumerated
        · rw [idle] at busy
          contradiction
      listening := evident.listening
      exiting := evident.exiting
      checked := evident.checked
      errorRead := evident.errorRead
      outcomes := evident.outcomes }
  case h_2 => contradiction

theorem after_store_result (evident : Evident state) {result : Int}
    (taken : storeResult result state = some after) : Evident after := by
  unfold storeResult at taken
  split_ifs at taken
  rw [← Option.some.inj taken]
  exact {
    holder := evident.holder
    stored := fun _ _ => rfl
    result := fun _ zero => Or.inr (congrArg UpdatePc.stored zero)
    listening := fun _ => Or.inl rfl
    exiting := fun _ => Or.inl rfl
    checked := fun _ _ => Or.inl rfl
    errorRead := fun _ _ => rfl
    outcomes := evident.outcomes }

theorem after_finish_update (evident : Evident state)
    (taken : finishUpdate state = some after) : Evident after := by
  unfold finishUpdate at taken
  split at taken
  case h_1 result storedResult =>
    rw [← Option.some.inj taken]
    have stored := evident.stored result storedResult
    exact {
      holder := fun caller under => evident.holder caller (notified_idle under)
      stored := by simp
      result := by
        intro _ zero
        left
        rcases evident.result stored zero with enumerated | busy
        · simp [enumerated]
        · rw [storedResult] at busy
          simp [UpdatePc.stored.inj busy]
      listening := fun _ => Or.inl stored
      exiting := fun _ => Or.inl stored
      checked := fun _ _ => Or.inl stored
      errorRead := fun _ _ => stored
      outcomes := evident.outcomes }
  case h_2 => contradiction

theorem after_step (evident : Evident state) {label : Label} (orderly : Orderly state label)
    (taken : step state label = some after) : Evident after := by
  cases label with
  | enter caller loaded => exact evident.after_enter taken
  | interrupt caller => exact evident.after_interrupt orderly taken
  | readError caller => exact evident.after_read_error taken
  | readResult caller => exact evident.after_read_result orderly taken
  | topologyChange => exact evident.after_topology_change taken
  | listenerExit error => exact evident.after_listener_exit orderly taken
  | listenerNotify => exact evident.after_listener_notify taken
  | listenerDie => exact evident.after_listener_die taken
  | beginUpdate => exact evident.after_begin_update taken
  | storeResult result => exact evident.after_store_result taken
  | finishUpdate => exact evident.after_finish_update taken

end Evident

/-- In every orderly run, each call that returned a hub did so after an update
run had finished with result 0; every other call threw. -/
theorem root_hub_enumerated {state : State} (reached : Reach step Orderly State.initial state) :
    ∀ outcome ∈ state.outcomes, outcome = .hub true ∨ outcome = .usbException := by
  have evident := reached.invariant Evident Evident.initial
    fun before label after inv orderly taken => inv.after_step orderly taken
  intro outcome member
  cases outcome with
  | usbException => exact Or.inr rfl
  | hub enumerated =>
      cases enumerated with
      | true => exact Or.inl rfl
      | false => exact absurd member evident.outcomes

def orderlyStep (state : State) : Label → Bool
  | .interrupt _ => state.stored
  | .listenerExit error => decide (error ≠ 0) || state.stored
  | .readResult _ => decide (state.update = .stored 0 → state.enumerated = true)
  | _ => true

theorem orderly_step_passes (state : State) (label : Label)
    (passes : orderlyStep state label = true) : Orderly state label := by
  cases label with
  | interrupt caller => exact passes
  | listenerExit error => simpa [orderlyStep, Orderly] using passes
  | readResult caller =>
      simp only [orderlyStep, decide_eq_true_eq] at passes
      exact passes
  | _ => trivial

def firstCall : List Label :=
  [.enter 0 true, .topologyChange, .beginUpdate, .storeResult 0, .finishUpdate, .readError 0,
    .readResult 0]

theorem root_hub_enumerated_first_call :
    ∃ state, run step firstCall State.initial = some state ∧ state.outcomes = [.hub true] ∧
      ∀ outcome ∈ state.outcomes, outcome = .hub true ∨ outcome = .usbException := by
  have begins : Reach step Orderly State.initial State.initial := .start
  have ended := reach_of_checked orderly_step_passes firstCall begins rfl
  exact ⟨_, rfl, rfl, root_hub_enumerated ended⟩

/-- The first caller is interrupted before anything has been scanned. -/
def interruptedCall : List Label :=
  [.enter 0 true, .interrupt 0, .enter 1 true, .readError 1, .readResult 1]

/-- The caller is woken by a failed update and reads the result of the next one. -/
def earlyResult : List Label :=
  [.enter 0 true, .topologyChange, .topologyChange, .beginUpdate, .storeResult (-1),
    .finishUpdate, .beginUpdate, .storeResult 0, .readError 0, .readResult 0]

/-- Both runs hand out a root hub before any update has finished with result 0. -/
theorem root_hub_handed_out_early :
    (∃ state, Reach step anyStep State.initial state ∧
      state.outcomes = [.usbException, .hub false]) ∧
    ∃ state, Reach step anyStep State.initial state ∧ state.outcomes = [.hub false] :=
  ⟨⟨_, reach_of_run interruptedCall rfl, rfl⟩, _, reach_of_run earlyResult rfl, rfl⟩

end JavaxUsbLinux.RootHubAccess
