import Mathlib.Data.List.Basic
import Mathlib.Data.List.Nodup
import JavaxUsbLinux.Runs

/-!
# Operations that take effect at one point

Any number of threads call operations on an object. Each operation takes effect
at once, at some point between its call and its answer, and the value may also
change by itself. A history of such calls and answers has a serial order: the
effects one after another, each at a point inside its own call.
-/

namespace JavaxUsbLinux.AtomicObject

open JavaxUsbLinux.Runs

set_option autoImplicit false

variable {Thread Value Op Choice Result : Type*}

/-- The effect of an operation on the value, with its result. What the value
leaves open is a choice. -/
structure Object (Value Op Choice Result : Type*) where
  effect : Value → Op → Choice → Option (Result × Value)

/-- What can be seen of the calls, and of the changes that are not theirs. -/
inductive Event (Thread Value Op Result : Type*) where
  | call (thread : Thread) (op : Op)
  | answer (thread : Thread) (result : Result)
  | change (value : Value)

def Event.thread : Event Thread Value Op Result → Option Thread
  | .call thread _ | .answer thread _ => some thread
  | .change _ => none

/-- An effect in the serial order. A call is named by its place in the history. -/
inductive Entry (Value Op Choice Result : Type*) where
  | effect (call : Nat) (op : Op) (choice : Choice) (result : Result)
  | change (value : Value)

def Entry.call : Entry Value Op Choice Result → Option Nat
  | .effect call _ _ _ => some call
  | .change _ => none

inductive Legal (object : Object Value Op Choice Result) :
    Value → List (Entry Value Op Choice Result) → Value → Prop
  | done (value : Value) : Legal object value [] value
  | effect {before middle after : Value} {entries : List (Entry Value Op Choice Result)}
      (earlier : Legal object before entries middle) (call : Nat) {op : Op} {choice : Choice}
      {result : Result} (happens : object.effect middle op choice = some (result, after)) :
      Legal object before (entries ++ [.effect call op choice result]) after
  | change {before middle : Value} {entries : List (Entry Value Op Choice Result)}
      (earlier : Legal object before entries middle) (after : Value) :
      Legal object before (entries ++ [.change after]) after

def changesOf (history : List (Event Thread Value Op Result)) : List (Nat × Value) :=
  history.zipIdx.filterMap fun
    | (.change value, place) => some (place, value)
    | _ => none

def changesIn (serial : List (Nat × Entry Value Op Choice Result)) : List (Nat × Value) :=
  serial.filterMap fun
    | (point, .change value) => some (point, value)
    | _ => none

def callsIn (serial : List (Nat × Entry Value Op Choice Result)) : List Nat :=
  serial.filterMap fun entry => entry.2.call

/-- The thread called the operation at this place of the history, and did nothing since. -/
def LatestCall (history : List (Event Thread Value Op Result)) (thread : Thread) (call : Nat)
    (op : Op) : Prop :=
  history[call]? = some (.call thread op) ∧
    ∀ place event, call < place → history[place]? = some event → event.thread ≠ some thread

/-- The serial order explains the history: it is legal, its points never go back,
no call takes effect twice, an effect comes after its call, an answer comes after the
effect of the call that it answers and tells its result, and the changes are those
of the history. -/
structure Linearizes (object : Object Value Op Choice Result) (start : Value)
    (history : List (Event Thread Value Op Result))
    (serial : List (Nat × Entry Value Op Choice Result)) (now : Value) : Prop where
  legal : Legal object start (serial.map Prod.snd) now
  ordered : serial.Pairwise fun first second => first.1 ≤ second.1
  once : (callsIn serial).Nodup
  called : ∀ point call op choice result, (point, .effect call op choice result) ∈ serial →
    call < point ∧ point ≤ history.length ∧ ∃ thread, history[call]? = some (.call thread op)
  answered : ∀ place thread result, history[place]? = some (.answer thread result) →
    ∃ point call op choice, (point, .effect call op choice result) ∈ serial ∧
      point ≤ place ∧ LatestCall (history.take place) thread call op
  changes : changesIn serial = changesOf history

theorem Legal.effect_of_mem {object : Object Value Op Choice Result} {start now : Value}
    {entries : List (Entry Value Op Choice Result)} (legal : Legal object start entries now)
    {call : Nat} {op : Op} {choice : Choice} {result : Result}
    (member : .effect call op choice result ∈ entries) :
    ∃ before after, object.effect before op choice = some (result, after) := by
  induction legal with
  | done => exact absurd member List.not_mem_nil
  | @effect middle after _ _ _ _ _ _ happens ih =>
      rcases List.mem_append.mp member with member | last
      · exact ih member
      · cases List.mem_singleton.mp last
        exact ⟨middle, after, happens⟩
  | change _ _ ih =>
      rcases List.mem_append.mp member with member | last
      · exact ih member
      · cases List.mem_singleton.mp last

theorem Linearizes.answer_effect {object : Object Value Op Choice Result} {start now : Value}
    {history : List (Event Thread Value Op Result)}
    {serial : List (Nat × Entry Value Op Choice Result)}
    (linear : Linearizes object start history serial now) {place call : Nat} {thread : Thread}
    {result : Result} {op : Op} (answered : history[place]? = some (.answer thread result))
    (latest : LatestCall (history.take place) thread call op) :
    ∃ choice before after, object.effect before op choice = some (result, after) := by
  obtain ⟨point, other, wanted, choice, member, _, its⟩ :=
    linear.answered place thread result answered
  obtain ⟨before, after, happens⟩ := linear.legal.effect_of_mem
    (List.mem_map_of_mem (f := Prod.snd) member)
  have same : call = other := by
    rcases Nat.lt_trichotomy call other with early | same | late
    · exact absurd rfl (latest.2 other _ early its.1)
    · exact same
    · exact absurd rfl (its.2 call _ late latest.1)
  have here := its.1
  rw [← same, latest.1, Option.some.injEq, Event.call.injEq] at here
  rw [← here.2] at happens
  exact ⟨choice, before, after, happens⟩

/-! ### The object in runs -/

inductive Position (Op Result : Type*) where
  | idle
  | called (call : Nat) (op : Op)
  | done (call : Nat) (result : Result)

structure State (Thread Value Op Choice Result : Type*) where
  value : Value
  position : Thread → Position Op Result
  history : List (Event Thread Value Op Result)
  serial : List (Nat × Entry Value Op Choice Result)

inductive Act (Thread Value Op Choice : Type*) where
  | call (thread : Thread) (op : Op)
  | effect (thread : Thread) (choice : Choice)
  | answer (thread : Thread)
  | change (value : Value)

def initial (value : Value) : State Thread Value Op Choice Result where
  value := value
  position _ := .idle
  history := []
  serial := []

section

variable [DecidableEq Thread]

def step (object : Object Value Op Choice Result) (state : State Thread Value Op Choice Result) :
    Act Thread Value Op Choice → Option (State Thread Value Op Choice Result)
  | .call thread op =>
      match state.position thread with
      | .idle => some { state with
          position := Function.update state.position thread (.called state.history.length op)
          history := state.history ++ [.call thread op] }
      | _ => none
  | .effect thread choice =>
      match state.position thread with
      | .called call op => (object.effect state.value op choice).map fun (result, value) =>
          { state with
            value := value
            position := Function.update state.position thread (.done call result)
            serial := state.serial ++
              [(state.history.length, .effect call op choice result)] }
      | _ => none
  | .answer thread =>
      match state.position thread with
      | .done _ result => some { state with
          position := Function.update state.position thread .idle
          history := state.history ++ [.answer thread result] }
      | _ => none
  | .change value => some { state with
      value := value
      history := state.history ++ [.change value]
      serial := state.serial ++ [(state.history.length, .change value)] }

inductive Acted (object : Object Value Op Choice Result)
    (before : State Thread Value Op Choice Result) :
    Act Thread Value Op Choice → State Thread Value Op Choice Result → Prop
  | call (thread : Thread) (op : Op) (idle : before.position thread = .idle) :
      Acted object before (.call thread op) { before with
        position := Function.update before.position thread (.called before.history.length op)
        history := before.history ++ [.call thread op] }
  | effect (thread : Thread) (choice : Choice) (call : Nat) (op : Op) (result : Result)
      (value : Value) (here : before.position thread = .called call op)
      (happens : object.effect before.value op choice = some (result, value)) :
      Acted object before (.effect thread choice) { before with
        value := value
        position := Function.update before.position thread (.done call result)
        serial := before.serial ++ [(before.history.length, .effect call op choice result)] }
  | answer (thread : Thread) (call : Nat) (result : Result)
      (here : before.position thread = .done call result) :
      Acted object before (.answer thread) { before with
        position := Function.update before.position thread .idle
        history := before.history ++ [.answer thread result] }
  | change (value : Value) :
      Acted object before (.change value) { before with
        value := value
        history := before.history ++ [.change value]
        serial := before.serial ++ [(before.history.length, .change value)] }

section

variable (object : Object Value Op Choice Result)
variable {state : State Thread Value Op Choice Result} {thread : Thread}

theorem step_call (op : Op) (idle : state.position thread = .idle) :
    step object state (.call thread op) = some { state with
      position := Function.update state.position thread (.called state.history.length op)
      history := state.history ++ [.call thread op] } := by
  simp only [step, idle]

theorem step_effect {call : Nat} {op : Op} {choice : Choice} {result : Result} {value : Value}
    (here : state.position thread = .called call op)
    (happens : object.effect state.value op choice = some (result, value)) :
    step object state (.effect thread choice) = some { state with
      value := value
      position := Function.update state.position thread (.done call result)
      serial := state.serial ++ [(state.history.length, .effect call op choice result)] } := by
  simp only [step, here, happens, Option.map_some]

theorem step_answer {call : Nat} {result : Result}
    (here : state.position thread = .done call result) :
    step object state (.answer thread) = some { state with
      position := Function.update state.position thread .idle
      history := state.history ++ [.answer thread result] } := by
  simp only [step, here]

end

theorem acted_of_step {object : Object Value Op Choice Result}
    {before after : State Thread Value Op Choice Result} {act : Act Thread Value Op Choice}
    (taken : step object before act = some after) : Acted object before act after := by
  cases act with
  | call thread op =>
      simp only [step] at taken
      split at taken
      · cases taken
        exact .call thread op ‹_›
      · contradiction
  | effect thread choice =>
      simp only [step] at taken
      split at taken
      · obtain ⟨⟨result, value⟩, happens, rfl⟩ := Option.map_eq_some_iff.mp taken
        exact .effect thread choice _ _ result value ‹_› happens
      · contradiction
  | answer thread =>
      simp only [step] at taken
      split at taken
      · cases taken
        exact .answer thread _ _ ‹_›
      · contradiction
  | change value =>
      cases taken
      exact .change value

end

/-! ### Histories that grow -/

section

variable {history : List (Event Thread Value Op Result)} {event : Event Thread Value Op Result}

theorem LatestCall.append {thread : Thread} {call : Nat} {op : Op}
    (latest : LatestCall history thread call op) (other : event.thread ≠ some thread) :
    LatestCall (history ++ [event]) thread call op := by
  obtain ⟨here, quiet⟩ := latest
  have inside : call < history.length := (List.getElem?_eq_some_iff.mp here).1
  refine ⟨by rw [List.getElem?_append_left inside, here], ?_⟩
  intro place later after found
  rcases Nat.lt_trichotomy place history.length with before | same | beyond
  · rw [List.getElem?_append_left before] at found
    exact quiet place later after found
  · rw [same, List.getElem?_concat_length, Option.some.injEq] at found
    rw [← found]
    exact other
  · rw [List.getElem?_eq_none (by simp; omega)] at found
    contradiction

theorem latest_new (thread : Thread) (op : Op) :
    LatestCall (history ++ [.call thread op]) thread history.length op := by
  refine ⟨List.getElem?_concat_length, ?_⟩
  intro place later after found
  rw [List.getElem?_eq_none (by simp; omega)] at found
  contradiction

theorem changes_of_append : changesOf (history ++ [event]) = changesOf history ++
    match event with
    | .change value => [(history.length, value)]
    | _ => [] := by
  cases event <;> simp [changesOf, List.zipIdx_append]

end

section

variable {serial : List (Nat × Entry Value Op Choice Result)}

theorem calls_in_append (entry : Nat × Entry Value Op Choice Result) :
    callsIn (serial ++ [entry]) = callsIn serial ++ entry.2.call.toList := by
  cases called : entry.2.call <;> simp [callsIn, called]

theorem changes_in_effect (point call : Nat) (op : Op) (choice : Choice) (result : Result) :
    changesIn (serial ++ [(point, .effect call op choice result)]) = changesIn serial := by
  simp [changesIn]

theorem changes_in_change (point : Nat) (value : Value) :
    changesIn (serial ++ [(point, .change value)]) = changesIn serial ++ [(point, value)] := by
  simp [changesIn]

end

/-- The books explain the history, and each thread is where its latest call has left it. -/
structure Explained (object : Object Value Op Choice Result) (start : Value)
    (state : State Thread Value Op Choice Result) : Prop where
  linear : Linearizes object start state.history state.serial state.value
  bounded : ∀ entry ∈ state.serial, entry.1 ≤ state.history.length
  waiting : ∀ thread call op, state.position thread = .called call op →
    LatestCall state.history thread call op ∧ call ∉ callsIn state.serial
  finished : ∀ thread call result, state.position thread = .done call result →
    ∃ point op choice, (point, .effect call op choice result) ∈ state.serial ∧
      LatestCall state.history thread call op

namespace Explained

variable {object : Object Value Op Choice Result} {start : Value}
variable {state : State Thread Value Op Choice Result}

/-- An entry at the present point comes behind all others. -/
theorem ordered_append (explained : Explained object start state)
    (entry : Entry Value Op Choice Result) :
    (state.serial ++ [(state.history.length, entry)]).Pairwise
      fun first second => first.1 ≤ second.1 := by
  rw [List.pairwise_append]
  refine ⟨explained.linear.ordered, List.pairwise_singleton _ _, ?_⟩
  intro first member second last
  rw [List.mem_singleton.mp last]
  exact explained.bounded first member

theorem called_append (explained : Explained object start state)
    (event : Event Thread Value Op Result) (point call : Nat) (op : Op) (choice : Choice)
    (result : Result) (member : (point, .effect call op choice result) ∈ state.serial) :
    call < point ∧ point ≤ (state.history ++ [event]).length ∧
      ∃ thread, (state.history ++ [event])[call]? = some (.call thread op) := by
  obtain ⟨after, within, thread, here⟩ := explained.linear.called _ _ _ _ _ member
  have inside : call < state.history.length := (List.getElem?_eq_some_iff.mp here).1
  refine ⟨after, by rw [List.length_append]; omega, thread, ?_⟩
  rw [List.getElem?_append_left inside, here]

theorem answered_append (explained : Explained object start state)
    (event : Event Thread Value Op Result)
    {serial : List (Nat × Entry Value Op Choice Result)} (grows : state.serial ⊆ serial)
    (last : ∀ thread result, event = .answer thread result →
      ∃ point call op choice, (point, .effect call op choice result) ∈ serial ∧
        point ≤ state.history.length ∧ LatestCall state.history thread call op)
    (place : Nat) (thread : Thread) (result : Result)
    (found : (state.history ++ [event])[place]? = some (.answer thread result)) :
    ∃ point call op choice, (point, .effect call op choice result) ∈ serial ∧
      point ≤ place ∧ LatestCall ((state.history ++ [event]).take place) thread call op := by
  rcases Nat.lt_trichotomy place state.history.length with before | same | beyond
  · rw [List.getElem?_append_left before] at found
    obtain ⟨point, call, op, choice, member, within, latest⟩ :=
      explained.linear.answered place thread result found
    refine ⟨point, call, op, choice, grows member, within, ?_⟩
    rwa [List.take_append_of_le_length before.le]
  · subst same
    rw [List.getElem?_concat_length, Option.some.injEq] at found
    rw [List.take_left]
    exact last thread result found
  · rw [List.getElem?_eq_none (by simp; omega)] at found
    contradiction

end Explained

theorem initial_explained (object : Object Value Op Choice Result) (start : Value) :
    Explained object start
      (initial start : State Thread Value Op Choice Result) where
  linear := {
    legal := .done start
    ordered := List.Pairwise.nil
    once := List.nodup_nil
    called := by simp [initial]
    answered := by simp [initial]
    changes := rfl }
  bounded := by simp [initial]
  waiting := by simp [initial]
  finished := by simp [initial]

theorem after_change {object : Object Value Op Choice Result} {start : Value}
    {before : State Thread Value Op Choice Result}
    (explained : Explained object start before) (value : Value) :
    Explained object start { before with
      value := value
      history := before.history ++ [.change value]
      serial := before.serial ++ [(before.history.length, .change value)] } := by
  have linear := explained.linear
  have quiet (thread : Thread) :
      (Event.change value : Event Thread Value Op Result).thread ≠ some thread := by
    simp [Event.thread]
  have grows : before.serial ⊆ before.serial ++ [(before.history.length, .change value)] :=
    List.subset_append_left _ _
  have effects (point call : Nat) (op : Op) (choice : Choice) (result : Result)
      (member : (point, .effect call op choice result) ∈
        before.serial ++ [(before.history.length, .change value)]) :
      (point, .effect call op choice result) ∈ before.serial := by
    rcases List.mem_append.mp member with member | single
    · exact member
    · cases List.mem_singleton.mp single
  refine ⟨⟨?_, explained.ordered_append _, ?_, ?_, ?_, ?_⟩, ?_, ?_, ?_⟩
  · rw [List.map_append]
    exact .change linear.legal value
  · rw [calls_in_append]
    simpa [Entry.call] using linear.once
  · intro point call op choice result member
    exact explained.called_append _ point call op choice result
      (effects point call op choice result member)
  · exact explained.answered_append _ grows (by simp)
  · rw [changes_in_change, changes_of_append, linear.changes]
  · intro entry member
    rw [List.length_append]
    rcases List.mem_append.mp member with member | single
    · exact Nat.le_succ_of_le (explained.bounded entry member)
    · rw [List.mem_singleton.mp single]
      exact Nat.le_succ _
  · intro thread call op there
    obtain ⟨latest, fresh⟩ := explained.waiting thread call op there
    exact ⟨latest.append (quiet thread), by simpa [calls_in_append, Entry.call] using fresh⟩
  · intro thread call result there
    obtain ⟨point, op, choice, member, latest⟩ := explained.finished thread call result there
    exact ⟨point, op, choice, grows member, latest.append (quiet thread)⟩

section

variable [DecidableEq Thread] {object : Object Value Op Choice Result} {start : Value}
variable {before after : State Thread Value Op Choice Result} {act : Act Thread Value Op Choice}

theorem after_call (explained : Explained object start before) (thread : Thread) (op : Op)
    (idle : before.position thread = .idle) :
    Explained object start { before with
      position := Function.update before.position thread (.called before.history.length op)
      history := before.history ++ [.call thread op] } := by
  have linear := explained.linear
  have others (other : Thread) (place : Position Op Result) (busy : place ≠ .idle)
      (there : before.position other = place) :
      (Event.call thread op : Event Thread Value Op Result).thread ≠ some other := by
    intro same
    injection same with same
    rw [← same, idle] at there
    exact busy there.symm
  refine ⟨{ linear with
    called := fun point call op choice result => explained.called_append _ point call op choice
      result
    answered := explained.answered_append _ (List.Subset.refl _) (by simp)
    changes := by simpa [changes_of_append] using linear.changes }, ?_, ?_, ?_⟩
  · intro entry member
    simpa using Nat.le_succ_of_le (explained.bounded entry member)
  · intro other call asked there
    rcases update_cases there with ⟨rfl, same⟩ | ⟨_, there⟩
    · injection same with same sameOp
      subst same sameOp
      refine ⟨latest_new other op, fun member => ?_⟩
      obtain ⟨⟨point, entry⟩, inside, its⟩ := List.mem_filterMap.mp member
      cases entry with
      | effect call op choice result =>
          injection its with same
          obtain ⟨early, within, _⟩ := linear.called _ _ _ _ _ inside
          omega
      | change value => cases its
    · obtain ⟨latest, fresh⟩ := explained.waiting other call asked there
      exact ⟨latest.append (others other _ (by simp) there), fresh⟩
  · intro other call result there
    obtain ⟨point, asked, choice, member, latest⟩ := explained.finished other call result
      (update_was there (by simp))
    exact ⟨point, asked, choice, member,
      latest.append (others other _ (by simp) (update_was there (by simp)))⟩

theorem after_effect (explained : Explained object start before) {thread : Thread}
    {choice : Choice} {call : Nat} {op : Op} {result : Result} {value : Value}
    (here : before.position thread = .called call op)
    (happens : object.effect before.value op choice = some (result, value)) :
    Explained object start { before with
      value := value
      position := Function.update before.position thread (.done call result)
      serial := before.serial ++ [(before.history.length, .effect call op choice result)] } := by
  have linear := explained.linear
  obtain ⟨latest, fresh⟩ := explained.waiting thread call op here
  have inside : call < before.history.length := (List.getElem?_eq_some_iff.mp latest.1).1
  have grows : before.serial ⊆ before.serial ++
      [(before.history.length, .effect call op choice result)] :=
    List.subset_append_left _ _
  refine ⟨⟨?_, explained.ordered_append _, ?_, ?_, ?_, ?_⟩, ?_, ?_, ?_⟩
  · rw [List.map_append]
    exact .effect linear.legal call happens
  · rw [calls_in_append]
    exact (List.concat_eq_append ▸ linear.once.concat fresh :)
  · intro point other asked choosing told member
    rcases List.mem_append.mp member with member | single
    · exact linear.called point other asked choosing told member
    · cases List.mem_singleton.mp single
      exact ⟨inside, le_rfl, thread, latest.1⟩
  · intro place other told found
    obtain ⟨point, asked, choosing, chosen, member, rest⟩ :=
      linear.answered place other told found
    exact ⟨point, asked, choosing, chosen, grows member, rest⟩
  · rw [changes_in_effect]
    exact linear.changes
  · intro entry member
    rcases List.mem_append.mp member with member | single
    · exact explained.bounded entry member
    · rw [List.mem_singleton.mp single]
  · intro other asked wanted there
    obtain ⟨different, there⟩ := (update_cases there).resolve_left (by simp)
    obtain ⟨its, new⟩ := explained.waiting other asked wanted there
    refine ⟨its, ?_⟩
    rw [calls_in_append, List.mem_append]
    rintro (old | single)
    · exact new old
    · -- one place of the history has the call of one thread
      have same : asked = call := by simpa [Entry.call] using single
      have calls := its.1
      rw [same, latest.1, Option.some.injEq, Event.call.injEq] at calls
      exact different calls.1.symm
  · intro other asked told there
    rcases update_cases there with ⟨rfl, same⟩ | ⟨_, there⟩
    · injection same with same sameResult
      subst same sameResult
      exact ⟨_, op, choice, List.mem_append_right _ (List.mem_singleton.mpr rfl), latest⟩
    · obtain ⟨point, wanted, chosen, member, its⟩ := explained.finished other asked told there
      exact ⟨point, wanted, chosen, grows member, its⟩

theorem after_answer (explained : Explained object start before) {thread : Thread} {call : Nat}
    {result : Result} (here : before.position thread = .done call result) :
    Explained object start { before with
      position := Function.update before.position thread .idle
      history := before.history ++ [.answer thread result] } := by
  have linear := explained.linear
  have own := explained.finished thread call result here
  have others (other : Thread) (different : other ≠ thread) :
      (Event.answer thread result : Event Thread Value Op Result).thread ≠ some other := by
    intro same
    injection same with same
    exact different same.symm
  refine ⟨{ linear with
    called := fun point call op choice result => explained.called_append _ point call op choice
      result
    answered := explained.answered_append _ (List.Subset.refl _) ?_
    changes := by simpa [changes_of_append] using linear.changes }, ?_, ?_, ?_⟩
  · intro other told same
    injection same with same sameResult
    subst same sameResult
    obtain ⟨point, op, choice, member, latest⟩ := own
    exact ⟨point, call, op, choice, member, explained.bounded _ member, latest⟩
  · intro entry member
    simpa using Nat.le_succ_of_le (explained.bounded entry member)
  · intro other asked wanted there
    obtain ⟨different, there⟩ := (update_cases there).resolve_left (by simp)
    obtain ⟨latest, fresh⟩ := explained.waiting other asked wanted there
    exact ⟨latest.append (others other different), fresh⟩
  · intro other asked told there
    obtain ⟨different, there⟩ := (update_cases there).resolve_left (by simp)
    obtain ⟨point, wanted, choice, member, latest⟩ := explained.finished other asked told there
    exact ⟨point, wanted, choice, member, latest.append (others other different)⟩

theorem explained_kept (explained : Explained object start before)
    (acted : Acted object before act after) : Explained object start after := by
  cases acted with
  | call thread op idle => exact after_call explained thread op idle
  | effect thread choice call op result value here happens =>
      exact after_effect explained here happens
  | answer thread call result here => exact after_answer explained here
  | change value => exact after_change explained value

/-- Every run of an atomic object is explained by the order in which its effects happened. -/
theorem linearizes_of_reach {allowed : State Thread Value Op Choice Result →
      Act Thread Value Op Choice → Prop} {state : State Thread Value Op Choice Result}
    (reached : Reach (step object) allowed (initial start) state) :
    Linearizes object start state.history state.serial state.value := by
  have explained : Explained object start state := by
    apply reached.invariant (Explained object start) (initial_explained object start)
    intro before act after explained _ taken
    exact explained_kept explained (acted_of_step taken)
  exact explained.linear

end

end JavaxUsbLinux.AtomicObject
