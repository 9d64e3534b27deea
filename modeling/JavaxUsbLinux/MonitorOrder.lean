import Mathlib.Logic.Function.Basic
import Mathlib.Logic.Relation
import JavaxUsbLinux.Runs

/-!
# Threads that enter monitors and notify each other in an order

Threads call programs that enter, leave and wait on monitors. A monitor may be
entered again by the thread that is in it, and `wait` gives it up until a
`notifyAll`, an interrupt or a spurious wake-up ends it. A thread is held up by the
owner of the monitor that it is about to enter and, while it sleeps, by every thread
that is inside a call which ends with the `notifyAll` for it. If every program enters
monitors and sleeps in the order of their ranks, no threads hold each other up in a
circle, and whatever holds up a thread goes on in the end with a thread that can take
a step, or with one that sleeps while nobody has begun a call that notifies it.
-/

namespace JavaxUsbLinux.MonitorOrder

open Relation
open JavaxUsbLinux.Runs

set_option autoImplicit false

/-- `promise` stands where a call begins that ends with the `notifyAll`. -/
inductive Action (Monitor : Type*) where
  | enter (monitor : Monitor)
  | leave (monitor : Monitor)
  | wait (monitor : Monitor)
  | promise (monitor : Monitor)
  | notifyAll (monitor : Monitor)

/-- What a thread can be held up at: entering a monitor, or its `notifyAll`. -/
inductive Resource (Monitor : Type*) where
  | lock (monitor : Monitor)
  | signal (monitor : Monitor)

variable {Thread Monitor : Type*}

/-- A thread with the monitors that it is in, the innermost first, and those that it
has promised to notify. One that sleeps enters its monitor again when it is woken. -/
structure Worker (Monitor : Type*) where
  entered : List Monitor
  promised : List Monitor
  todo : List (Action Monitor)
  asleep : Bool

/-- A monitor has an owner while a thread is in it. -/
structure System (Thread Monitor : Type*) where
  workers : Thread → Worker Monitor
  owner : Monitor → Option Thread

def idle : System Thread Monitor where
  workers _ := ⟨[], [], [], false⟩
  owner _ := none

/-- A thread calls a program, does the next action of its program, or is woken by an
interrupt or for no reason. -/
inductive Label (Thread Monitor : Type*) where
  | call (thread : Thread) (program : List (Action Monitor))
  | act (thread : Thread)
  | wake (thread : Thread)

def Action.stops : Action Monitor → List (Resource Monitor)
  | .enter monitor => [.lock monitor]
  | .wait monitor => [.signal monitor, .lock monitor]
  | .leave _ | .promise _ | .notifyAll _ => []

def stops (program : List (Action Monitor)) : List (Resource Monitor) :=
  program.flatMap Action.stops

/-! ### Programs that keep an order -/

section

variable (rank : Resource Monitor → Nat)

/-- The resource comes after all that a thread holds. -/
def Below (entered promised : List Monitor) (resource : Resource Monitor) : Prop :=
  (∀ monitor ∈ entered, rank (.lock monitor) < rank resource) ∧
    ∀ monitor ∈ promised, rank (.signal monitor) < rank resource

theorem Below.outside {rank : Resource Monitor → Nat} {entered promised outer owed : List Monitor}
    {resource : Resource Monitor} (inside : Below rank entered promised resource)
    (outside : Below rank outer owed resource) :
    Below rank (entered ++ outer) (promised ++ owed) resource := by
  constructor
  · intro monitor member
    exact (List.mem_append.mp member).elim (inside.1 monitor) (outside.1 monitor)
  · intro monitor member
    exact (List.mem_append.mp member).elim (inside.2 monitor) (outside.2 monitor)

variable [DecidableEq Monitor]

/-- From inside these monitors, and with these promises, the program is held up by
increasing rank only. It leaves all monitors, the innermost first, and keeps all
promises. It waits on the innermost monitor only, and is in this one once. -/
def Ordered : List Monitor → List Monitor → List (Action Monitor) → Prop
  | entered, promised, [] => entered = [] ∧ promised = []
  | entered, promised, .enter monitor :: todo =>
      (monitor ∈ entered ∨ Below rank entered promised (.lock monitor)) ∧
        Ordered (monitor :: entered) promised todo
  | [], _, .leave _ :: _ => False
  | inner :: entered, promised, .leave monitor :: todo =>
      inner = monitor ∧ Ordered entered promised todo
  | [], _, .wait _ :: _ => False
  | inner :: entered, promised, .wait monitor :: todo =>
      inner = monitor ∧ Below rank entered promised (.signal monitor) ∧
        Below rank entered promised (.lock monitor) ∧ Ordered (inner :: entered) promised todo
  | entered, promised, .promise monitor :: todo => Ordered entered (monitor :: promised) todo
  | entered, promised, .notifyAll monitor :: todo =>
      monitor ∈ entered ∧ monitor ∈ promised ∧ Ordered entered (promised.erase monitor) todo

variable {rank}

/-- A program can be run by a thread that holds what is below all its stops. -/
theorem Ordered.within {entered promised outer owed : List Monitor}
    {program rest : List (Action Monitor)} (ordered : Ordered rank entered promised program)
    (lower : ∀ stop ∈ stops program, Below rank outer owed stop)
    (later : Ordered rank outer owed rest) :
    Ordered rank (entered ++ outer) (promised ++ owed) (program ++ rest) := by
  induction program generalizing entered promised with
  | nil =>
      obtain ⟨rfl, rfl⟩ := ordered
      exact later
  | cons action program ih =>
      have lowerLater : ∀ stop ∈ stops program, Below rank outer owed stop :=
        fun stop member => lower stop (List.mem_append_right _ member)
      have lowerHere : ∀ stop ∈ action.stops, Below rank outer owed stop :=
        fun stop member => lower stop (List.mem_append_left _ member)
      match action, entered with
      | .enter monitor, entered =>
          refine ⟨?_, ih ordered.2 lowerLater⟩
          rcases ordered.1 with again | above
          · exact Or.inl (List.mem_append_left outer again)
          · exact Or.inr (above.outside (lowerHere _ List.mem_cons_self))
      | .leave _, _ :: entered => exact ⟨ordered.1, ih ordered.2 lowerLater⟩
      | .wait monitor, inner :: entered =>
          obtain ⟨same, signal, lock, ordered⟩ := ordered
          exact ⟨same, signal.outside (lowerHere _ (by simp [Action.stops])),
            lock.outside (lowerHere _ (by simp [Action.stops])), ih ordered lowerLater⟩
      | .promise monitor, entered =>
          have promises : Ordered rank entered (monitor :: promised) program := ordered
          exact ih promises lowerLater
      | .notifyAll monitor, entered =>
          obtain ⟨inside, mine, ordered⟩ := ordered
          refine ⟨List.mem_append_left _ inside, List.mem_append_left _ mine, ?_⟩
          rw [List.erase_append_left _ mine]
          exact ih ordered lowerLater

theorem Ordered.append {entered promised : List Monitor} {first second : List (Action Monitor)}
    (leaves : Ordered rank entered promised first) (later : Ordered rank [] [] second) :
    Ordered rank entered promised (first ++ second) := by
  have both := leaves.within (fun _ _ => ⟨by simp, by simp⟩) later
  simpa only [List.append_nil] using both

theorem ordered_flat_map {Item : Type*} (program : Item → List (Action Monitor))
    (items : List Item) (ordered : ∀ item ∈ items, Ordered rank [] [] (program item)) :
    Ordered rank [] [] (items.flatMap program) := by
  induction items with
  | nil => exact ⟨rfl, rfl⟩
  | cons item items ih =>
      rw [List.flatMap_cons]
      exact (ordered item List.mem_cons_self).append
        (ih fun other member => ordered other (List.mem_cons_of_mem item member))

end

/-! ### Runs -/

def Worker.notified [DecidableEq Monitor] (worker : Worker Monitor) (monitor : Monitor) :
    Worker Monitor :=
  match worker with
  | ⟨entered, promised, .enter other :: todo, true⟩ =>
      ⟨entered, promised, .enter other :: todo, decide (other ≠ monitor)⟩
  | worker => worker

section

variable [DecidableEq Thread] [DecidableEq Monitor]

def System.set (system : System Thread Monitor) (thread : Thread) (worker : Worker Monitor)
    (monitor : Monitor) (owner : Option Thread) : System Thread Monitor where
  workers := Function.update system.workers thread worker
  owner := Function.update system.owner monitor owner

def System.put (system : System Thread Monitor) (thread : Thread) (worker : Worker Monitor) :
    System Thread Monitor :=
  { system with workers := Function.update system.workers thread worker }

def System.notified (system : System Thread Monitor) (monitor : Monitor) :
    System Thread Monitor :=
  { system with workers := fun thread => (system.workers thread).notified monitor }

def remaining (thread : Thread) (monitor : Monitor) (entered : List Monitor) : Option Thread :=
  if monitor ∈ entered then some thread else none

def act (system : System Thread Monitor) (thread : Thread) : Option (System Thread Monitor) :=
  match system.workers thread with
  | ⟨entered, promised, .enter monitor :: todo, false⟩ =>
      if system.owner monitor = none ∨ system.owner monitor = some thread then
        some (system.set thread ⟨monitor :: entered, promised, todo, false⟩ monitor (some thread))
      else none
  | ⟨_ :: entered, promised, .leave monitor :: todo, false⟩ =>
      some (system.set thread ⟨entered, promised, todo, false⟩ monitor
        (remaining thread monitor entered))
  | ⟨_ :: entered, promised, .wait monitor :: todo, false⟩ =>
      some (system.set thread ⟨entered, promised, .enter monitor :: todo, true⟩ monitor
        (remaining thread monitor entered))
  | ⟨entered, promised, .promise monitor :: todo, false⟩ =>
      some (system.put thread ⟨entered, monitor :: promised, todo, false⟩)
  | ⟨entered, promised, .notifyAll monitor :: todo, false⟩ =>
      if monitor ∈ entered then
        some ((system.notified monitor).put thread
          ⟨entered, promised.erase monitor, todo, false⟩)
      else none
  | _ => none

def step (system : System Thread Monitor) :
    Label Thread Monitor → Option (System Thread Monitor)
  | .call thread program =>
      match system.workers thread with
      | ⟨entered, promised, [], false⟩ =>
          some (system.put thread ⟨entered, promised, program, false⟩)
      | _ => none
  | .act thread => act system thread
  | .wake thread =>
      match system.workers thread with
      | ⟨entered, promised, todo, true⟩ =>
          some (system.put thread ⟨entered, promised, todo, false⟩)
      | _ => none

def Keeps (rank : Resource Monitor → Nat) (_ : System Thread Monitor) :
    Label Thread Monitor → Prop
  | .call _ program => Ordered rank [] [] program
  | _ => True

end

/-- What is left of the program keeps the order. A thread that sleeps is about to enter
its monitor again, and holds nothing that comes after the signal that it sleeps for. -/
structure Worker.Orderly [DecidableEq Monitor] (rank : Resource Monitor → Nat)
    (worker : Worker Monitor) : Prop where
  ordered : Ordered rank worker.entered worker.promised worker.todo
  sleeping : worker.asleep = true → ∃ monitor todo, worker.todo = .enter monitor :: todo ∧
    Below rank worker.entered worker.promised (.signal monitor)

structure Sound [DecidableEq Monitor] (rank : Resource Monitor → Nat)
    (system : System Thread Monitor) : Prop where
  orderly : ∀ thread, (system.workers thread).Orderly rank
  owned : ∀ monitor thread,
    system.owner monitor = some thread ↔ monitor ∈ (system.workers thread).entered

variable [DecidableEq Monitor]

theorem idle_sound (rank : Resource Monitor → Nat) :
    Sound rank (idle : System Thread Monitor) where
  orderly _ := ⟨⟨rfl, rfl⟩, by simp [idle]⟩
  owned _ _ := iff_of_false (by simp [idle]) List.not_mem_nil

@[simp] theorem notified_entered (worker : Worker Monitor) (monitor : Monitor) :
    (worker.notified monitor).entered = worker.entered := by
  unfold Worker.notified
  split <;> rfl

@[simp] theorem notified_promised (worker : Worker Monitor) (monitor : Monitor) :
    (worker.notified monitor).promised = worker.promised := by
  unfold Worker.notified
  split <;> rfl

@[simp] theorem notified_todo (worker : Worker Monitor) (monitor : Monitor) :
    (worker.notified monitor).todo = worker.todo := by
  unfold Worker.notified
  split <;> rfl

theorem asleep_of_notified {worker : Worker Monitor} {monitor : Monitor}
    (asleep : (worker.notified monitor).asleep = true) : worker.asleep = true := by
  unfold Worker.notified at asleep
  split at asleep
  · rfl
  · exact asleep

section

variable {rank : Resource Monitor → Nat} {system : System Thread Monitor}

theorem Worker.Orderly.notified {worker : Worker Monitor} (orderly : worker.Orderly rank)
    (monitor : Monitor) : (worker.notified monitor).Orderly rank := by
  constructor
  · simpa using orderly.ordered
  · simpa using fun asleep => orderly.sleeping (asleep_of_notified asleep)

theorem Sound.notified (sound : Sound rank system) (monitor : Monitor) :
    Sound rank (system.notified monitor) where
  orderly thread := (sound.orderly thread).notified monitor
  owned other thread := by simpa [System.notified] using sound.owned other thread

variable [DecidableEq Thread]

theorem Sound.put (sound : Sound rank system) {thread : Thread} {worker : Worker Monitor}
    (same : worker.entered = (system.workers thread).entered) (orderly : worker.Orderly rank) :
    Sound rank (system.put thread worker) := by
  constructor
  · exact fun other => update_keeps (Worker.Orderly rank) (sound.orderly other) fun _ => orderly
  · intro monitor other
    by_cases here : other = thread
    · subst here
      simpa [System.put, same] using sound.owned monitor other
    · simpa [System.put, Function.update_of_ne here] using sound.owned monitor other

theorem Sound.set (sound : Sound rank system) {thread : Thread} {worker : Worker Monitor}
    {monitor : Monitor} {owner : Option Thread} (orderly : worker.Orderly rank)
    (alone : ∀ other, other ≠ thread → monitor ∉ (system.workers other).entered)
    (others : ∀ other ≠ monitor, other ∈ worker.entered ↔
      other ∈ (system.workers thread).entered)
    (mine : owner = some thread ↔ monitor ∈ worker.entered)
    (only : ∀ other, owner = some other → other = thread) :
    Sound rank (system.set thread worker monitor owner) := by
  constructor
  · exact fun other => update_keeps (Worker.Orderly rank) (sound.orderly other) fun _ => orderly
  · intro held other
    by_cases here : other = thread
    · subst here
      by_cases same : held = monitor
      · subst same
        simpa [System.set] using mine
      · simpa [System.set, Function.update_of_ne same, others held same] using
          sound.owned held other
    · by_cases same : held = monitor
      · subst same
        refine iff_of_false ?_ ?_
        · simpa [System.set] using fun owns => here (only other owns)
        · simpa [System.set, Function.update_of_ne here] using alone other here
      · simpa [System.set, Function.update_of_ne same, Function.update_of_ne here] using
          sound.owned held other

end

theorem remaining_iff {thread : Thread} {monitor : Monitor} {entered : List Monitor} :
    remaining thread monitor entered = some thread ↔ monitor ∈ entered := by
  unfold remaining
  split_ifs with inside <;> simp [inside]

theorem remaining_only {thread other : Thread} {monitor : Monitor} {entered : List Monitor}
    (owns : remaining thread monitor entered = some other) : other = thread := by
  unfold remaining at owns
  split_ifs at owns
  exact (Option.some.inj owns).symm

section

variable [DecidableEq Thread]
variable {rank : Resource Monitor → Nat} {system after : System Thread Monitor} {thread : Thread}

/-- A thread that gives up its innermost monitor. -/
theorem Sound.leave (sound : Sound rank system) {monitor : Monitor} {entered : List Monitor}
    {worker : Worker Monitor} (inside : (system.workers thread).entered = monitor :: entered)
    (left : worker.entered = entered) (orderly : worker.Orderly rank) :
    Sound rank (system.set thread worker monitor (remaining thread monitor entered)) := by
  have mine : system.owner monitor = some thread :=
    (sound.owned monitor thread).mpr (inside ▸ List.mem_cons_self)
  refine sound.set orderly ?_ ?_ ?_ fun other => remaining_only
  · intro other apart held
    rw [(sound.owned monitor other).mpr held, Option.some.injEq] at mine
    exact apart mine
  · intro other apart
    simp [left, inside, apart]
  · rw [left]
    exact remaining_iff

theorem act_sound (sound : Sound rank system) (taken : act system thread = some after) :
    Sound rank after := by
  have ordered := (sound.orderly thread).ordered
  unfold act at taken
  split at taken
  case h_1 entered promised monitor todo here =>
      rw [here] at ordered
      simp only [Option.ite_none_right_eq_some, Option.some.injEq] at taken
      obtain ⟨free, rfl⟩ := taken
      refine sound.set ⟨ordered.2, by simp⟩ ?_ ?_ (by simp) (by simp)
      · intro other apart held
        have owns := (sound.owned monitor other).mpr held
        rcases free with free | mine
        · simp [free] at owns
        · rw [mine, Option.some.injEq] at owns
          exact apart owns.symm
      · intro other apart
        simp [here, apart]
  case h_2 inner entered promised monitor todo here =>
      rw [here] at ordered
      obtain ⟨rfl, ordered⟩ := ordered
      obtain rfl := Option.some.inj taken
      exact sound.leave (by rw [here]) rfl ⟨ordered, by simp⟩
  case h_3 inner entered promised monitor todo here =>
      rw [here] at ordered
      obtain ⟨rfl, signal, lock, ordered⟩ := ordered
      obtain rfl := Option.some.inj taken
      exact sound.leave (by rw [here]) rfl
        ⟨⟨Or.inr lock, ordered⟩, fun _ => ⟨inner, todo, rfl, signal⟩⟩
  case h_4 entered promised monitor todo here =>
      rw [here] at ordered
      obtain rfl := Option.some.inj taken
      exact sound.put (by rw [here]) ⟨ordered, by simp⟩
  case h_5 entered promised monitor todo here =>
      rw [here] at ordered
      simp only [Option.ite_none_right_eq_some, Option.some.injEq] at taken
      obtain ⟨inside, rfl⟩ := taken
      exact (sound.notified monitor).put (by simp [System.notified, here]) ⟨ordered.2.2, by simp⟩
  case h_6 => contradiction

theorem step_sound (sound : Sound rank system) {label : Label Thread Monitor}
    (keeps : Keeps rank system label) (taken : step system label = some after) :
    Sound rank after := by
  cases label with
  | act thread => exact act_sound sound taken
  | call thread program =>
      simp only [step] at taken
      split at taken
      case h_1 entered promised here =>
          obtain rfl := Option.some.inj taken
          have nothing := (sound.orderly thread).ordered
          rw [here] at nothing
          obtain ⟨rfl, rfl⟩ := nothing
          exact sound.put (by rw [here]) ⟨keeps, by simp⟩
      case h_2 => contradiction
  | wake thread =>
      simp only [step] at taken
      split at taken
      case h_1 entered promised todo here =>
          obtain rfl := Option.some.inj taken
          have ordered := (sound.orderly thread).ordered
          rw [here] at ordered
          exact sound.put (by rw [here]) ⟨ordered, by simp⟩
      case h_2 => contradiction

theorem sound_run (reached : Reach step (Keeps rank) idle system) : Sound rank system :=
  reached.invariant (Sound rank) (idle_sound rank) fun _ _ _ sound keeps taken =>
    step_sound sound keeps taken

end

/-! ### What holds a thread up -/

/-- The thread is about to enter a monitor that the other one is in, or sleeps until
a `notifyAll` that the other one has promised. -/
inductive HeldUp (system : System Thread Monitor) (thread other : Thread) : Prop
  | lock (entered promised : List Monitor) (monitor : Monitor) (todo : List (Action Monitor))
      (here : system.workers thread = ⟨entered, promised, .enter monitor :: todo, false⟩)
      (owns : system.owner monitor = some other) (apart : other ≠ thread)
  | signal (entered promised : List Monitor) (monitor : Monitor) (todo : List (Action Monitor))
      (here : system.workers thread = ⟨entered, promised, .enter monitor :: todo, true⟩)
      (promises : monitor ∈ (system.workers other).promised)

/-- What the thread is held up at, if it is. -/
def awaited (system : System Thread Monitor) (thread : Thread) : Option (Resource Monitor) :=
  match system.workers thread with
  | ⟨_, _, .enter monitor :: _, false⟩ => some (.lock monitor)
  | ⟨_, _, .enter monitor :: _, true⟩ => some (.signal monitor)
  | _ => none

section

variable {rank : Resource Monitor → Nat} {system : System Thread Monitor}

/-- What the thread is held up at is held by the other one. -/
theorem Sound.holds (sound : Sound rank system) {thread other : Thread}
    (heldUp : HeldUp system thread other) {resource : Resource Monitor}
    (later : Below rank (system.workers other).entered (system.workers other).promised resource) :
    ∃ lower, awaited system thread = some lower ∧ rank lower < rank resource := by
  cases heldUp with
  | lock entered promised monitor todo here owns apart =>
      exact ⟨.lock monitor, by simp [awaited, here],
        later.1 monitor ((sound.owned monitor other).mp owns)⟩
  | signal entered promised monitor todo here promises =>
      exact ⟨.signal monitor, by simp [awaited, here], later.2 monitor promises⟩

/-- What a thread is held up at comes after all that it holds. -/
theorem Sound.later (sound : Sound rank system) {thread other : Thread}
    (heldUp : HeldUp system thread other) :
    ∃ resource, awaited system thread = some resource ∧
      Below rank (system.workers thread).entered (system.workers thread).promised resource := by
  have orderly := sound.orderly thread
  cases heldUp with
  | lock entered promised monitor todo here owns apart =>
      refine ⟨.lock monitor, by simp [awaited, here], ?_⟩
      have inside := sound.owned monitor thread
      rw [here] at orderly inside ⊢
      rcases orderly.ordered.1 with again | above
      · have mine := inside.mpr again
        rw [mine, Option.some.injEq] at owns
        exact absurd owns.symm apart
      · exact above
  | signal entered promised monitor todo here promises =>
      refine ⟨.signal monitor, by simp [awaited, here], ?_⟩
      rw [here] at orderly ⊢
      obtain ⟨_, _, same, below⟩ := orderly.sleeping rfl
      injection same with same
      injection same with same
      exact same ▸ below

end

end JavaxUsbLinux.MonitorOrder
