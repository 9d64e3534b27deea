import JavaxUsbLinux.InterfaceClaims

/-!
# The calls of the interface methods are linearizable

The ioctl of a call is made once, by the loop, after the call and before its
answer, and the answer tells what this ioctl did. So the calls of all threads
can be put into one order in which each of them acts on the table at once.
-/

namespace JavaxUsbLinux.InterfaceCalls

open JavaxUsbLinux.NativeUrb
open JavaxUsbLinux.UrbOwnership
open JavaxUsbLinux.DeviceProxy
open JavaxUsbLinux.ProxyPlaces
open JavaxUsbLinux.InterfaceClaims
open JavaxUsbLinux.AtomicObject (Event Entry Position Act Linearizes linearizes_of_reach)
open JavaxUsbLinux.Runs

set_option autoImplicit false

/-! ### The interface requests in the proxy -/

section

variable {kind : Request → Kind} {before after : Proxy} {action : Move} {request : Request}

theorem foreign_keeps (sound : Sound kind before) (moved : Moved kind before action after)
    (foreign : foreignMove kind before action = true)
    (its : interfaceKind (kind request) = true) :
    (request ∈ after.submitted ↔ request ∈ before.submitted) ∧
      (request ∈ after.settled ↔ request ∈ before.settled) ∧
      after.error request = before.error request := by
  have other {different : Request} (notInterface : interfaceKind (kind different) = false) :
      request ≠ different := by
    rintro rfl
    rw [its] at notInterface
    contradiction
  cases moved with
  | submit different fresh =>
      have apart := other (by simpa [foreignMove] using foreign)
      simp [apart]
  | withdraw different ready =>
      have apart := other (by simpa [foreignMove] using foreign)
      simp [apart, Proxy.setError]
  | settleSubmit different outcome err synchronous native here =>
      have apart := other (by simpa [foreignMove, here] using foreign)
      simp only [tellError, Proxy.setError]
      split_ifs <;> simp [apart]
  | completeRequest held status handle different here found referred =>
      rw [(sound.reaped_block here).1, Option.some.injEq] at found
      rw [← found, (sound.reaped_block here).2, Option.some.injEq] at referred
      have owned : held ∈ before.owned := by simp [Proxy.owned, here, LoopPc.reaped]
      have asynchronous := sound.urbs.asynchronous held owned
      have apart : request ≠ different := by
        rintro rfl
        rw [referred, interface_not_asynchronous its] at asynchronous
        contradiction
      simp only [tellError, Proxy.setError]
      split_ifs <;> simp [apart]
  | _ => exact ⟨Iff.rfl, Iff.rfl, rfl⟩

/-- `submitRequest` settles an interface request with the error of its ioctl. -/
theorem ioctl_settles {err : Int} (here : before.loop = .submit request)
    (its : interfaceKind (kind request) = true)
    (moved : Moved kind before (.submitRequest (.synchronous err)) after) :
    after.submitted = before.submitted ∧ after.settled = before.settled ++ [request] ∧
      (∃ stage resume, after.loop = .completing request stage resume) ∧
      after.error = (tellError before request err).error := by
  have result (different : Request) (told : Int) (synchronous : Bool) (native : Native)
      (there : before.loop = .submit different)
      (done : submitNative before.native (kind different) different (.synchronous err) =
        some (told, synchronous, native)) :
      different = request ∧ told = err ∧ synchronous = true := by
    rw [here, LoopPc.submit.injEq] at there
    subst there
    cases which : kind request <;> simp_all [submitNative, interfaceKind, NativeOutcome.possible]
  cases moved with
  | settleSubmit different _ told synchronous native there done =>
      obtain ⟨rfl, rfl, rfl⟩ := result different told synchronous native there done
      exact ⟨rfl, rfl, ⟨_, _, rfl⟩, rfl⟩
  | sendSubmit different _ native there done =>
      have impossible := (result different 0 false native there done).2.2
      contradiction

theorem settled_grows (moved : Moved kind before action after) :
    before.settled ⊆ after.settled := by
  cases moved with
  | withdraw | settleSubmit | completeRequest => exact List.subset_append_left _ _
  | _ => exact List.Subset.refl _

theorem completing_kept
    (completing : ∀ request stage resume,
      before.loop = .completing request stage resume → request ∈ before.settled)
    (moved : Moved kind before action after) (request : Request) (stage : Stage)
    (resume : Resume) (here : after.loop = .completing request stage resume) :
    request ∈ after.settled := by
  cases moved with
  | submit | queue | finish => exact completing request stage resume here
  | withdraw => exact List.mem_append_left _ (completing request stage resume here)
  | settleSubmit other | completeRequest _ _ _ other =>
      injection here with same
      simp [same]
  | nextStage other reached next goesOn there more =>
      injection here with same
      subst same
      exact completing other reached goesOn there
  | lastStage other reached goesOn there last =>
      cases goesOn <;> simp [Resume.pc] at here
  | testReady | testCancel =>
      simp only at here
      split_ifs at here
  | _ => simp at here

end

/-! ### The invariant of the calls -/

variable {Table : Type*}

/-- Each interface request that is not settled has one thread that waits for it,
and nothing has been written to it. -/
structure CallsSound (kind : Request → Kind) (state : State Table) : Prop where
  proxy : Sound kind state.proxy
  waiting : ∀ thread call request, state.caller thread = .waiting call request →
    request ∈ state.proxy.submitted ∧ kind request = call.method.kind ∧
      state.interfaceNumber request = call.interfaceNumber.toInt
  apart : ∀ thread other call otherCall request, state.caller thread = .waiting call request →
    state.caller other = .waiting otherCall request → thread = other
  asked : ∀ request, interfaceKind (kind request) = true → request ∈ state.proxy.submitted →
    request ∉ state.proxy.settled → ∃ thread call, state.caller thread = .waiting call request
  fresh : ∀ request, interfaceKind (kind request) = true → request ∉ state.proxy.settled →
    state.proxy.error request = none ∧ state.claimed request = false
  completing : ∀ request stage resume,
    state.proxy.loop = .completing request stage resume → request ∈ state.proxy.settled
  flagged : ∀ request, state.completed request = true → request ∈ state.proxy.settled

theorem initial_calls_sound (kind : Request → Kind) (table : Table) :
    CallsSound kind (initial table) where
  proxy := initial_sound kind
  waiting := by simp [initial]
  apart := by simp [initial]
  asked := by simp [initial, Proxy.initial]
  fresh := by simp [initial, Proxy.initial]
  completing := by simp [initial, Proxy.initial]
  flagged := by simp [initial]

variable {ioctls : InterfaceIoctls Table} {kind : Request → Kind}
variable {before after : State Table} {label : Label Table}

theorem CallsSound.handed (calls : CallsSound kind before) {request : Request}
    (here : before.proxy.loop = .submit request) :
    request ∈ before.proxy.submitted ∧ request ∉ before.proxy.settled := by
  have unsettled := (calls.proxy.hand_handed here).2.2
  have placed := calls.proxy.placed request
  have hand : before.proxy.loop.hand.count request = 1 := by simp [here, LoopPc.hand]
  refine ⟨?_, unsettled⟩
  rw [← List.count_pos_iff]
  unfold places at placed
  omega

theorem CallsSound.setCaller (calls : CallsSound kind before) {thread : Thread} {pc : CallerPc}
    (was : ∀ call request, before.caller thread = .waiting call request →
      request ∈ before.proxy.settled)
    (goes : ∀ call request, pc ≠ .waiting call request) :
    CallsSound kind (before.setCaller thread pc) := by
  have stays (other : Thread) (call : Call) (request : Request)
      (there : Function.update before.caller thread pc other = .waiting call request) :
      before.caller other = .waiting call request :=
    update_was there (goes call request)
  refine { calls with waiting := ?_, apart := ?_, asked := ?_ }
  · exact fun other call request there => calls.waiting other call request (stays _ _ _ there)
  · intro first second call otherCall request there here
    exact calls.apart first second call otherCall request (stays _ _ _ there) (stays _ _ _ here)
  · intro request its submitted unsettled
    obtain ⟨other, call, there⟩ := calls.asked request its submitted unsettled
    refine ⟨other, call, ?_⟩
    have different : other ≠ thread := fun same => unsettled (was call request (same ▸ there))
    exact (Function.update_of_ne different _ _).trans there

theorem flag_cases {loop : LoopPc} {action : Move} {completed : Request → Bool}
    {request : Request} (done : flag loop action completed request = true) :
    completed request = true ∨ ∃ resume, loop = .completing request .flag resume := by
  unfold flag at done
  split at done
  · rename_i other resume
    by_cases same : request = other
    · exact Or.inr ⟨resume, by rw [same]⟩
    · rw [Function.update_of_ne same] at done
      exact Or.inl done
  · exact Or.inl done

theorem CallsSound.after_submit (calls : CallsSound kind before) {thread : Thread}
    {request : Request} {call : Call} {proxy : Proxy} (here : before.caller thread = .called call)
    (its : kind request = call.method.kind)
    (moved : Moved kind before.proxy (.submit request) proxy) :
    CallsSound kind { before.setCaller thread (.waiting call request) with
      proxy := proxy
      interfaceNumber := Function.update before.interfaceNumber request
        call.interfaceNumber.toInt } := by
  have sound := sound_kept calls.proxy moved
  cases moved with
  | submit _ new =>
      have known (other : Thread) (asking : Call) (waited : Request)
          (there : before.caller other = .waiting asking waited) : waited ≠ request := by
        rintro rfl
        exact new (calls.waiting other asking waited there).1
      refine { calls with proxy := sound, waiting := ?_, apart := ?_, asked := ?_ }
      · intro other asking waited there
        rcases update_cases there with ⟨_, same⟩ | ⟨_, there⟩
        · rw [CallerPc.waiting.injEq] at same
          obtain ⟨rfl, rfl⟩ := same
          exact ⟨List.mem_append_right _ (List.mem_singleton.mpr rfl), its,
            Function.update_self _ _ _⟩
        · obtain ⟨submitted, kinds, number⟩ := calls.waiting other asking waited there
          refine ⟨List.mem_append_left _ submitted, kinds, ?_⟩
          exact (Function.update_of_ne (known other asking waited there) _ _).trans number
      · intro first second asking otherAsking waited there here
        rcases update_cases there with ⟨isFirst, same⟩ | ⟨_, firstWas⟩ <;>
          rcases update_cases here with ⟨isSecond, otherSame⟩ | ⟨_, secondWas⟩
        · rw [isFirst, isSecond]
        · rw [CallerPc.waiting.injEq] at same
          exact absurd same.2.symm (known second otherAsking waited secondWas)
        · rw [CallerPc.waiting.injEq] at otherSame
          exact absurd otherSame.2.symm (known first asking waited firstWas)
        · exact calls.apart first second asking otherAsking waited firstWas secondWas
      · intro waited interface submitted unsettled
        rcases List.mem_append.mp submitted with submitted | single
        · obtain ⟨other, asking, there⟩ := calls.asked waited interface submitted unsettled
          have different : other ≠ thread := by
            rintro rfl
            rw [here] at there
            contradiction
          exact ⟨other, asking, (Function.update_of_ne different _ _).trans there⟩
        · rw [List.mem_singleton.mp single]
          exact ⟨thread, call, Function.update_self _ _ _⟩

theorem CallsSound.after_ioctl (calls : CallsSound kind before) {request : Request} {err : Int}
    {proxy : Proxy} (here : before.proxy.loop = .submit request)
    (its : interfaceKind (kind request) = true)
    (moved : Moved kind before.proxy (.submitRequest (.synchronous err)) proxy) (table : Table)
    (flag : Bool) :
    CallsSound kind { before with
      proxy := proxy
      table := table
      claimed := Function.update before.claimed request flag } := by
  obtain ⟨submitted, settled, _, error⟩ := ioctl_settles here its moved
  have grows := settled_grows moved
  refine ⟨sound_kept calls.proxy moved, ?_, calls.apart, ?_, ?_,
    completing_kept calls.completing moved, fun other set => grows (calls.flagged other set)⟩
  · intro thread call waited there
    simp only [submitted]
    exact calls.waiting thread call waited there
  · intro waited interface inside unsettled
    simp only [submitted] at inside
    exact calls.asked waited interface inside fun already => unsettled (grows already)
  · intro waited interface unsettled
    simp only [settled, List.mem_append, List.mem_singleton, not_or] at unsettled
    obtain ⟨noError, notClaimed⟩ := calls.fresh waited interface unsettled.1
    simp only [error, tellError, Proxy.setError, Function.update_of_ne unsettled.2]
    refine ⟨?_, notClaimed⟩
    split_ifs
    · exact noError
    · rw [Function.update_of_ne unsettled.2, noError]

theorem CallsSound.after_move (calls : CallsSound kind before) {action : Move} {proxy : Proxy}
    (foreign : foreignMove kind before.proxy action = true)
    (moved : Moved kind before.proxy action proxy) :
    CallsSound kind { before with
      proxy := proxy
      completed := flag before.proxy.loop action before.completed } := by
  have grows := settled_grows moved
  have keeps (request : Request) (its : interfaceKind (kind request) = true) :=
    foreign_keeps calls.proxy moved foreign its
  refine ⟨sound_kept calls.proxy moved, ?_, calls.apart, ?_, ?_,
    completing_kept calls.completing moved, ?_⟩
  · intro thread call waited there
    obtain ⟨submitted, kinds, number⟩ := calls.waiting thread call waited there
    exact ⟨(keeps waited (kinds ▸ method_kind call.method)).1.mpr submitted, kinds, number⟩
  · intro waited its submitted unsettled
    obtain ⟨sameSubmitted, sameSettled, _⟩ := keeps waited its
    exact calls.asked waited its (sameSubmitted.mp submitted) (unsettled ∘ sameSettled.mpr)
  · intro waited its unsettled
    obtain ⟨_, sameSettled, sameError⟩ := keeps waited its
    obtain ⟨noError, notClaimed⟩ := calls.fresh waited its (unsettled ∘ sameSettled.mpr)
    exact ⟨sameError.trans noError, notClaimed⟩
  · intro waited set
    rcases flag_cases set with before | ⟨resume, there⟩
    · exact grows (calls.flagged waited before)
    · exact grows (calls.completing waited .flag resume there)

theorem calls_sound_kept (calls : CallsSound kind before)
    (taken : Stepped ioctls kind before label after) : CallsSound kind after := by
  cases taken with
  | call thread call idle =>
      have moves : CallsSound kind (before.setCaller thread (.called call)) :=
        calls.setCaller (by simp [idle]) (by simp)
      exact { moves with }
  | refuse thread startError call here =>
      exact calls.setCaller (by simp [here]) (by simp)
  | answer thread call request here done =>
      have settled : ∀ other waited, before.caller thread = .waiting other waited →
          waited ∈ before.proxy.settled := by
        intro other waited there
        rw [here, CallerPc.waiting.injEq] at there
        exact there.2 ▸ calls.flagged request done
      have moves : CallsSound kind (before.setCaller thread .idle) :=
        calls.setCaller settled (by simp)
      exact { moves with }
  | leave thread outcome here =>
      have moves : CallsSound kind (before.setCaller thread .idle) :=
        calls.setCaller (by simp [here]) (by simp)
      exact { moves with }
  | change table => exact { calls with }
  | submit thread request call proxy here its moved => exact calls.after_submit here its moved
  | ioctl outOfMemory request err answered table proxy here its done moved =>
      exact calls.after_ioctl here its moved table _
  | proxy action proxy foreign moved => exact calls.after_move foreign moved

theorem calls_sound_of_reach {allowed : State Table → Label Table → Prop} {table : Table}
    {state : State Table} (reached : Reach (step ioctls kind) allowed (initial table) state) :
    CallsSound kind state := by
  apply reached.invariant (CallsSound kind) (initial_calls_sound kind table)
  intro before label after calls _ taken
  exact calls_sound_kept calls (stepped_of_step taken)

/-! ### The calls take effect at their ioctls -/

abbrev Atomic (Table : Type*) := AtomicObject.State Thread Table Call Trouble Outcome

/-- How a call that is here stands as an operation on the table: it takes effect
when its request is settled. -/
def Placed (proxy : Proxy) (claimed : Request → Bool) (position : Position Call Outcome) :
    CallerPc → Prop
  | .idle => position = .idle
  | .called call => ∃ place, position = .called place call
  | .waiting call request => ∃ place, position =
      if request ∈ proxy.settled then
        .done place (call.outcome ((proxy.error request).getD 0) (claimed request))
      else .called place call
  | .leaving outcome => ∃ place, position = .done place outcome

structure Simulates (state : State Table) (atomic : Atomic Table) : Prop where
  value : atomic.value = state.table
  history : atomic.history = state.history
  placed : ∀ thread,
    Placed state.proxy state.claimed (atomic.position thread) (state.caller thread)

theorem placed_move {proxy : Proxy} {claimed : Request → Bool}
    {position : Thread → Position Call Outcome} {caller : Thread → CallerPc}
    (placed : ∀ thread, Placed proxy claimed (position thread) (caller thread)) (thread : Thread)
    (new : Position Call Outcome) (pc : CallerPc) (moves : Placed proxy claimed new pc)
    (other : Thread) : Placed proxy claimed (Function.update position thread new other)
      (Function.update caller thread pc other) := by
  by_cases same : other = thread
  · rw [same, Function.update_self, Function.update_self]
    exact moves
  · rw [Function.update_of_ne same, Function.update_of_ne same]
    exact placed other

theorem placed_keep {proxy later : Proxy} {claimed flags : Request → Bool}
    {position : Position Call Outcome} {pc : CallerPc} (placed : Placed proxy claimed position pc)
    (keeps : ∀ call request, pc = .waiting call request →
      (request ∈ later.settled ↔ request ∈ proxy.settled) ∧
        later.error request = proxy.error request ∧ flags request = claimed request) :
    Placed later flags position pc := by
  cases pc with
  | waiting call request =>
      obtain ⟨settled, error, flag⟩ := keeps call request rfl
      simpa only [Placed, settled, error, flag] using placed
  | _ => exact placed

/-- A call that waits for its request has not taken effect. -/
theorem Simulates.submit {atomic : Atomic Table} (simulates : Simulates before atomic)
    (calls : CallsSound kind before) {thread : Thread} {request : Request} {call : Call}
    {proxy : Proxy} (there : before.caller thread = .called call)
    (moved : Moved kind before.proxy (.submit request) proxy) :
    Simulates { before.setCaller thread (.waiting call request) with
      proxy := proxy
      interfaceNumber := Function.update before.interfaceNumber request
        call.interfaceNumber.toInt } atomic := by
  have unsettled : request ∉ before.proxy.settled := by
    cases moved with
    | submit _ new => exact new ∘ calls.proxy.settled_submitted
  have same : proxy.settled = before.proxy.settled ∧ proxy.error = before.proxy.error := by
    cases moved with
    | submit => exact ⟨rfl, rfl⟩
  refine ⟨simulates.value, simulates.history, fun other => ?_⟩
  have moves : Placed before.proxy before.claimed (atomic.position other)
      (Function.update before.caller thread (.waiting call request) other) := by
    by_cases mine : other = thread
    · rw [mine, Function.update_self, Placed]
      simpa [Placed, there, unsettled] using simulates.placed thread
    · rw [Function.update_of_ne mine]
      exact simulates.placed other
  exact placed_keep moves fun _ _ _ => ⟨by rw [same.1], by rw [same.2], rfl⟩

/-- The call takes effect at the ioctl of its request. -/
theorem Simulates.ioctl {atomic : Atomic Table} (simulates : Simulates before atomic)
    (calls : CallsSound kind before) {outOfMemory : Bool} {request : Request} {err : Int}
    {answered : Option Bool} {table : Table} {proxy : Proxy}
    (there : before.proxy.loop = .submit request) (its : interfaceKind (kind request) = true)
    (done : interfaceRequest ioctls (kind request) outOfMemory (before.interfaceNumber request)
      before.table = (err, answered, table))
    (moved : Moved kind before.proxy (.submitRequest (.synchronous err)) proxy) :
    ∃ act next, AtomicObject.step (interfaceObject ioctls) atomic act = some next ∧
      Simulates { before with
        proxy := proxy
        table := table
        claimed := Function.update before.claimed request
          (answered.getD (before.claimed request)) } next := by
  obtain ⟨submitted, settled, _, error⟩ := ioctl_settles there its moved
  obtain ⟨inside, unsettled⟩ := calls.handed there
  obtain ⟨thread, call, waits⟩ := calls.asked request its inside unsettled
  obtain ⟨_, kinds, number⟩ := calls.waiting thread call request waits
  obtain ⟨noError, notClaimed⟩ := calls.fresh request its unsettled
  obtain ⟨place, here⟩ : ∃ place, atomic.position thread = .called place call := by
    simpa [Placed, waits, unsettled] using simulates.placed thread
  rw [kinds, number] at done
  have happens := outcome_on_table ioctls call before.table outOfMemory done
  rw [← simulates.value] at happens
  refine ⟨_, _, AtomicObject.step_effect _ here happens, rfl, simulates.history, fun other => ?_⟩
  by_cases mine : other = thread
  · rw [mine]
    simp only [Function.update_self, waits, Placed]
    have told : ((tellError before.proxy request err).error request).getD 0 = err := by
      unfold tellError Proxy.setError
      split_ifs with silent <;> simp [noError, silent]
    exact ⟨place, by simp [settled, error, told, notClaimed]⟩
  · simp only [Function.update_of_ne mine]
    refine placed_keep (simulates.placed other) ?_
    intro asking waited there
    have different : waited ≠ request := fun same =>
      mine (calls.apart other thread asking call waited there (same ▸ waits))
    refine ⟨by simp [settled, different], ?_, Function.update_of_ne different _ _⟩
    simp only [error, tellError, Proxy.setError]
    split_ifs
    · rfl
    · exact Function.update_of_ne different _ _

theorem simulates_follows (calls : CallsSound kind before) {atomic : Atomic Table}
    (simulates : Simulates before atomic) (taken : Stepped ioctls kind before label after) :
    Simulates after atomic ∨ ∃ act next,
      AtomicObject.step (interfaceObject ioctls) atomic act = some next ∧
        Simulates after next := by
  obtain ⟨value, history, placed⟩ := simulates
  cases taken with
  | call thread call idle =>
      have here : atomic.position thread = .idle := by simpa [Placed, idle] using placed thread
      refine Or.inr ⟨_, _, AtomicObject.step_call _ call here, value, ?_, ?_⟩
      · simp only [history]
      · exact placed_move placed thread (.called _ call) (.called call) ⟨_, rfl⟩
  | refuse thread startError call there =>
      obtain ⟨place, here⟩ : ∃ place, atomic.position thread = .called place call := by
        simpa [Placed, there] using placed thread
      have happens : (interfaceObject ioctls).effect atomic.value call (.notStarted startError) =
          some (call.refused startError, before.table) := by rw [value]; rfl
      refine Or.inr ⟨_, _, AtomicObject.step_effect _ here happens, rfl, history, ?_⟩
      exact placed_move placed thread (.done place _) (.leaving _) ⟨place, rfl⟩
  | submit thread request call proxy there its moved =>
      exact Or.inl (Simulates.submit ⟨value, history, placed⟩ calls there moved)
  | ioctl outOfMemory request err answered table proxy there its done moved =>
      exact Or.inr (Simulates.ioctl ⟨value, history, placed⟩ calls there its done moved)
  | proxy action proxy foreign moved =>
      refine Or.inl ⟨value, history, fun thread => placed_keep (placed thread) ?_⟩
      intro call request there
      have its := (calls.waiting thread call request there).2.1
      obtain ⟨_, settled, error⟩ :=
        foreign_keeps calls.proxy moved foreign (its ▸ method_kind call.method)
      exact ⟨settled, error, rfl⟩
  | answer thread call request there done =>
      obtain ⟨place, here⟩ : ∃ place, atomic.position thread = .done place
          (call.outcome ((before.proxy.error request).getD 0) (before.claimed request)) := by
        simpa [Placed, there, calls.flagged request done] using placed thread
      refine Or.inr ⟨_, _, AtomicObject.step_answer _ here, value, ?_, ?_⟩
      · simp only [history]
      · exact placed_move placed thread .idle .idle rfl
  | leave thread outcome there =>
      obtain ⟨place, here⟩ : ∃ place, atomic.position thread = .done place outcome := by
        simpa [Placed, there] using placed thread
      refine Or.inr ⟨_, _, AtomicObject.step_answer _ here, value, ?_, ?_⟩
      · simp only [history]
      · exact placed_move placed thread .idle .idle rfl
  | change table =>
      refine Or.inr ⟨.change table, _, rfl, rfl, ?_, placed⟩
      simp only [history]

theorem atomic_of_reach {table : Table} {state : State Table}
    (reached : Reach (step ioctls kind) anyStep (initial table) state) :
    ∃ serial, Linearizes (interfaceObject ioctls) table state.history serial state.table := by
  have starts : Simulates (initial table) (AtomicObject.initial table : Atomic Table) :=
    ⟨rfl, rfl, fun _ => rfl⟩
  obtain ⟨atomic, run, simulates⟩ := reached.follow (AtomicObject.step (interfaceObject ioctls))
    anyStep (CallsSound kind) Simulates (fun _ reached => calls_sound_of_reach reached) starts
    fun before label after other calls related _ taken =>
      (simulates_follows calls related (stepped_of_step taken)).imp_right
        fun ⟨act, next, acts, still⟩ => ⟨act, next, trivial, acts, still⟩
  refine ⟨atomic.serial, ?_⟩
  rw [← simulates.value, ← simulates.history]
  exact linearizes_of_reach run

def twoInterfaces : InterfaceIoctls (List Int) where
  claimInterface table number :=
    if number = 0 ∨ number = 1 then (0, if number ∈ table then table else number :: table)
    else (22, table)
  releaseInterface table number :=
    if number ∈ table then (0, table.erase number) else (22, table)
  getDriver table number :=
    if number = 0 ∨ number = 1 then if number ∈ table then 0 else 61 else 22

def exampleKind (request : Request) : Kind :=
  if request = 8 then .isClaimedInterface else .claimInterface

def overlappingCalls (number : Int8) : List (Label (List Int)) :=
  [.call 0 ⟨.claim, number⟩, .call 1 ⟨.isClaimed, number⟩, .submit 1 8, .submit 0 7,
    .proxy .testReady, .proxy .getReadyRequest, .ioctl false, .proxy .stage,
    .proxy .getCancelRequest, .proxy (.reap none), .proxy .testReady, .proxy .getReadyRequest,
    .ioctl false, .proxy .stage, .answer 0, .answer 1]

/-- `setInterface` of a `LinuxSetInterfaceRequest`: the byte as an unsigned number. -/
def setInterface (interfaceNumber : Int8) : Int := interfaceNumber.toUInt8.toNat

/-- The requests that name an interface disagree from 128 on: there `setInterfaceNumber`
turns the byte into a negative `int`. -/
theorem interface_number_eq (interfaceNumber : Int8) :
    interfaceNumber.toInt = setInterface interfaceNumber -
      if setInterface interfaceNumber < 128 then 0 else 256 := by
  have bits : interfaceNumber.toInt = if 2 * interfaceNumber.toBitVec.toNat < 2 ^ 8
      then (interfaceNumber.toBitVec.toNat : Int)
      else (interfaceNumber.toBitVec.toNat : Int) - (2 ^ 8 : Nat) :=
    BitVec.toInt_eq_toNat_cond _
  have unsigned : setInterface interfaceNumber = (interfaceNumber.toBitVec.toNat : Int) := rfl
  rw [bits, unsigned]
  split_ifs <;> omega

/-- The kernel knows no interface of a negative number, so from 128 on no interface
is ever claimed: every claim throws, and every question is answered with no. -/
theorem high_interfaces_unclaimed (ioctls : InterfaceIoctls Table) (kind : Request → Kind)
    (table : Table) (unknown : ∀ table number, number < 0 →
      (ioctls.claimInterface table number).1 ≠ 0 ∧ ioctls.getDriver table number ≠ 0)
    {state : State Table} (reached : Reach (step ioctls kind) anyStep (initial table) state)
    {place asked : Nat} {thread : Thread} {call : Call} {outcome : Outcome}
    (answered : state.history[place]? = some (.answer thread outcome))
    (latest : AtomicObject.LatestCall (state.history.take place) thread asked call)
    (high : 128 ≤ setInterface call.interfaceNumber) :
    (call.method = .claim ∨ call.method = .openPipe → ∃ message, outcome = .threw message) ∧
      (call.method = .isClaimed → outcome = .answer false) := by
  obtain ⟨serial, linear⟩ := atomic_of_reach reached
  obtain ⟨trouble, before, after, happens⟩ := linear.answer_effect answered latest
  have negative : call.interfaceNumber.toInt < 0 := by
    have byte : setInterface call.interfaceNumber < 256 := by
      have bound := call.interfaceNumber.toUInt8.toNat_lt
      unfold setInterface
      omega
    rw [interface_number_eq, if_neg (by omega)]
    omega
  obtain ⟨noClaim, noDriver⟩ := unknown before _ negative
  cases trouble with
  | none =>
      cases method : call.method <;>
        simp only [interfaceObject, Call.onTable, method, noClaim, noDriver, if_false,
          decide_false, Option.some.injEq, Prod.mk.injEq] at happens <;>
        obtain ⟨rfl, _⟩ := happens <;> simp
  | outOfMemory =>
      cases method : call.method <;>
        simp only [interfaceObject, Call.withoutMemory, method, Option.some.injEq,
          Prod.mk.injEq] at happens <;>
        obtain ⟨rfl, _⟩ := happens <;> simp
  | notStarted startError =>
      cases method : call.method <;>
        simp only [interfaceObject, Call.refused, method, Option.some.injEq,
          Prod.mk.injEq] at happens <;>
        obtain ⟨rfl, _⟩ := happens <;> simp

theorem high_interfaces_unclaimed_overlapping :
    ∃ state outcome, run (step twoInterfaces exampleKind) (overlappingCalls (-56)) (initial []) =
        some state ∧ state.history[2]? = some (Event.answer 0 outcome) ∧
      ∃ message, outcome = .threw message := by
  have unknown (table : List Int) (number : Int) (negative : number < 0) :
      (twoInterfaces.claimInterface table number).1 ≠ 0 ∧
        twoInterfaces.getDriver table number ≠ 0 := by
    have other : ¬ (number = 0 ∨ number = 1) := by omega
    simp [twoInterfaces, other]
  have ran : ∃ state, run (step twoInterfaces exampleKind) (overlappingCalls (-56)) (initial []) =
      some state ∧ state.history =
        [Event.call 0 ⟨.claim, -56⟩, .call 1 ⟨.isClaimed, -56⟩,
          .answer 0 (.threw "Could not claim interface : Invalid"), .answer 1 (.answer false)] :=
    ⟨_, rfl, rfl⟩
  obtain ⟨state, ran, history⟩ := ran
  have answered : state.history[2]? =
      some (Event.answer 0 (.threw "Could not claim interface : Invalid")) := by rw [history]; rfl
  have latest : AtomicObject.LatestCall (state.history.take 2) 0 0 ⟨.claim, -56⟩ := by
    rw [history]
    refine ⟨rfl, fun place event later found => ?_⟩
    have next : place = 1 := by
      have inside := (List.getElem?_eq_some_iff.mp found).1
      simp only [List.length_take, List.length_cons, List.length_nil] at inside
      omega
    subst next
    rw [← Option.some.inj found]
    simp [Event.thread]
  exact ⟨state, _, ran, answered, (high_interfaces_unclaimed twoInterfaces exampleKind [] unknown
    (reach_of_run (overlappingCalls (-56)) ran) answered latest (by decide)).1 (Or.inl rfl)⟩

end JavaxUsbLinux.InterfaceCalls
