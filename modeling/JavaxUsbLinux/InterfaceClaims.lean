import Mathlib.Data.Int.Order.Basic
import JavaxUsbLinux.AtomicObject
import JavaxUsbLinux.LinuxRequests
import JavaxUsbLinux.ProxyPlaces

/-!
# Claiming interfaces

`claim`, `release` and `isClaimed` of an interface, and `open` of a pipe, each
submit a synchronous request to the proxy of the device and wait until the loop
has made the ioctl. Any number of threads do so while all others use the proxy
as they like. The table of the claims is the kernel's, and may also change by
itself.
-/

namespace JavaxUsbLinux.InterfaceClaims

open JavaxUsbLinux.NativeUrb
open JavaxUsbLinux.UrbOwnership
open JavaxUsbLinux.LinuxRequests (nativeGetErrorMessage)
open JavaxUsbLinux.DeviceProxy
open JavaxUsbLinux.ProxyPlaces
open JavaxUsbLinux.AtomicObject (Event Object)
open JavaxUsbLinux.Runs

set_option autoImplicit false

abbrev Thread := Nat

def enodata : Int := 61

/-- The ioctls on the interfaces of a device. Each gives an `errno`, or 0 for success. -/
structure InterfaceIoctls (Table : Type*) where
  claimInterface : Table → Int → Nat × Table
  releaseInterface : Table → Int → Nat × Table
  getDriver : Table → Int → Nat

inductive Method where
  | claim
  | release
  | isClaimed
  | openPipe
  deriving DecidableEq

def Method.kind : Method → Kind
  | .claim => .claimInterface
  | .release => .releaseInterface
  | .isClaimed | .openPipe => .isClaimedInterface

structure Call where
  method : Method
  interfaceNumber : Int8
  deriving DecidableEq

inductive Outcome where
  | returned
  | answer (claimed : Bool)
  | threw (message : String)
  deriving DecidableEq

def Call.outcome (call : Call) (error : Int) (claimed : Bool) : Outcome :=
  match call.method with
  | .claim =>
      if error ≠ 0 then .threw ("Could not claim interface : " ++ nativeGetErrorMessage error)
      else .returned
  | .release => .returned
  | .isClaimed => .answer (if error ≠ 0 then false else claimed)
  | .openPipe =>
      if (if error ≠ 0 then false else claimed) then .returned
      else .threw "Interface must be claimed before opening pipe"

def Call.refused (call : Call) (startError : Int) : Outcome :=
  match call.method with
  | .claim => .threw ("Could not connect to USB device : " ++ nativeGetErrorMessage startError)
  | .release => .returned
  | .isClaimed => .answer false
  | .openPipe => .threw "Interface must be claimed before opening pipe"

def claimInterface {Table : Type*} (ioctls : InterfaceIoctls Table) (outOfMemory claim : Bool)
    (interfaceNumber : Int) (table : Table) : Int × Table :=
  if outOfMemory then (-enomem, table)
  else
    let (errno, after) :=
      if claim then ioctls.claimInterface table interfaceNumber
      else ioctls.releaseInterface table interfaceNumber
    (-errno, after)

def isClaimed {Table : Type*} (ioctls : InterfaceIoctls Table) (outOfMemory : Bool)
    (interfaceNumber : Int) (table : Table) : Int × Option Bool :=
  if outOfMemory then (-enomem, none)
  else
    let ret : Int := -ioctls.getDriver table interfaceNumber
    (if ret = -enodata then 0 else ret, some (decide (ret = 0)))

def interfaceKind : Kind → Bool
  | .claimInterface | .isClaimedInterface | .releaseInterface => true
  | _ => false

theorem method_kind (method : Method) : interfaceKind method.kind = true := by
  cases method <;> rfl

theorem interface_not_asynchronous {kind : Kind} (its : interfaceKind kind = true) :
    kind.asynchronous = false := by
  cases kind <;> simp_all [interfaceKind, Kind.asynchronous]

def interfaceRequest {Table : Type*} (ioctls : InterfaceIoctls Table) (kind : Kind)
    (outOfMemory : Bool) (interfaceNumber : Int) (table : Table) : Int × Option Bool × Table :=
  match kind with
  | .claimInterface =>
      let (err, after) := claimInterface ioctls outOfMemory true interfaceNumber table
      (err, none, after)
  | .releaseInterface =>
      let (err, after) := claimInterface ioctls outOfMemory false interfaceNumber table
      (err, none, after)
  | _ =>
      let (err, flag) := isClaimed ioctls outOfMemory interfaceNumber table
      (err, flag, table)

inductive CallerPc where
  | idle
  | called (call : Call)
  | waiting (call : Call) (request : Request)
  | leaving (outcome : Outcome)
  deriving DecidableEq

structure State (Table : Type*) where
  proxy : Proxy
  table : Table
  caller : Thread → CallerPc
  interfaceNumber : Request → Int
  claimed : Request → Bool
  completed : Request → Bool
  history : List (Event Thread Table Call Outcome)

inductive Label (Table : Type*) where
  | call (thread : Thread) (call : Call)
  | refuse (thread : Thread) (startError : Int)
  | submit (thread : Thread) (request : Request)
  | ioctl (outOfMemory : Bool)
  | proxy (action : Move)
  | answer (thread : Thread)
  | change (table : Table)

section

variable {Table : Type*}

def initial (table : Table) : State Table where
  proxy := Proxy.initial
  table := table
  caller _ := .idle
  interfaceNumber _ := 0
  claimed _ := false
  completed _ := false
  history := []

def State.setCaller (state : State Table) (thread : Thread) (pc : CallerPc) : State Table :=
  { state with caller := Function.update state.caller thread pc }

def call (thread : Thread) (call : Call) (state : State Table) : Option (State Table) :=
  match state.caller thread with
  | .idle => some { state.setCaller thread (.called call) with
      history := state.history ++ [.call thread call] }
  | _ => none

def refuse (thread : Thread) (startError : Int) (state : State Table) : Option (State Table) :=
  match state.caller thread with
  | .called call => some (state.setCaller thread (.leaving (call.refused startError)))
  | _ => none

/-- `setInterfaceNumber(getInterfaceNumber())` on a new request, and `submit`. The
byte becomes an `int`. -/
def submit (kind : Request → Kind) (thread : Thread) (request : Request) (state : State Table) :
    Option (State Table) :=
  match state.caller thread with
  | .called call =>
      if kind request = call.method.kind then
        (DeviceProxy.submit request state.proxy).map fun proxy =>
          { state.setCaller thread (.waiting call request) with
            proxy := proxy
            interfaceNumber := Function.update state.interfaceNumber request
              call.interfaceNumber.toInt }
      else none
  | _ => none

def ioctl (ioctls : InterfaceIoctls Table) (kind : Request → Kind) (outOfMemory : Bool)
    (state : State Table) : Option (State Table) :=
  match state.proxy.loop with
  | .submit request =>
      if interfaceKind (kind request) = true then
        let (err, flag, table) := interfaceRequest ioctls (kind request) outOfMemory
          (state.interfaceNumber request) state.table
        (submitRequest kind (.synchronous err) state.proxy).map fun proxy =>
          { state with
            proxy := proxy
            table := table
            claimed := Function.update state.claimed request
              (flag.getD (state.claimed request)) }
      else none
  | _ => none

/-- The moves of everybody else on the proxy: nobody else has an interface request
to submit or to cancel. -/
def foreignMove (kind : Request → Kind) (proxy : Proxy) : Move → Bool
  | .submit request | .withdraw request => !interfaceKind (kind request)
  | .submitRequest _ =>
      match proxy.loop with
      | .submit request => !interfaceKind (kind request)
      | _ => true
  | _ => true

def flag (loop : LoopPc) (action : Move) (completed : Request → Bool) : Request → Bool :=
  match loop, action with
  | .completing request .flag _, .stage => Function.update completed request true
  | _, _ => completed

def proxyMove (kind : Request → Kind) (action : Move) (state : State Table) :
    Option (State Table) :=
  if foreignMove kind state.proxy action = true then
    (move kind state.proxy action).map fun proxy =>
      { state with
        proxy := proxy
        completed := flag state.proxy.loop action state.completed }
  else none

def answer (thread : Thread) (state : State Table) : Option (State Table) :=
  match state.caller thread with
  | .waiting call request =>
      if state.completed request = true then
        some { state.setCaller thread .idle with
          history := state.history ++ [.answer thread
            (call.outcome ((state.proxy.error request).getD 0) (state.claimed request))] }
      else none
  | .leaving outcome => some { state.setCaller thread .idle with
      history := state.history ++ [.answer thread outcome] }
  | _ => none

def change (table : Table) (state : State Table) : Option (State Table) :=
  some { state with
    table := table
    history := state.history ++ [.change table] }

def step (ioctls : InterfaceIoctls Table) (kind : Request → Kind) (state : State Table) :
    Label Table → Option (State Table)
  | .call thread method => call thread method state
  | .refuse thread startError => refuse thread startError state
  | .submit thread request => submit kind thread request state
  | .ioctl outOfMemory => ioctl ioctls kind outOfMemory state
  | .proxy action => proxyMove kind action state
  | .answer thread => answer thread state
  | .change table => change table state

/-! ### The calls as operations on the table -/

/-- What keeps a call from its ioctl. -/
inductive Trouble where
  | none
  | outOfMemory
  | notStarted (startError : Int)

/-- Each method does one ioctl on the table and says whether it succeeded. -/
def Call.onTable (ioctls : InterfaceIoctls Table) (call : Call) (table : Table) :
    Outcome × Table :=
  let number := call.interfaceNumber.toInt
  match call.method with
  | .claim =>
      let (errno, after) := ioctls.claimInterface table number
      (if errno = 0 then .returned
        else .threw ("Could not claim interface : " ++ nativeGetErrorMessage (-errno)), after)
  | .release => (.returned, (ioctls.releaseInterface table number).2)
  | .isClaimed => (.answer (decide (ioctls.getDriver table number = 0)), table)
  | .openPipe =>
      (if ioctls.getDriver table number = 0 then .returned
        else .threw "Interface must be claimed before opening pipe", table)

/-- Without memory a method answers as if the ioctl had failed. -/
def Call.withoutMemory (call : Call) : Outcome :=
  match call.method with
  | .claim => .threw "Could not claim interface : Out of memory"
  | .release => .returned
  | .isClaimed => .answer false
  | .openPipe => .threw "Interface must be claimed before opening pipe"

def interfaceObject (ioctls : InterfaceIoctls Table) : Object Table Call Trouble Outcome where
  effect table call trouble := some <|
    match trouble with
    | .none => call.onTable ioctls table
    | .outOfMemory => (call.withoutMemory, table)
    | .notStarted startError => (call.refused startError, table)

/-- `is_claimed` hides the error `ENODATA`, and no other. -/
theorem is_claimed_answer (ioctls : InterfaceIoctls Table) (number : Int) (table : Table) :
    (if (isClaimed ioctls false number table).1 ≠ 0 then false
      else (isClaimed ioctls false number table).2.getD false) =
      decide (ioctls.getDriver table number = 0) := by
  by_cases driver : ioctls.getDriver table number = 0
  · simp [isClaimed, driver]
  · have failed : (-ioctls.getDriver table number : Int) ≠ 0 := by omega
    simp [isClaimed, failed, driver]

/-- The ioctl of a request and the outcome of its call are the operation on the table. -/
theorem outcome_on_table (ioctls : InterfaceIoctls Table) (call : Call) (table : Table)
    (outOfMemory : Bool) {err : Int} {flag : Option Bool} {after : Table}
    (request : interfaceRequest ioctls call.method.kind outOfMemory
      call.interfaceNumber.toInt table = (err, flag, after)) :
    (interfaceObject ioctls).effect table call (if outOfMemory then .outOfMemory else .none) =
      some (call.outcome err (flag.getD false), after) := by
  cases outOfMemory with
  | true =>
      cases method : call.method <;>
        simp only [method, Method.kind, interfaceRequest, claimInterface, isClaimed, if_true,
          Prod.mk.injEq] at request <;>
        obtain ⟨rfl, rfl, rfl⟩ := request <;>
        simp [interfaceObject, Call.withoutMemory, Call.outcome, method, enomem,
          nativeGetErrorMessage]
  | false =>
      have claimed := is_claimed_answer ioctls call.interfaceNumber.toInt table
      cases method : call.method with
      | claim | release =>
          simp only [method, Method.kind, interfaceRequest, claimInterface, if_true, if_false,
            Bool.false_eq_true, Prod.mk.injEq] at request
          obtain ⟨rfl, rfl, rfl⟩ := request
          simp [interfaceObject, Call.onTable, Call.outcome, method]
      | isClaimed | openPipe =>
          simp only [method, Method.kind, interfaceRequest, Prod.mk.injEq] at request
          obtain ⟨rfl, rfl, rfl⟩ := request
          simp only [interfaceObject, Call.onTable, Call.outcome, method, claimed,
            decide_eq_true_eq, Bool.false_eq_true, if_false]

/-! ### Runs -/

/-- All that a step can do, with the tests that it passed. -/
inductive Stepped (ioctls : InterfaceIoctls Table) (kind : Request → Kind)
    (before : State Table) : Label Table → State Table → Prop
  | call (thread : Thread) (call : Call) (idle : before.caller thread = .idle) :
      Stepped ioctls kind before (.call thread call)
        { before.setCaller thread (.called call) with
          history := before.history ++ [.call thread call] }
  | refuse (thread : Thread) (startError : Int) (call : Call)
      (here : before.caller thread = .called call) :
      Stepped ioctls kind before (.refuse thread startError)
        (before.setCaller thread (.leaving (call.refused startError)))
  | submit (thread : Thread) (request : Request) (call : Call) (proxy : Proxy)
      (here : before.caller thread = .called call) (its : kind request = call.method.kind)
      (moved : Moved kind before.proxy (.submit request) proxy) :
      Stepped ioctls kind before (.submit thread request)
        { before.setCaller thread (.waiting call request) with
          proxy := proxy
          interfaceNumber := Function.update before.interfaceNumber request
            call.interfaceNumber.toInt }
  | ioctl (outOfMemory : Bool) (request : Request) (err : Int) (answered : Option Bool)
      (table : Table) (proxy : Proxy) (here : before.proxy.loop = .submit request)
      (its : interfaceKind (kind request) = true)
      (done : interfaceRequest ioctls (kind request) outOfMemory
        (before.interfaceNumber request) before.table = (err, answered, table))
      (moved : Moved kind before.proxy (.submitRequest (.synchronous err)) proxy) :
      Stepped ioctls kind before (.ioctl outOfMemory)
        { before with
          proxy := proxy
          table := table
          claimed := Function.update before.claimed request
            (answered.getD (before.claimed request)) }
  | proxy (action : Move) (proxy : Proxy)
      (foreign : foreignMove kind before.proxy action = true)
      (moved : Moved kind before.proxy action proxy) :
      Stepped ioctls kind before (.proxy action)
        { before with
          proxy := proxy
          completed := flag before.proxy.loop action before.completed }
  | answer (thread : Thread) (call : Call) (request : Request)
      (here : before.caller thread = .waiting call request)
      (done : before.completed request = true) :
      Stepped ioctls kind before (.answer thread)
        { before.setCaller thread .idle with
          history := before.history ++ [.answer thread
            (call.outcome ((before.proxy.error request).getD 0) (before.claimed request))] }
  | leave (thread : Thread) (outcome : Outcome) (here : before.caller thread = .leaving outcome) :
      Stepped ioctls kind before (.answer thread)
        { before.setCaller thread .idle with
          history := before.history ++ [.answer thread outcome] }
  | change (table : Table) :
      Stepped ioctls kind before (.change table)
        { before with
          table := table
          history := before.history ++ [.change table] }

theorem stepped_of_step {ioctls : InterfaceIoctls Table} {kind : Request → Kind}
    {before after : State Table} {label : Label Table}
    (taken : step ioctls kind before label = some after) :
    Stepped ioctls kind before label after := by
  cases label with
  | call thread method =>
      simp only [step, call] at taken
      split at taken
      · cases taken
        exact .call thread method ‹_›
      · contradiction
  | refuse thread startError =>
      simp only [step, refuse] at taken
      split at taken
      · cases taken
        exact .refuse thread startError _ ‹_›
      · contradiction
  | submit thread request =>
      simp only [step, submit] at taken
      split at taken
      · split_ifs at taken with its
        obtain ⟨proxy, moved, rfl⟩ := Option.map_eq_some_iff.mp taken
        exact .submit thread request _ proxy ‹_› its (moved_of_move moved)
      · contradiction
  | ioctl outOfMemory =>
      simp only [step, ioctl] at taken
      split at taken
      · split_ifs at taken with its
        obtain ⟨proxy, moved, rfl⟩ := Option.map_eq_some_iff.mp taken
        exact .ioctl outOfMemory _ _ _ _ proxy ‹_› its rfl (moved_of_move moved)
      · contradiction
  | proxy action =>
      simp only [step, proxyMove, Option.ite_none_right_eq_some, Option.map_eq_some_iff] at taken
      obtain ⟨foreign, proxy, moved, rfl⟩ := taken
      exact .proxy action proxy foreign (moved_of_move moved)
  | answer thread =>
      simp only [step, answer] at taken
      split at taken
      · split_ifs at taken with done
        cases taken
        exact .answer thread _ _ ‹_› done
      · cases taken
        exact .leave thread _ ‹_›
      · contradiction
  | change table =>
      cases taken
      exact .change table

end

end JavaxUsbLinux.InterfaceClaims
