import JavaxUsbLinux.MonitorOrder

/-!
# The monitors of the driver

What the methods of the driver do with its monitors: their `synchronized` blocks with the
calls made inside them, the waits, and the calls that end with a `notifyAll`. Conditions
on data that choose a branch are arguments. The code outside of the driver that completes
an irp or listens for topology changes may call the driver back, with these exceptions:
`cancel` completes a request inside the block of the ready list and calls nobody back, a
completion does not wait for a request, and neither of them calls `getUsbRootHub`.
-/

namespace JavaxUsbLinux.DriverMonitors

open Relation
open JavaxUsbLinux.Runs
open JavaxUsbLinux.MonitorOrder

set_option autoImplicit false

/-- Each `LinuxUsbServices`, `LinuxDeviceProxy`, pipe and request has its own; a proxy
is also a monitor itself. -/
inductive Monitor where
  | services
  | topologyLock
  | proxy (device : Nat)
  | startLock (device : Nat)
  | readyList (device : Nat)
  | cancelList (device : Nat)
  | inProgressList (pipe : Nat)
  | waitLock (request : Nat)
  deriving DecidableEq

abbrev Program := List (Action Monitor)

def synchronized (monitor : Monitor) (body : Program) : Program :=
  .enter monitor :: (body ++ [.leave monitor])

/-- A block that waits on its own monitor this often. -/
def waiting (monitor : Monitor) (waits : Nat) : Program :=
  .enter monitor :: (List.replicate waits (.wait monitor) ++ [.leave monitor])

/-! ### LinuxRequest and its subclasses -/

/-- How a request completes: one of a pipe leaves the list of its pipe and completes
its irp, one of the device completes its `RequestImp`, one of an interface neither. -/
inductive Completion where
  | pipe (pipe : Nat)
  | device
  | interface

structure Request where
  number : Nat
  completion : Completion
  /-- Whether `waitCount` is positive when `notifyCompleted` reads it. -/
  waited : Bool

def waitUntilCompleted (request : Request) (waits : Nat) : Program :=
  waiting (.waitLock request.number) waits

/-- A call that ends with the `notifyAll` of a monitor. -/
def notifying (monitor : Monitor) (before : Program) : Program :=
  .promise monitor :: (before ++ synchronized monitor [.notifyAll monitor])

def linuxPipeRequestCompleted (pipe : Nat) : Program :=
  synchronized (.inProgressList pipe) []

/-- The stages of `setCompleted` before `notifyCompleted`. `listener` is what the code
behind `complete()` calls. -/
def completed (request : Request) (listener : Program) : Program :=
  match request.completion with
  | .pipe pipe => linuxPipeRequestCompleted pipe ++ listener
  | .device => listener
  | .interface => []

/-- `notifyCompleted` notifies if the request is waited for. -/
def setCompleted (request : Request) (listener : Program) : Program :=
  if request.waited then notifying (.waitLock request.number) (completed request listener)
  else completed request listener

/-! ### LinuxRequestProxy and LinuxDeviceProxy -/

def submit (device : Nat) : Program :=
  synchronized (.readyList device) []

/-- The ready list is left before the cancel list is entered, but not before a request
that was found in it is completed. -/
def cancel (device : Nat) (contained : Bool) (request : Request) : Program :=
  if contained then synchronized (.readyList device) (setCompleted request [])
  else synchronized (.readyList device) [] ++ synchronized (.cancelList device) []

def getReadyRequest (device : Nat) : Program :=
  synchronized (.readyList device) []

def getCancelRequest (device : Nat) : Program :=
  synchronized (.cancelList device) []

def start (device : Nat) : Program :=
  waiting (.startLock device) 1

def startCompleted (device : Nat) : Program :=
  notifying (.startLock device) []

/-! ### LinuxDeviceOsImp, LinuxInterfaceOsImp and LinuxPipeOsImp -/

/-- A call of `getLinuxDeviceProxy`, and whether it returns the proxy. -/
structure ProxyCall where
  device : Nat
  isRunning : Bool
  started : Bool

def getLinuxDeviceProxy (call : ProxyCall) : Program :=
  if call.isRunning then [] else synchronized (.proxy call.device) (start call.device)

def deviceSubmit (call : ProxyCall) : Program :=
  getLinuxDeviceProxy call ++ if call.started then submit call.device else []

structure CancelCall extends ProxyCall where
  contained : Bool
  request : Request
  waits : Nat

def deviceCancel (call : CancelCall) : Program :=
  getLinuxDeviceProxy call.toProxyCall ++
    if call.started then cancel call.device call.contained call.request else []

/-- `claim`, `release` and `isClaimed` of an interface, and `open` of a pipe. -/
def interfaceCall (call : ProxyCall) (request : Request) (waits : Nat) : Program :=
  deviceSubmit call ++ if call.started then waitUntilCompleted request waits else []

def asyncSubmit (pipe : Nat) (call : ProxyCall) : Program :=
  deviceSubmit call ++ if call.started then synchronized (.inProgressList pipe) [] else []

def abortAllSubmissions (pipe : Nat) (requests : List CancelCall) : Program :=
  synchronized (.inProgressList pipe) [] ++ (requests.flatMap deviceCancel ++
    requests.flatMap fun call => waitUntilCompleted call.request call.waits)

/-! ### LinuxUsbServices -/

def getUsbRootHub (isListening : Bool) : Program :=
  synchronized .services (if isListening then [] else waiting .topologyLock 1)

def topologyListenerExit : Program :=
  notifying .topologyLock []

/-- The events are fired before the callers of `getUsbRootHub` are woken. -/
def updateTopology (listener : Program) : Program :=
  notifying .topologyLock listener

/-- Who calls the driver: a thread of its own accord, or a listener. -/
inductive Caller where
  | thread
  | topologyListener
  | completionListener
  deriving DecidableEq

/-- What can be called one after the other. Only `updateTopology` and `setCompleted`
call listeners. -/
inductive Called : Caller → Program → Prop
  | nothing (caller : Caller) : Called caller []
  | next {caller : Caller} {first later : Program} :
      Called caller first → Called caller later → Called caller (first ++ later)
  | deviceSubmit (caller : Caller) (call : ProxyCall) : Called caller (deviceSubmit call)
  | deviceCancel (caller : Caller) (call : CancelCall) : Called caller (deviceCancel call)
  | asyncSubmit (caller : Caller) (pipe : Nat) (call : ProxyCall) :
      Called caller (asyncSubmit pipe call)
  | interfaceCall {caller : Caller} (may : caller ≠ .completionListener) (call : ProxyCall)
      (request : Request) (waits : Nat) : Called caller (interfaceCall call request waits)
  | abortAllSubmissions {caller : Caller} (may : caller ≠ .completionListener) (pipe : Nat)
      (requests : List CancelCall) : Called caller (abortAllSubmissions pipe requests)
  | getUsbRootHub (isListening : Bool) : Called .thread (getUsbRootHub isListening)
  | topologyListenerExit : Called .thread topologyListenerExit
  | updateTopology {listener : Program} (called : Called .topologyListener listener) :
      Called .thread (updateTopology listener)
  | startCompleted (device : Nat) : Called .thread (startCompleted device)
  | getReadyRequest (device : Nat) : Called .thread (getReadyRequest device)
  | getCancelRequest (device : Nat) : Called .thread (getCancelRequest device)
  | setCompleted (request : Request) {listener : Program}
      (called : Called .completionListener listener) :
      Called .thread (setCompleted request listener)

/-! ### The order of the monitors -/

/-- The signals that nobody waits for have no place in the order. -/
def rank : Resource Monitor → Nat
  | .lock .services => 0
  | .signal .topologyLock => 1
  | .signal (.waitLock _) => 2
  | .lock (.proxy _) => 3
  | .signal (.startLock _) => 4
  | .lock .topologyLock | .lock (.startLock _) | .lock (.readyList _) | .lock (.cancelList _) => 5
  | .lock (.inProgressList _) | .lock (.waitLock _) => 6
  | .signal _ => 0

/-- What a caller calls comes after the signals that were promised before. -/
def floor : Caller → Nat
  | .thread => 0
  | .topologyListener => 2
  | .completionListener => 3

structure Above (lowest : Nat) (program : Program) : Prop where
  ordered : Ordered rank [] [] program
  lower : ∀ stop ∈ stops program, lowest ≤ rank stop

theorem above_nothing (lowest : Nat) : Above lowest [] :=
  ⟨⟨rfl, rfl⟩, by simp [stops]⟩

theorem Above.weaken {lowest floor : Nat} {program : Program} (above : Above lowest program)
    (less : floor ≤ lowest) : Above floor program :=
  ⟨above.ordered, fun stop member => less.trans (above.lower stop member)⟩

theorem Above.append {lowest : Nat} {first later : Program} (above : Above lowest first)
    (next : Above lowest later) : Above lowest (first ++ later) := by
  refine ⟨above.ordered.append next.ordered, fun stop member => ?_⟩
  rw [stops, List.flatMap_append, List.mem_append] at member
  exact member.elim (above.lower stop) (next.lower stop)

theorem above_flat_map {Item : Type*} {lowest : Nat} (program : Item → Program)
    (items : List Item) (above : ∀ item, Above lowest (program item)) :
    Above lowest (items.flatMap program) := by
  refine ⟨ordered_flat_map program items fun item _ => (above item).ordered, ?_⟩
  intro stop member
  rw [stops, List.flatMap_assoc, List.mem_flatMap] at member
  obtain ⟨item, _, member⟩ := member
  exact (above item).lower stop member

theorem above_if (condition : Bool) {lowest : Nat} {first second : Program}
    (above : Above lowest first) (other : Above lowest second) :
    Above lowest (if condition then first else second) := by
  cases condition
  · exact other
  · exact above

theorem above_synchronized {lowest : Nat} {monitor : Monitor} {body : Program}
    (above : Above (rank (.lock monitor) + 1) body) (here : lowest ≤ rank (.lock monitor)) :
    Above lowest (synchronized monitor body) := by
  constructor
  · refine ⟨Or.inr ⟨by simp, by simp⟩, above.ordered.within ?_ ⟨rfl, rfl, rfl⟩⟩
    intro stop member
    refine ⟨fun held inside => ?_, by simp⟩
    rw [List.mem_singleton.mp inside]
    exact above.lower stop member
  · intro stop member
    simp only [synchronized, stops, List.flatMap_cons, List.flatMap_append, Action.stops,
      List.flatMap_nil, List.append_nil, List.singleton_append, List.mem_cons] at member
    rcases member with rfl | inside
    · exact here
    · exact here.trans (Nat.le_of_succ_le (above.lower stop inside))

theorem above_empty {lowest : Nat} (monitor : Monitor) (here : lowest ≤ rank (.lock monitor)) :
    Above lowest (synchronized monitor []) :=
  above_synchronized (above_nothing _) here

theorem above_waiting {lowest : Nat} (monitor : Monitor) (lock : lowest ≤ rank (.lock monitor))
    (signal : lowest ≤ rank (.signal monitor)) (waits : Nat) :
    Above lowest (waiting monitor waits) := by
  constructor
  · refine ⟨Or.inr ⟨by simp, by simp⟩, ?_⟩
    induction waits with
    | zero => exact ⟨rfl, rfl, rfl⟩
    | succ waits ih => exact ⟨rfl, ⟨by simp, by simp⟩, ⟨by simp, by simp⟩, ih⟩
  · intro stop member
    simp only [waiting, stops, List.flatMap_cons, List.flatMap_append, Action.stops,
      List.flatMap_replicate, List.flatMap_nil, List.append_nil, List.mem_append, List.mem_cons,
      List.not_mem_nil, or_false, List.mem_flatten, List.mem_replicate] at member
    rcases member with rfl | ⟨_, ⟨_, rfl⟩, member⟩
    · exact lock
    · simp only [List.mem_cons, List.not_mem_nil, or_false] at member
      rcases member with rfl | rfl
      · exact signal
      · exact lock

theorem above_notifying {lowest : Nat} {monitor : Monitor} {before : Program}
    (above : Above lowest before) (later : rank (.signal monitor) < lowest)
    (lock : lowest ≤ rank (.lock monitor)) : Above lowest (notifying monitor before) := by
  constructor
  · have own : Below rank [] [monitor] (.lock monitor) := by
      refine ⟨by simp, fun promised member => ?_⟩
      rw [List.mem_singleton.mp member]
      exact later.trans_le lock
    apply above.ordered.within
    · intro stop member
      refine ⟨by simp, fun promised inside => ?_⟩
      rw [List.mem_singleton.mp inside]
      exact later.trans_le (above.lower stop member)
    · exact ⟨Or.inr own, by simp, by simp, rfl, by simp [Ordered]⟩
  · intro stop member
    simp only [notifying, synchronized, stops, List.flatMap_cons, List.flatMap_append,
      Action.stops, List.flatMap_nil, List.append_nil, List.nil_append, List.mem_append,
      List.mem_singleton] at member
    rcases member with inside | rfl
    · exact above.lower stop inside
    · exact lock

theorem above_completed (request : Request) {lowest : Nat} {listener : Program}
    (above : Above lowest listener) (low : lowest ≤ 6) :
    Above lowest (completed request listener) := by
  cases kind : request.completion with
  | pipe pipe =>
      rw [completed, kind]
      exact (above_empty (.inProgressList pipe) low).append above
  | device =>
      rw [completed, kind]
      exact above
  | interface =>
      rw [completed, kind]
      exact above_nothing lowest

theorem above_set_completed (request : Request) {lowest : Nat} {listener : Program}
    (above : Above lowest listener) (later : 2 < lowest) (low : lowest ≤ 6) :
    Above lowest (setCompleted request listener) :=
  above_if request.waited (above_notifying (above_completed request above low) later low)
    (above_completed request above low)

/-- Without a listener the completion enters the list of the pipe and the lock of the
request, which come after all others. -/
theorem above_cancel (device : Nat) (contained : Bool) (request : Request) :
    Above 5 (cancel device contained request) := by
  have completes : Above 6 (setCompleted request []) :=
    above_set_completed request (above_nothing 6) (by decide) le_rfl
  exact above_if contained (above_synchronized completes le_rfl)
    ((above_empty (.readyList device) le_rfl).append (above_empty (.cancelList device) le_rfl))

theorem above_start (device : Nat) : Above 4 (start device) :=
  above_waiting (.startLock device) (by simp [rank]) le_rfl 1

theorem above_start_completed (device : Nat) : Above 5 (startCompleted device) :=
  above_notifying (above_nothing 5) (by simp [rank]) le_rfl

theorem above_proxy (call : ProxyCall) : Above 3 (getLinuxDeviceProxy call) :=
  above_if call.isRunning (above_nothing 3) (above_synchronized (above_start call.device) le_rfl)

theorem above_submit (call : ProxyCall) : Above 3 (deviceSubmit call) :=
  (above_proxy call).append
    (above_if call.started (above_empty (.readyList call.device) (by simp [rank]))
      (above_nothing 3))

theorem above_device_cancel (call : CancelCall) : Above 3 (deviceCancel call) := by
  have cancels := above_cancel call.device call.contained call.request
  exact (above_proxy call.toProxyCall).append
    (above_if call.started (cancels.weaken (by decide)) (above_nothing 3))

theorem above_await (request : Request) (waits : Nat) :
    Above 2 (waitUntilCompleted request waits) :=
  above_waiting (.waitLock request.number) (by simp [rank]) le_rfl waits

theorem above_interface_call (call : ProxyCall) (request : Request) (waits : Nat) :
    Above 2 (interfaceCall call request waits) :=
  ((above_submit call).weaken (by decide)).append
    (above_if call.started (above_await request waits) (above_nothing 2))

theorem above_async_submit (pipe : Nat) (call : ProxyCall) : Above 3 (asyncSubmit pipe call) :=
  (above_submit call).append
    (above_if call.started (above_empty (.inProgressList pipe) (by simp [rank]))
      (above_nothing 3))

theorem above_abort (pipe : Nat) (requests : List CancelCall) :
    Above 2 (abortAllSubmissions pipe requests) := by
  have cancels (call : CancelCall) : Above 2 (deviceCancel call) :=
    (above_device_cancel call).weaken (by decide)
  have waits (call : CancelCall) : Above 2 (waitUntilCompleted call.request call.waits) :=
    above_await call.request call.waits
  exact (above_empty (.inProgressList pipe) (by simp [rank])).append
    ((above_flat_map _ requests cancels).append (above_flat_map _ requests waits))

theorem above_root_hub (isListening : Bool) : Above 0 (getUsbRootHub isListening) := by
  have waits : Above 1 (waiting .topologyLock 1) :=
    above_waiting .topologyLock (by simp [rank]) le_rfl 1
  exact above_synchronized (above_if isListening (above_nothing 1) waits) le_rfl

theorem above_update {listener : Program} (above : Above 2 listener) :
    Above 2 (updateTopology listener) :=
  above_notifying above (by simp [rank]) (by simp [rank])

theorem floor_waiting {caller : Caller} (may : caller ≠ .completionListener) :
    floor caller ≤ 2 := by
  cases caller <;> simp_all [floor]

theorem floor_submitting (caller : Caller) : floor caller ≤ 3 := by
  cases caller <;> simp [floor]

/-- Every method enters the monitors and sleeps in the order of the ranks, and a
listener after the signal that its caller has promised. -/
theorem Called.above {caller : Caller} {program : Program} (called : Called caller program) :
    Above (floor caller) program := by
  induction called with
  | nothing caller => exact above_nothing _
  | next _ _ first later => exact first.append later
  | deviceSubmit caller call => exact (above_submit call).weaken (floor_submitting caller)
  | deviceCancel caller call => exact (above_device_cancel call).weaken (floor_submitting caller)
  | asyncSubmit caller pipe call =>
      exact (above_async_submit pipe call).weaken (floor_submitting caller)
  | interfaceCall may call request waits =>
      exact (above_interface_call call request waits).weaken (floor_waiting may)
  | abortAllSubmissions may pipe requests =>
      exact (above_abort pipe requests).weaken (floor_waiting may)
  | getUsbRootHub isListening => exact above_root_hub isListening
  | topologyListenerExit => exact (above_update (above_nothing 2)).weaken (Nat.zero_le 2)
  | updateTopology _ listener => exact (above_update listener).weaken (Nat.zero_le 2)
  | startCompleted device => exact (above_start_completed device).weaken (Nat.zero_le 5)
  | getReadyRequest device => exact above_empty _ (Nat.zero_le _)
  | getCancelRequest device => exact above_empty _ (Nat.zero_le _)
  | setCompleted request _ listener =>
      exact (above_set_completed request listener (by decide) (by decide)).weaken (Nat.zero_le 3)

/-! ### Any number of threads -/

/-- An abort sleeps until the request 5 is completed. The thread that completes it is
about to enter the list of the pipe, in which another thread records a request. -/
def completing : List (Label Nat Monitor) :=
  .call 2 (abortAllSubmissions 1 [⟨⟨0, true, true⟩, false, ⟨5, .pipe 1, true⟩, 1⟩]) ::
    List.replicate 8 (.act 2) ++
  .call 1 (asyncSubmit 1 ⟨0, true, true⟩) :: List.replicate 3 (.act 1) ++
  [.call 0 (setCompleted ⟨5, .pipe 1, true⟩ []), .act 0]

/-- A listener of `updateTopology` calls `getUsbRootHub`, in which another thread waits
for the end of the update. -/
def rootHubInListener : List (Label Nat Monitor) :=
  [.call 0 (getUsbRootHub false), .act 0, .act 0, .act 0,
    .call 1 (updateTopology (getUsbRootHub true)), .act 1]

/-- The exception for topology listeners is necessary. -/
theorem root_hub_in_listener :
    ∃ system, run step rootHubInListener idle = some system ∧
      TransGen (HeldUp system) 0 0 := by
  refine ⟨_, rfl, .tail (.single (b := 1) ?_) ?_⟩
  · exact .signal _ _ _ _ rfl (by decide)
  · exact .lock _ _ _ _ rfl rfl (by decide)

end JavaxUsbLinux.DriverMonitors
