import JavaxUsbLinux.UrbOwnership

/-!
# The request proxy and its native loop

`LinuxRequestProxy` has a list of requests to submit and a list of requests to
cancel. Clients put requests there; the loop of `nativeDeviceProxy` takes them
out, one of each kind in every round, and then asks the kernel for one finished
URB. A `Move` is one step of a client on these lists, of the loop, or of the
kernel. The fields of `Proxy` from `submitted` on only keep the books.
-/

namespace JavaxUsbLinux.DeviceProxy

open JavaxUsbLinux.NativeUrb
open JavaxUsbLinux.UrbOwnership

set_option autoImplicit false

/-- How far a call of `setCompleted(true)` has come: `unlist` takes the request
off its pipe's list, `complete` calls `complete()` on the object of the user,
`flag` sets `completed` and wakes the waiting threads. -/
inductive Stage where
  | unlist
  | complete
  | flag
  deriving DecidableEq

def Stage.first : Kind → Stage
  | .pipe => .unlist
  | .dcp | .setInterface | .setConfiguration => .complete
  | .claimInterface | .isClaimedInterface | .releaseInterface | .isochronous => .flag

def Stage.next : Stage → Option Stage
  | .unlist => some .complete
  | .complete => some .flag
  | .flag => none

inductive Resume where
  | getCancel
  | deleteReference (handle : Handle)
  deriving DecidableEq

/-- The position of the loop. `isRequestWaiting` reads the two lists one after the other. -/
inductive LoopPc where
  | testReady
  | testCancel
  | getReady
  | submit (request : Request)
  | getCancel
  | cancel (request : Request)
  | reap
  | complete (held : Held) (status : Int)
  | completing (request : Request) (stage : Stage) (resume : Resume)
  | deleteReference (handle : Handle)
  deriving DecidableEq

def Resume.pc : Resume → LoopPc
  | .getCancel => .getCancel
  | .deleteReference handle => .deleteReference handle

namespace LoopPc

def hand : LoopPc → List Request
  | .submit request => [request]
  | _ => []

def reaped : LoopPc → List Held
  | .complete held _ => [held]
  | _ => []

def dangling : LoopPc → List Handle
  | .completing _ _ (.deleteReference handle) => [handle]
  | .deleteReference handle => [handle]
  | _ => []

end LoopPc

@[simp] theorem resume_hand (resume : Resume) : resume.pc.hand = [] := by
  cases resume <;> rfl

@[simp] theorem resume_reaped (resume : Resume) : resume.pc.reaped = [] := by
  cases resume <;> rfl

@[simp] theorem completing_dangling (request : Request) (stage : Stage) (resume : Resume) :
    (LoopPc.completing request stage resume).dangling = resume.pc.dangling := by
  cases resume <;> rfl

structure Proxy where
  native : Native
  readyList : List Request
  cancelList : List Request
  loop : LoopPc
  error : Request → Option Int
  submitted : List Request
  handed : List Request
  removed : List Request
  settled : List Request
  lost : List Request

namespace Proxy

def initial : Proxy where
  native := Native.initial
  readyList := []
  cancelList := []
  loop := .testReady
  error _ := none
  submitted := []
  handed := []
  removed := []
  settled := []
  lost := []

def setError (proxy : Proxy) (request : Request) (error : Int) : Proxy :=
  { proxy with error := Function.update proxy.error request (some error) }

/-- The URBs that are not freed yet: the kernel's, and one between its reaping
and its completion. -/
def owned (proxy : Proxy) : List Held :=
  proxy.loop.reaped ++ proxy.native.kernel

end Proxy

def submit (request : Request) (proxy : Proxy) : Option Proxy :=
  if request ∈ proxy.submitted then none
  else some { proxy with
    readyList := proxy.readyList ++ [request]
    submitted := proxy.submitted ++ [request] }

/-- `cancel` finds the request in `readyList` and calls `setError(-1)` and `setCompleted(true)`. -/
def withdraw (request : Request) (proxy : Proxy) : Option Proxy :=
  if request ∈ proxy.readyList then
    some { proxy.setError request (-1) with
      readyList := proxy.readyList.erase request
      removed := proxy.removed ++ [request]
      settled := proxy.settled ++ [request] }
  else none

/-- The second half of `cancel`: `cancelList.add(request)`. -/
def queue (request : Request) (proxy : Proxy) : Option Proxy :=
  some { proxy with cancelList := proxy.cancelList ++ [request] }

def testReady (proxy : Proxy) : Option Proxy :=
  if proxy.loop = .testReady then
    some { proxy with loop := if proxy.readyList = [] then .testCancel else .getReady }
  else none

def testCancel (proxy : Proxy) : Option Proxy :=
  if proxy.loop = .testCancel then
    some { proxy with loop := if proxy.cancelList = [] then .reap else .getReady }
  else none

def getReadyRequest (proxy : Proxy) : Option Proxy :=
  if proxy.loop = .getReady then
    match proxy.readyList with
    | [] => some { proxy with loop := .getCancel }
    | request :: rest => some { proxy with
        readyList := rest
        loop := .submit request
        handed := proxy.handed ++ [request] }
  else none

def NativeOutcome.accepts : NativeOutcome → Bool
  | .urb (.accepted _) => true
  | _ => false

theorem accepts_iff {outcome : NativeOutcome} :
    NativeOutcome.accepts outcome = true ↔ ∃ address, outcome = .urb (.accepted address) := by
  cases outcome with
  | urb chosen => cases chosen <;> simp [NativeOutcome.accepts]
  | _ => simp [NativeOutcome.accepts]

def tellError (proxy : Proxy) (request : Request) (err : Int) : Proxy :=
  { proxy with error := if err = 0 then proxy.error else (proxy.setError request err).error }

def submitRequest (kind : Request → Kind) (outcome : NativeOutcome) (proxy : Proxy) :
    Option Proxy :=
  match proxy.loop with
  | .submit request =>
      match submitNative proxy.native (kind request) request outcome with
      | none => none
      | some (err, synchronous, native) =>
          if synchronous ∨ err ≠ 0 then
            some { tellError proxy request err with
              native := native
              loop := .completing request (Stage.first (kind request)) .getCancel
              settled := proxy.settled ++ [request] }
          else
            some { proxy with
              native := native
              loop := .getCancel
              lost := if NativeOutcome.accepts outcome then proxy.lost
                else proxy.lost ++ [request] }
  | _ => none

def stage (proxy : Proxy) : Option Proxy :=
  match proxy.loop with
  | .completing request stage resume =>
      match stage.next with
      | some next => some { proxy with loop := .completing request next resume }
      | none => some { proxy with loop := resume.pc }
  | _ => none

def getCancelRequest (proxy : Proxy) : Option Proxy :=
  if proxy.loop = .getCancel then
    match proxy.cancelList with
    | [] => some { proxy with loop := .reap }
    | request :: rest => some { proxy with cancelList := rest, loop := .cancel request }
  else none

def cancelRequest (kind : Request → Kind) (status : Int) (proxy : Proxy) : Option Proxy :=
  match proxy.loop with
  | .cancel request => some { proxy with
      native := cancelNative proxy.native (kind request) request status
      loop := .reap }
  | _ => none

/-- `REAPURBNDELAY` returns one of the finished URBs, or fails. -/
def reap (found : Option (Held × Int)) (proxy : Proxy) : Option Proxy :=
  if proxy.loop = .reap then
    match found with
    | none => some { proxy with loop := .testReady }
    | some (held, status) =>
        if (held, status) ∈ proxy.native.finished then
          some { proxy with
            native := proxy.native.reapUrb held status
            loop := .complete held status }
        else none
  else none

/-- `completeRequest` on the request that `urb->usercontext` refers to. -/
def completeRequest (kind : Request → Kind) (proxy : Proxy) : Option Proxy :=
  match proxy.loop with
  | .complete held status =>
      match (proxy.native.heap held.address).bind Urb.usercontext with
      | none => some { proxy with
          native := { proxy.native with
            faults := proxy.native.faults ++ [.badUsercontext held.address] }
          loop := .testReady }
      | some handle =>
          match proxy.native.references handle with
          | none => some { proxy with
              native := { proxy.native with
                faults := proxy.native.faults ++ [.badReference handle] }
              loop := .testReady }
          | some request =>
              let (err, native) := completeNative proxy.native (kind request) request status
              some { tellError proxy request err with
                native := native
                loop := .completing request (Stage.first (kind request)) (.deleteReference handle)
                settled := proxy.settled ++ [request] }
  | _ => none

def deleteReference (proxy : Proxy) : Option Proxy :=
  match proxy.loop with
  | .deleteReference handle => some { proxy with
      native := proxy.native.deleteGlobalRef handle
      loop := .testReady }
  | _ => none

def finish (held : Held) (status : Int) (proxy : Proxy) : Option Proxy :=
  if held ∈ proxy.native.pending then
    some { proxy with native := proxy.native.finishUrb held status }
  else none

inductive Move where
  | submit (request : Request)
  | withdraw (request : Request)
  | queue (request : Request)
  | testReady
  | testCancel
  | getReadyRequest
  | submitRequest (outcome : NativeOutcome)
  | stage
  | getCancelRequest
  | cancelRequest (status : Int)
  | reap (found : Option (Held × Int))
  | completeRequest
  | deleteReference
  | finish (held : Held) (status : Int)

def move (kind : Request → Kind) (proxy : Proxy) : Move → Option Proxy
  | .submit request => submit request proxy
  | .withdraw request => withdraw request proxy
  | .queue request => queue request proxy
  | .testReady => testReady proxy
  | .testCancel => testCancel proxy
  | .getReadyRequest => getReadyRequest proxy
  | .submitRequest outcome => submitRequest kind outcome proxy
  | .stage => stage proxy
  | .getCancelRequest => getCancelRequest proxy
  | .cancelRequest status => cancelRequest kind status proxy
  | .reap found => reap found proxy
  | .completeRequest => completeRequest kind proxy
  | .deleteReference => deleteReference proxy
  | .finish held status => finish held status proxy

/-- All that a move can do, with the tests that it passed. -/
inductive Moved (kind : Request → Kind) (before : Proxy) : Move → Proxy → Prop
  | submit (request : Request) (fresh : request ∉ before.submitted) :
      Moved kind before (.submit request) { before with
        readyList := before.readyList ++ [request]
        submitted := before.submitted ++ [request] }
  | withdraw (request : Request) (ready : request ∈ before.readyList) :
      Moved kind before (.withdraw request) { before.setError request (-1) with
        readyList := before.readyList.erase request
        removed := before.removed ++ [request]
        settled := before.settled ++ [request] }
  | queue (request : Request) :
      Moved kind before (.queue request) { before with
        cancelList := before.cancelList ++ [request] }
  | testReady (here : before.loop = .testReady) :
      Moved kind before .testReady { before with
        loop := if before.readyList = [] then .testCancel else .getReady }
  | testCancel (here : before.loop = .testCancel) :
      Moved kind before .testCancel { before with
        loop := if before.cancelList = [] then .reap else .getReady }
  | noReady (here : before.loop = .getReady) (empty : before.readyList = []) :
      Moved kind before .getReadyRequest { before with loop := .getCancel }
  | takeReady (request : Request) (rest : List Request) (here : before.loop = .getReady)
      (first : before.readyList = request :: rest) :
      Moved kind before .getReadyRequest { before with
        readyList := rest
        loop := .submit request
        handed := before.handed ++ [request] }
  | settleSubmit (request : Request) (outcome : NativeOutcome) (err : Int) (synchronous : Bool)
      (native : Native) (here : before.loop = .submit request)
      (done : submitNative before.native (kind request) request outcome =
        some (err, synchronous, native)) (settles : synchronous = true ∨ err ≠ 0) :
      Moved kind before (.submitRequest outcome) { tellError before request err with
        native := native
        loop := .completing request (Stage.first (kind request)) .getCancel
        settled := before.settled ++ [request] }
  | sendSubmit (request : Request) (outcome : NativeOutcome) (native : Native)
      (here : before.loop = .submit request)
      (done : submitNative before.native (kind request) request outcome =
        some (0, false, native)) :
      Moved kind before (.submitRequest outcome) { before with
        native := native
        loop := .getCancel
        lost := if NativeOutcome.accepts outcome then before.lost else before.lost ++ [request] }
  | nextStage (request : Request) (stage next : Stage) (resume : Resume)
      (here : before.loop = .completing request stage resume) (more : stage.next = some next) :
      Moved kind before .stage { before with loop := .completing request next resume }
  | lastStage (request : Request) (stage : Stage) (resume : Resume)
      (here : before.loop = .completing request stage resume) (last : stage.next = none) :
      Moved kind before .stage { before with loop := resume.pc }
  | noCancel (here : before.loop = .getCancel) (empty : before.cancelList = []) :
      Moved kind before .getCancelRequest { before with loop := .reap }
  | takeCancel (request : Request) (rest : List Request) (here : before.loop = .getCancel)
      (first : before.cancelList = request :: rest) :
      Moved kind before .getCancelRequest { before with
        cancelList := rest
        loop := .cancel request }
  | cancelRequest (request : Request) (status : Int) (here : before.loop = .cancel request) :
      Moved kind before (.cancelRequest status) { before with
        native := cancelNative before.native (kind request) request status
        loop := .reap }
  | reapNothing (here : before.loop = .reap) :
      Moved kind before (.reap none) { before with loop := .testReady }
  | reap (held : Held) (status : Int) (here : before.loop = .reap)
      (finished : (held, status) ∈ before.native.finished) :
      Moved kind before (.reap (some (held, status))) { before with
        native := before.native.reapUrb held status
        loop := .complete held status }
  | badUsercontext (held : Held) (status : Int) (here : before.loop = .complete held status)
      (missing : (before.native.heap held.address).bind Urb.usercontext = none) :
      Moved kind before .completeRequest { before with
        native := { before.native with
          faults := before.native.faults ++ [.badUsercontext held.address] }
        loop := .testReady }
  | badReference (held : Held) (status : Int) (handle : Handle)
      (here : before.loop = .complete held status)
      (found : (before.native.heap held.address).bind Urb.usercontext = some handle)
      (missing : before.native.references handle = none) :
      Moved kind before .completeRequest { before with
        native := { before.native with
          faults := before.native.faults ++ [.badReference handle] }
        loop := .testReady }
  | completeRequest (held : Held) (status : Int) (handle : Handle) (request : Request)
      (here : before.loop = .complete held status)
      (found : (before.native.heap held.address).bind Urb.usercontext = some handle)
      (referred : before.native.references handle = some request) :
      Moved kind before .completeRequest
        { tellError before request
            (completeNative before.native (kind request) request status).1 with
          native := (completeNative before.native (kind request) request status).2
          loop := .completing request (Stage.first (kind request)) (.deleteReference handle)
          settled := before.settled ++ [request] }
  | deleteReference (handle : Handle) (here : before.loop = .deleteReference handle) :
      Moved kind before .deleteReference { before with
        native := before.native.deleteGlobalRef handle
        loop := .testReady }
  | finish (held : Held) (status : Int) (pending : held ∈ before.native.pending) :
      Moved kind before (.finish held status) { before with
        native := before.native.finishUrb held status }

theorem moved_of_move {kind : Request → Kind} {before after : Proxy} {action : Move}
    (moved : move kind before action = some after) : Moved kind before action after := by
  cases action with
  | submit request =>
      simp only [move, submit] at moved
      split_ifs at moved with known
      cases moved
      exact .submit request known
  | withdraw request =>
      simp only [move, withdraw] at moved
      split_ifs at moved with ready
      cases moved
      exact .withdraw request ready
  | queue request =>
      cases moved
      exact .queue request
  | testReady =>
      simp only [move, testReady, Option.ite_none_right_eq_some, Option.some.injEq] at moved
      obtain ⟨here, rfl⟩ := moved
      exact .testReady here
  | testCancel =>
      simp only [move, testCancel, Option.ite_none_right_eq_some, Option.some.injEq] at moved
      obtain ⟨here, rfl⟩ := moved
      exact .testCancel here
  | getReadyRequest =>
      simp only [move, getReadyRequest] at moved
      split_ifs at moved with here
      split at moved
      · cases moved
        exact .noReady here ‹_›
      · cases moved
        exact .takeReady _ _ here ‹_›
  | submitRequest outcome =>
      simp only [move, submitRequest] at moved
      split at moved
      · split at moved
        · contradiction
        · rename_i here _ err synchronous native done
          by_cases settles : synchronous = true ∨ err ≠ 0
          · rw [if_pos settles] at moved
            cases moved
            exact .settleSubmit _ _ _ _ _ here done settles
          · rw [if_neg settles] at moved
            cases moved
            obtain ⟨rfl, rfl⟩ : synchronous = false ∧ err = 0 := by simpa using settles
            exact .sendSubmit _ _ _ here done
      · contradiction
  | stage =>
      simp only [move, stage] at moved
      split at moved
      · split at moved
        · cases moved
          exact .nextStage _ _ _ _ ‹_› ‹_›
        · cases moved
          exact .lastStage _ _ _ ‹_› ‹_›
      · contradiction
  | getCancelRequest =>
      simp only [move, getCancelRequest] at moved
      split_ifs at moved with here
      split at moved
      · cases moved
        exact .noCancel here ‹_›
      · cases moved
        exact .takeCancel _ _ here ‹_›
  | cancelRequest status =>
      simp only [move, cancelRequest] at moved
      split at moved
      · cases moved
        exact .cancelRequest _ _ ‹_›
      · contradiction
  | reap found =>
      simp only [move, reap] at moved
      split_ifs at moved with here
      split at moved
      · cases moved
        exact .reapNothing here
      · split_ifs at moved with finished
        cases moved
        exact .reap _ _ here finished
  | completeRequest =>
      simp only [move, completeRequest] at moved
      split at moved
      · split at moved
        · cases moved
          exact .badUsercontext _ _ ‹_› ‹_›
        · split at moved
          · cases moved
            exact .badReference _ _ _ ‹_› ‹_› ‹_›
          · cases moved
            exact .completeRequest _ _ _ _ ‹_› ‹_› ‹_›
      · contradiction
  | deleteReference =>
      simp only [move, deleteReference] at moved
      split at moved
      · cases moved
        exact .deleteReference _ ‹_›
      · contradiction
  | finish held status =>
      simp only [move, finish] at moved
      split_ifs at moved with pending
      cases moved
      exact .finish held status pending

end JavaxUsbLinux.DeviceProxy
