import Mathlib.Logic.Function.Basic
import Mathlib.Data.List.Nodup
import Mathlib.Data.List.Perm.Basic

/-!
# URBs, global references and the kernel

The native code keeps one URB block and one global reference for each request
that it hands to the kernel. This module has the memory, the kernel's two URB
lists and the native functions that submit, cancel and complete a request. The
outcome of an allocation or of an ioctl is an argument. Blocks and references
carry serial numbers so that the freeing of each one can be counted even when
`malloc` returns an address again.
-/

namespace JavaxUsbLinux.NativeUrb

set_option autoImplicit false

abbrev Request := Nat

/-- A user address; 0 is `NULL`. Addresses are assumed to fit the Java int. -/
abbrev Address := Nat

abbrev Handle := Nat

/-- The result of `getType()`. -/
inductive Kind where
  | pipe
  | dcp
  | setInterface
  | setConfiguration
  | claimInterface
  | isClaimedInterface
  | releaseInterface
  | isochronous
  deriving DecidableEq

def Kind.asynchronous : Kind → Bool
  | .pipe | .dcp | .isochronous => true
  | _ => false

structure Urb where
  serial : Nat
  usercontext : Option Handle
  deriving DecidableEq

/-- An URB in the hands of the kernel. The kernel knows the address only; the
other fields record which submission this is. -/
structure Held where
  address : Address
  serial : Nat
  handle : Handle
  owner : Request
  deriving DecidableEq

inductive Fault where
  | noUrbToComplete (request : Request)
  | synchronousCompletion (request : Request)
  | badFree (address : Address)
  | badUsercontext (address : Address)
  | badReference (handle : Handle)
  deriving DecidableEq

/-- The native side. The fields from `serials` on only keep the books. -/
structure Native where
  heap : Address → Option Urb
  references : Handle → Option Request
  pending : List Held
  finished : List (Held × Int)
  urbAddress : Request → Address
  serials : Nat
  handles : Nat
  freed : List Nat
  leaked : List Nat
  deleted : List Handle
  discarded : List (Request × Address)
  faults : List Fault

namespace Native

def initial : Native where
  heap _ := none
  references _ := none
  pending := []
  finished := []
  urbAddress _ := 0
  serials := 0
  handles := 0
  freed := []
  leaked := []
  deleted := []
  discarded := []
  faults := []

def kernel (native : Native) : List Held :=
  native.pending ++ (native.finished.map Prod.fst)

def newGlobalRef (native : Native) (request : Request) : Native :=
  { native with
    references := Function.update native.references native.handles (some request)
    handles := native.handles + 1 }

def deleteGlobalRef (native : Native) (handle : Handle) : Native :=
  match native.references handle with
  | none => { native with faults := native.faults ++ [.badReference handle] }
  | some _ =>
      { native with
        references := Function.update native.references handle none
        deleted := native.deleted ++ [handle] }

def malloc (native : Native) (address : Address) (usercontext : Option Handle) : Native :=
  { native with
    heap := Function.update native.heap address (some ⟨native.serials, usercontext⟩)
    serials := native.serials + 1 }

def free (native : Native) (address : Address) : Native :=
  match native.heap address with
  | none => { native with faults := native.faults ++ [.badFree address] }
  | some urb =>
      { native with
        heap := Function.update native.heap address none
        freed := native.freed ++ [urb.serial] }

def submitUrb (native : Native) (held : Held) : Native :=
  { native with pending := native.pending ++ [held] }

def setUrbAddress (native : Native) (request : Request) (address : Address) : Native :=
  { native with urbAddress := Function.update native.urbAddress request address }

def finishUrb (native : Native) (held : Held) (status : Int) : Native :=
  { native with
    pending := native.pending.erase held
    finished := native.finished ++ [(held, status)] }

def reapUrb (native : Native) (held : Held) (status : Int) : Native :=
  { native with finished := native.finished.erase (held, status) }

def discardUrb (native : Native) (request : Request) (address : Address) (status : Int) : Native :=
  let logged := { native with discarded := native.discarded ++ [(request, address)] }
  match native.pending.find? fun held => held.address == address with
  | none => logged
  | some held => logged.finishUrb held status

@[simp] theorem delete_pending (native : Native) (handle : Handle) :
    (native.deleteGlobalRef handle).pending = native.pending := by
  unfold deleteGlobalRef
  split <;> rfl

@[simp] theorem delete_finished (native : Native) (handle : Handle) :
    (native.deleteGlobalRef handle).finished = native.finished := by
  unfold deleteGlobalRef
  split <;> rfl

@[simp] theorem delete_urb_address (native : Native) (handle : Handle) :
    (native.deleteGlobalRef handle).urbAddress = native.urbAddress := by
  unfold deleteGlobalRef
  split <;> rfl

@[simp] theorem delete_heap (native : Native) (handle : Handle) :
    (native.deleteGlobalRef handle).heap = native.heap := by
  unfold deleteGlobalRef
  split <;> rfl

@[simp] theorem free_pending (native : Native) (address : Address) :
    (native.free address).pending = native.pending := by
  unfold free
  split <;> rfl

@[simp] theorem free_finished (native : Native) (address : Address) :
    (native.free address).finished = native.finished := by
  unfold free
  split <;> rfl

@[simp] theorem free_urb_address (native : Native) (address : Address) :
    (native.free address).urbAddress = native.urbAddress := by
  unfold free
  split <;> rfl

theorem malloc_delete (native : Native) (address : Address) (usercontext : Option Handle)
    (handle : Handle) :
    (native.malloc address usercontext).deleteGlobalRef handle =
      (native.deleteGlobalRef handle).malloc address usercontext := by
  simp only [deleteGlobalRef, malloc]
  split <;> rfl

def available (native : Native) (address : Address) : Bool :=
  address != 0 && (native.heap address).isNone

end Native

def enomem : Int := 12
def einval : Int := 22

/-- What happens to one URB. A rejection stands for a failing `SUBMITURB`, which
sets a nonzero `errno`, and for an unknown pipe type. -/
inductive SubmitOutcome where
  | outOfMemory
  | rejected (address : Address) (errno : Nat)
  | accepted (address : Address)
  deriving DecidableEq

def SubmitOutcome.possible (native : Native) : SubmitOutcome → Bool
  | .outOfMemory => true
  | .rejected address errno => native.available address && errno != 0
  | .accepted address => native.available address

inductive NativeOutcome where
  | synchronous (error : Int)
  | urb (outcome : SubmitOutcome)
  | noIsochronousBuffer (address : Address)
  | noIsochronousData (address : Address)
  deriving DecidableEq

def submitWithReference (native : Native) (request : Request) : SubmitOutcome → Int × Native
  | .outOfMemory => (-enomem, (native.newGlobalRef request).deleteGlobalRef native.handles)
  | .rejected address errno =>
      let allocated := (native.newGlobalRef request).malloc address (some native.handles)
      (-errno, (allocated.deleteGlobalRef native.handles).free address)
  | .accepted address =>
      let allocated := (native.newGlobalRef request).malloc address (some native.handles)
      (0, (allocated.submitUrb ⟨address, native.serials, native.handles, request⟩).setUrbAddress
        request address)

def pipeRequest (native : Native) (request : Request) (outcome : SubmitOutcome) : Int × Native :=
  submitWithReference native request outcome

def dcpRequest (native : Native) (request : Request) (outcome : SubmitOutcome) : Int × Native :=
  submitWithReference native request outcome

/-- `isochronous_request` creates its reference after the allocations, and
returns 0 when one of these fails: without a buffer the URB block is forgotten. -/
def isochronousRequest (native : Native) (request : Request) :
    NativeOutcome → Option (Int × Native)
  | .synchronous _ => none
  | .urb .outOfMemory => some (0, native)
  | .noIsochronousBuffer address =>
      let allocated := native.malloc address none
      some (0, { allocated with leaked := allocated.leaked ++ [native.serials] })
  | .noIsochronousData address => some (-einval, (native.malloc address none).free address)
  | .urb outcome => some (submitWithReference native request outcome)

def NativeOutcome.possible (native : Native) : NativeOutcome → Bool
  | .synchronous _ => true
  | .urb outcome => outcome.possible native
  | .noIsochronousBuffer address | .noIsochronousData address => native.available address

/-- The switch of `submitRequest`: the error and whether the request is synchronous. -/
def submitNative (native : Native) (kind : Kind) (request : Request) (outcome : NativeOutcome) :
    Option (Int × Bool × Native) :=
  if outcome.possible native then
    match kind, outcome with
    | .pipe, .urb outcome =>
        let (err, after) := pipeRequest native request outcome
        some (err, false, after)
    | .dcp, .urb outcome =>
        let (err, after) := dcpRequest native request outcome
        some (err, false, after)
    | .isochronous, outcome =>
        (isochronousRequest native request outcome).map fun (err, after) => (err, false, after)
    | .setInterface, .synchronous error => some (error, true, native)
    | .setConfiguration, .synchronous error => some (error, true, native)
    | .claimInterface, .synchronous error => some (error, true, native)
    | .releaseInterface, .synchronous error => some (error, true, native)
    | .isClaimedInterface, .synchronous error => some (error, true, native)
    | _, _ => none
  else none

def completeUrb (native : Native) (request : Request) (status : Int) : Int × Native :=
  if native.urbAddress request = 0 then
    (-einval, { native with faults := native.faults ++ [.noUrbToComplete request] })
  else (status, native.free (native.urbAddress request))

def completePipeRequest (native : Native) (request : Request) (status : Int) : Int × Native :=
  completeUrb native request status

def completeDcpRequest (native : Native) (request : Request) (status : Int) : Int × Native :=
  completeUrb native request status

/-- Past the failing lookup of `getData` with which the source begins. -/
def completeIsochronousRequest (native : Native) (request : Request) (status : Int) :
    Int × Native :=
  completeUrb native request status

/-- The switch of `completeRequest`. For a synchronous request the source
leaves `err` without a value. -/
def completeNative (native : Native) (kind : Kind) (request : Request) (status : Int) :
    Int × Native :=
  match kind with
  | .pipe => completePipeRequest native request status
  | .dcp => completeDcpRequest native request status
  | .isochronous => completeIsochronousRequest native request status
  | _ => (0, { native with faults := native.faults ++ [.synchronousCompletion request] })

def cancelUrb (native : Native) (request : Request) (status : Int) : Native :=
  if native.urbAddress request = 0 then native
  else native.discardUrb request (native.urbAddress request) status

/-- The switch of `cancelRequest`: a synchronous request cannot be cancelled. -/
def cancelNative (native : Native) (kind : Kind) (request : Request) (status : Int) : Native :=
  match kind with
  | .pipe | .dcp | .isochronous => cancelUrb native request status
  | _ => native

end JavaxUsbLinux.NativeUrb
