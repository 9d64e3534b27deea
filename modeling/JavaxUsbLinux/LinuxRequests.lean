import JavaxUsbLinux.NativeUrb

/-!
# The request classes of user submissions

A `RequestImp` becomes a request of one of three classes, a `UsbIrpImp` becomes
a `LinuxPipeRequest`. Each class has its own `setError` and `setCompleted`. The
native code and `cancel` call these at three sites: when a submission is over,
when an URB has been reaped, and when a cancel finds the request still ready.
-/

namespace JavaxUsbLinux.LinuxRequests

open JavaxUsbLinux.NativeUrb

set_option autoImplicit false

def nativeGetErrorMessage (error : Int) : String :=
  let error := if 0 < error then -error else error
  match error with
  | -1 => "Operation not permitted"
  | -2 => "Submission aborted"
  | -4 => "Interrupted system call"
  | -5 => "I/O error"
  | -6 => "Cannot queue certain submissions on Universal Host Controller " ++
      "(unsupported in Linux driver)"
  | -11 => "Temporarily busy, try again"
  | -12 => "Out of memory"
  | -13 => "Permission denied"
  | -16 => "Device or resource busy"
  | -19 => "Device removed (or no such device)"
  | -22 => "Invalid"
  | -32 => "Broken or stalled pipe"
  | -38 => "Function not implemented"
  | -61 => "No data available"
  | -71 => "Protocol error"
  | -84 => "Illegal byte sequence"
  | -85 => "Interrupted system call should be restarted"
  | -95 => "Operation not supported on transport endpoint"
  | -104 => "Connection reset by peer"
  | -105 => "No buffer space available"
  | -110 => "Timed out"
  | -111 => "Connection refused"
  | -114 => "Operation already in progress"
  | -115 => "Operation now in progress"
  | error => "Error " ++ toString error

structure UsbException where
  message : String
  errorCode : Int
  deriving DecidableEq

/-- What the driver uses of a `RequestImp` or a `UsbIrpImp`. For each call of
`complete()` the exception that was set at that time is recorded. -/
structure UserObject where
  data : List UInt8
  dataLength : Int
  usbException : Option UsbException
  completions : List (Option UsbException)

namespace UserObject

def submitted (data : List UInt8) (dataLength : Int) : UserObject :=
  ⟨data, dataLength, none, []⟩

def setUsbException (user : UserObject) (exception : UsbException) : UserObject :=
  { user with usbException := some exception }

def setDataLength (user : UserObject) (length : Int) : UserObject :=
  { user with dataLength := length }

def complete (user : UserObject) : UserObject :=
  { user with completions := user.completions ++ [user.usbException] }

end UserObject

def submissionException (error : Int) : UsbException :=
  ⟨"Error during submission : " ++ nativeGetErrorMessage error, error⟩

/-- `System.arraycopy(source, from, target, 0, length)`, which throws when one of
the arrays is too short. -/
def arraycopy (source : List UInt8) (start : Nat) (target : List UInt8) (length : Int) :
    Option (List UInt8) :=
  if 0 ≤ length ∧ start + length ≤ source.length ∧ length ≤ target.length then
    some ((source.drop start).take length.toNat ++ target.drop length.toNat)
  else none

structure LinuxPipeRequest where
  usbIrpImp : UserObject
  completed : Bool

structure LinuxDcpRequest where
  dataBuffer : List UInt8
  requestImp : UserObject
  completed : Bool

structure LinuxSetConfigurationRequest where
  configuration : Nat
  errorNumber : Int
  requestImp : UserObject
  completed : Bool

structure LinuxSetInterfaceRequest where
  interfaceNumber : Nat
  interfaceSetting : Nat
  errorNumber : Int
  requestImp : UserObject
  completed : Bool

namespace LinuxPipeRequest

def setError (request : LinuxPipeRequest) (error : Int) : LinuxPipeRequest :=
  { request with usbIrpImp := request.usbIrpImp.setUsbException (submissionException error) }

def setDataLength (request : LinuxPipeRequest) (length : Int) : LinuxPipeRequest :=
  { request with usbIrpImp := request.usbIrpImp.setDataLength length }

/-- Without `linuxPipeRequestCompleted`, which touches the list of the pipe only. -/
def setCompleted (request : LinuxPipeRequest) : LinuxPipeRequest :=
  { request with usbIrpImp := request.usbIrpImp.complete, completed := true }

end LinuxPipeRequest

namespace LinuxDcpRequest

def setError (request : LinuxDcpRequest) (error : Int) : LinuxDcpRequest :=
  { request with requestImp := request.requestImp.setUsbException (submissionException error) }

def setDataLength (request : LinuxDcpRequest) (length : Int) : LinuxDcpRequest :=
  { request with requestImp := request.requestImp.setDataLength (length - 8) }

def setCompleted (request : LinuxDcpRequest) : Option LinuxDcpRequest :=
  (arraycopy request.dataBuffer 8 request.requestImp.data request.requestImp.dataLength).map
    fun data => { request with
      requestImp := { request.requestImp with data := data }.complete
      completed := true }

end LinuxDcpRequest

namespace LinuxSetConfigurationRequest

def setError (request : LinuxSetConfigurationRequest) (error : Int) :
    LinuxSetConfigurationRequest :=
  { request with errorNumber := error }

def setCompleted (request : LinuxSetConfigurationRequest) : LinuxSetConfigurationRequest :=
  { request with requestImp := request.requestImp.complete, completed := true }

end LinuxSetConfigurationRequest

namespace LinuxSetInterfaceRequest

def setError (request : LinuxSetInterfaceRequest) (error : Int) : LinuxSetInterfaceRequest :=
  { request with errorNumber := error }

def setCompleted (request : LinuxSetInterfaceRequest) : LinuxSetInterfaceRequest :=
  { request with requestImp := request.requestImp.complete, completed := true }

end LinuxSetInterfaceRequest

inductive LinuxRequest where
  | pipe (request : LinuxPipeRequest)
  | dcp (request : LinuxDcpRequest)
  | setConfiguration (request : LinuxSetConfigurationRequest)
  | setInterface (request : LinuxSetInterfaceRequest)

namespace LinuxRequest

def getType : LinuxRequest → Kind
  | .pipe _ => .pipe
  | .dcp _ => .dcp
  | .setConfiguration _ => .setConfiguration
  | .setInterface _ => .setInterface

def setError (request : LinuxRequest) (error : Int) : LinuxRequest :=
  match request with
  | .pipe request => .pipe (request.setError error)
  | .dcp request => .dcp (request.setError error)
  | .setConfiguration request => .setConfiguration (request.setError error)
  | .setInterface request => .setInterface (request.setError error)

def setCompleted : LinuxRequest → Option LinuxRequest
  | .pipe request => some (.pipe request.setCompleted)
  | .dcp request => request.setCompleted.map .dcp
  | .setConfiguration request => some (.setConfiguration request.setCompleted)
  | .setInterface request => some (.setInterface request.setCompleted)

def user : LinuxRequest → UserObject
  | .pipe request => request.usbIrpImp
  | .dcp request => request.requestImp
  | .setConfiguration request => request.requestImp
  | .setInterface request => request.requestImp

end LinuxRequest

/-! ### Conversions -/

/-- A `RequestImp`, with the answers of `isSetConfigurationRequest()` and
`isSetInterfaceRequest()` and the result of `toBytes()`. -/
structure RequestImp where
  data : List UInt8
  dataLength : Int
  isSetConfigurationRequest : Bool
  isSetInterfaceRequest : Bool
  value : Int
  index : Int
  toBytes : List UInt8

structure UsbIrpImp where
  data : List UInt8
  dataLength : Int

def unsignedByte (value : Int) : Nat := (value % 256).toNat

def requestImpToLinuxSetConfigurationRequest (request : RequestImp) :
    LinuxSetConfigurationRequest where
  configuration := unsignedByte request.value
  errorNumber := 0
  requestImp := UserObject.submitted request.data request.dataLength
  completed := false

def requestImpToLinuxSetInterfaceRequest (request : RequestImp) : LinuxSetInterfaceRequest where
  interfaceNumber := unsignedByte request.index
  interfaceSetting := unsignedByte request.value
  errorNumber := 0
  requestImp := UserObject.submitted request.data request.dataLength
  completed := false

def requestImpToLinuxDcpRequest (request : RequestImp) : LinuxDcpRequest where
  dataBuffer := request.toBytes
  requestImp := UserObject.submitted request.data request.dataLength
  completed := false

def usbIrpImpToLinuxPipeRequest (usbIrpImp : UsbIrpImp) : LinuxPipeRequest where
  usbIrpImp := UserObject.submitted usbIrpImp.data usbIrpImp.dataLength
  completed := false

/-- What a user can submit: a `RequestImp` to a device, a `UsbIrpImp` to a pipe. -/
inductive Submission where
  | request (request : RequestImp)
  | irp (usbIrpImp : UsbIrpImp)

def asyncSubmit : Submission → LinuxRequest
  | .request request =>
      if request.isSetConfigurationRequest then
        .setConfiguration (requestImpToLinuxSetConfigurationRequest request)
      else if request.isSetInterfaceRequest then
        .setInterface (requestImpToLinuxSetInterfaceRequest request)
      else .dcp (requestImpToLinuxDcpRequest request)
  | .irp usbIrpImp => .pipe (usbIrpImpToLinuxPipeRequest usbIrpImp)

/-! ### The three completion sites -/

inductive PipeType where
  | control
  | bulk
  | interrupt
  | isochronous
  | unknown

/-- What the kernel left in a reaped URB; the last two fields are those of the
only packet of a simple isochronous submission. -/
structure ReapedUrb where
  buffer : List UInt8
  status : Int
  actualLength : Int
  packetStatus : Int
  packetLength : Int

def completePipeRequest (pipeType : PipeType) (urb : ReapedUrb) (request : LinuxPipeRequest) :
    Int × LinuxPipeRequest :=
  let copied := { request with usbIrpImp := { request.usbIrpImp with data := urb.buffer } }
  match pipeType with
  | .control => (urb.status, copied.setDataLength (urb.actualLength + 8))
  | .bulk | .interrupt => (urb.status, copied.setDataLength urb.actualLength)
  | .isochronous => (urb.packetStatus, copied.setDataLength urb.packetLength)
  | .unknown => (-einval, copied)

def completeDcpRequest (urb : ReapedUrb) (request : LinuxDcpRequest) : Int × LinuxDcpRequest :=
  (urb.status, { request.setDataLength (urb.actualLength + 8) with dataBuffer := urb.buffer })

def tell (request : LinuxRequest) (err : Int) : LinuxRequest :=
  if err = 0 then request else request.setError err

/-- The end of `submitRequest`: `err` comes from the native submit function. -/
def submitRequest (request : LinuxRequest) (err : Int) : Option LinuxRequest :=
  if request.getType.asynchronous = false ∨ err ≠ 0 then (tell request err).setCompleted
  else some request

def completeByType (pipeType : PipeType) (urb : ReapedUrb) : LinuxRequest → Int × LinuxRequest
  | .pipe request =>
      let (err, done) := completePipeRequest pipeType urb request
      (err, .pipe done)
  | .dcp request =>
      let (err, done) := completeDcpRequest urb request
      (err, .dcp done)
  | request => (0, request)

def completeRequest (pipeType : PipeType) (urb : ReapedUrb) (request : LinuxRequest) :
    Option LinuxRequest :=
  let (err, done) := completeByType pipeType urb request
  (tell done err).setCompleted

def cancel (request : LinuxRequest) : Option LinuxRequest :=
  (request.setError (-1)).setCompleted

/-- What becomes of a request: it is cancelled while it is ready, or it is handed
to the native submit function, which returns `err`. The URB is the one that is
reaped later if the kernel has accepted the request. -/
inductive Fate where
  | cancelled
  | handedOver (err : Int) (pipeType : PipeType) (urb : ReapedUrb)

def finish (request : LinuxRequest) : Fate → Option LinuxRequest
  | .cancelled => cancel request
  | .handedOver err pipeType urb =>
      if request.getType.asynchronous = false ∨ err ≠ 0 then submitRequest request err
      else (submitRequest request err).bind (completeRequest pipeType urb)

def reported (request : LinuxRequest) : Fate → Int
  | .cancelled => -1
  | .handedOver err pipeType urb =>
      if request.getType.asynchronous = false ∨ err ≠ 0 then err
      else (completeByType pipeType urb request).1

/-! ### What the user sees -/

/-- When `complete()` is called, an exception is set if and only if an error was
reported, and it carries that error. -/
def ErrorReachesUser (submission : Submission) (fate : Fate) : Prop :=
  ∀ done, finish (asyncSubmit submission) fate = some done → ∀ seen ∈ done.user.completions,
    seen.map UsbException.errorCode =
      if reported (asyncSubmit submission) fate = 0 then none
      else some (reported (asyncSubmit submission) fate)

/-- The requests of the classes whose `setError` stores the number only. -/
def LinuxRequest.keepsError : LinuxRequest → Bool
  | .pipe _ | .dcp _ => false
  | .setConfiguration _ | .setInterface _ => true

def Submission.setsState : Submission → Bool
  | .request imp => imp.isSetConfigurationRequest || imp.isSetInterfaceRequest
  | .irp _ => false

theorem async_submit_keeps_error (submission : Submission) :
    (asyncSubmit submission).keepsError = submission.setsState := by
  cases submission with
  | irp => rfl
  | request request =>
      simp only [asyncSubmit, Submission.setsState]
      split_ifs with configuration interface
      · simp [LinuxRequest.keepsError, configuration]
      · simp [LinuxRequest.keepsError, interface]
      · simp [LinuxRequest.keepsError, configuration, interface]

theorem async_submit_user (submission : Submission) :
    (asyncSubmit submission).user.usbException = none ∧
      (asyncSubmit submission).user.completions = [] := by
  cases submission with
  | irp => exact ⟨rfl, rfl⟩
  | request request =>
      simp only [asyncSubmit]
      split_ifs <;> exact ⟨rfl, rfl⟩

theorem set_error_user (request : LinuxRequest) (error : Int) :
    (request.setError error).user = if request.keepsError then request.user
      else request.user.setUsbException (submissionException error) := by
  cases request <;> rfl

theorem tell_user (request : LinuxRequest) (err : Int)
    (fresh : request.user.usbException = none) :
    (tell request err).user.usbException =
        (if request.keepsError ∨ err = 0 then none else some (submissionException err)) ∧
      (tell request err).user.completions = request.user.completions := by
  unfold tell
  by_cases zero : err = 0
  · simp [zero, fresh]
  · cases keeps : request.keepsError <;>
      simp [zero, set_error_user, keeps, fresh, UserObject.setUsbException]

/-- `complete()` sees the exception that is set when `setCompleted` is called. -/
theorem set_completed_user {request done : LinuxRequest}
    (completed : request.setCompleted = some done) :
    done.user.completions = request.user.completions ++ [request.user.usbException] := by
  cases request with
  | dcp request =>
      simp only [LinuxRequest.setCompleted, LinuxDcpRequest.setCompleted,
        Option.map_eq_some_iff] at completed
      obtain ⟨_, ⟨data, _, rfl⟩, rfl⟩ := completed
      rfl
  | _ =>
      cases completed
      rfl

theorem complete_by_type_user (pipeType : PipeType) (urb : ReapedUrb) (request : LinuxRequest) :
    let done := (completeByType pipeType urb request).2
    done.user.usbException = request.user.usbException ∧
      done.user.completions = request.user.completions ∧
      done.keepsError = request.keepsError := by
  cases request with
  | pipe request => cases pipeType <;> exact ⟨rfl, rfl, rfl⟩
  | _ => exact ⟨rfl, rfl, rfl⟩

theorem told_and_completed {request done : LinuxRequest} {err : Int}
    (fresh : request.user.usbException = none) (first : request.user.completions = [])
    (completed : (tell request err).setCompleted = some done) :
    done.user.completions =
      [if request.keepsError ∨ err = 0 then none else some (submissionException err)] := by
  obtain ⟨exception, completions⟩ := tell_user request err fresh
  rw [set_completed_user completed, exception, completions, first, List.nil_append]

/-- Whatever happens to a request, its user sees the reported error once, unless
the class of the request keeps it to itself. -/
theorem finish_seen {submission : Submission} {fate : Fate} {done : LinuxRequest}
    (finished : finish (asyncSubmit submission) fate = some done) :
    done.user.completions =
      [if submission.setsState ∨ reported (asyncSubmit submission) fate = 0 then none
        else some (submissionException (reported (asyncSubmit submission) fate))] := by
  obtain ⟨fresh, first⟩ := async_submit_user submission
  rw [← async_submit_keeps_error submission]
  cases fate with
  | cancelled => exact told_and_completed fresh first finished
  | handedOver err pipeType urb =>
      simp only [finish, submitRequest, reported] at finished ⊢
      by_cases stopped : (asyncSubmit submission).getType.asynchronous = false ∨ err ≠ 0
      · simp only [if_pos stopped] at finished ⊢
        exact told_and_completed fresh first finished
      · simp only [if_neg stopped] at finished ⊢
        obtain ⟨exception, completions, keeps⟩ :=
          complete_by_type_user pipeType urb (asyncSubmit submission)
        rw [← keeps]
        exact told_and_completed (exception.trans fresh) (completions.trans first) finished

theorem finish_of_keeps_error {request : LinuxRequest} (keeps : request.keepsError = true)
    (fate : Fate) : ∃ done, finish request fate = some done := by
  cases request with
  | pipe | dcp => cases keeps
  | setConfiguration | setInterface =>
      cases fate with
      | cancelled => exact ⟨_, rfl⟩
      | handedOver err pipeType urb =>
          simp only [finish, submitRequest, tell, LinuxRequest.getType, Kind.asynchronous, true_or,
            if_true]
          split_ifs <;> exact ⟨_, rfl⟩

/-- An error reaches the user exactly when there is none, or the request is
neither a set-configuration nor a set-interface request. -/
theorem error_reaches_user_iff (submission : Submission) (fate : Fate) :
    ErrorReachesUser submission fate ↔
      submission.setsState = false ∨ reported (asyncSubmit submission) fate = 0 := by
  constructor
  · intro reaches
    cases sets : submission.setsState with
    | false => exact Or.inl rfl
    | true =>
        right
        obtain ⟨done, finished⟩ :=
          finish_of_keeps_error ((async_submit_keeps_error submission).trans sets) fate
        have seen := finish_seen finished
        simp only [sets, true_or, if_true] at seen
        have told := reaches done finished none (by rw [seen]; exact List.mem_cons_self)
        by_contra nonzero
        rw [if_neg nonzero] at told
        cases told
  · rintro told done finished seen member
    rw [finish_seen finished, List.mem_singleton] at member
    subst member
    by_cases zero : reported (asyncSubmit submission) fate = 0
    · rw [if_pos (Or.inr zero), if_pos zero]
      rfl
    · have notSets : submission.setsState = false := told.resolve_right zero
      rw [if_neg (by simp [notSets, zero]), if_neg zero]
      rfl

def setConfigurationOne : Submission :=
  .request ⟨[], 0, true, false, 1, 0, [0, 9, 1, 0, 0, 0, 0, 0]⟩

def refused : Fate := .handedOver (-16) .unknown ⟨[], 0, 0, 0, 0⟩

theorem set_configuration_fails_silently :
    reported (asyncSubmit setConfigurationOne) refused = -16 ∧
      ∃ done, finish (asyncSubmit setConfigurationOne) refused = some done ∧
        done.user.completions = [none] := by
  have request : asyncSubmit setConfigurationOne = .setConfiguration
      ⟨1, 0, UserObject.submitted [] 0, false⟩ := rfl
  rw [request]
  exact ⟨rfl, _, rfl, rfl⟩

end JavaxUsbLinux.LinuxRequests
