import JavaxUsbLinux.DeviceProxy
import Mathlib.Data.List.Count

/-!
# The asynchronous submit functions

`pipe_request`, `dcp_request` and `isochronous_request` with each allocation and
each release. The outcome of every call that can fail is given. A function
returns its error and the calls that it has made: what it acquired and released,
the URB that the kernel accepted and the address it stored.
-/

namespace JavaxUsbLinux.SubmitFunctions

open JavaxUsbLinux.NativeUrb
open JavaxUsbLinux.DeviceProxy

set_option autoImplicit false

/-! ### Requests, outcomes and calls -/

structure PipeRequest where
  pipeType : Int
  endpointAddress : UInt8
  data : List UInt8
  acceptShortPacket : Bool

structure DcpRequest where
  data : List UInt8

/-- `packets` are the results of `getData`, and `bufferSize` that of `getBufferSize`. -/
structure IsochronousRequest where
  endpointAddress : UInt8
  packets : List (Option (List UInt8))
  bufferSize : Nat

inductive AsyncRequest where
  | pipe (request : PipeRequest)
  | dcp (request : DcpRequest)
  | isochronous (request : IsochronousRequest)

/-- What `NewGlobalRef`, the `malloc` of the URB and the allocation of its buffer
return, `none` being `NULL`, and the `errno` of `SUBMITURB` if that fails. The
buffer comes from `GetByteArrayElements` or from `malloc`. `queueBulk` tells
whether the kernel headers have `USBDEVFS_URB_QUEUE_BULK`. -/
structure World where
  globalRef : Option Handle
  urb : Option Address
  buffer : Option Address
  refusal : Option { errno : Nat // errno ≠ 0 }
  queueBulk : Bool

inductive UrbType where
  | isochronous
  | control
  | bulk
  deriving DecidableEq

/-- The fields of `struct usbdevfs_urb` that are set before the submission. -/
structure UsbdevfsUrb where
  address : Address
  type : UrbType
  endpoint : UInt8
  noAcceptShortPacket : Bool
  isoAsap : Bool
  queueBulk : Bool
  buffer : Option Address
  bufferLength : Nat
  contents : List UInt8
  numberOfPackets : Nat
  packetLengths : List Nat
  usercontext : Option Handle
  deriving DecidableEq

/-- The block after `memset`; 0 is the isochronous type. -/
def zeroed (address : Address) : UsbdevfsUrb where
  address := address
  type := .isochronous
  endpoint := 0
  noAcceptShortPacket := false
  isoAsap := false
  queueBulk := false
  buffer := none
  bufferLength := 0
  contents := []
  numberOfPackets := 0
  packetLengths := []
  usercontext := none

inductive Resource where
  | globalRef (handle : Handle)
  | urb (address : Address)
  | buffer (address : Address)
  | elements (address : Address)
  deriving DecidableEq

/-- A successful acquisition, a release, a submission that the kernel accepts,
or a call of `setUrbAddress`. -/
inductive Call where
  | acquire (resource : Resource)
  | release (resource : Resource)
  | submitUrb (urb : UsbdevfsUrb)
  | setUrbAddress (address : Address)
  deriving DecidableEq

/-! ### The functions -/

def submitUrb (world : World) (urb : UsbdevfsUrb) : Int × List Call :=
  match world.refusal with
  | none => (0, [.submitUrb urb])
  | some errno => (-errno.val, [])

def controlPipeRequest (world : World) (urb : UsbdevfsUrb) : Int × List Call :=
  submitUrb world { urb with type := .control }

def bulkPipeRequest (world : World) (urb : UsbdevfsUrb) : Int × List Call :=
  submitUrb world { urb with type := .bulk, queueBulk := urb.queueBulk || world.queueBulk }

/-- `INTERRUPT_USES_BULK` is defined. -/
def interruptPipeRequest (world : World) (urb : UsbdevfsUrb) : Int × List Call :=
  submitUrb world { urb with type := .bulk, queueBulk := urb.queueBulk || world.queueBulk }

def isochronousPipeRequest (world : World) (urb : UsbdevfsUrb) : Int × List Call :=
  submitUrb world { urb with
    type := .isochronous
    isoAsap := true
    numberOfPackets := 1
    packetLengths := [urb.bufferLength] }

def pipeControl : Int := 1
def pipeBulk : Int := 2
def pipeInterrupt : Int := 3
def pipeIsochronous : Int := 4

def submitByPipeType (world : World) (pipeType : Int) (urb : UsbdevfsUrb) : Int × List Call :=
  if pipeType = pipeControl then controlPipeRequest world urb
  else if pipeType = pipeBulk then bulkPipeRequest world urb
  else if pipeType = pipeInterrupt then interruptPipeRequest world urb
  else if pipeType = pipeIsochronous then isochronousPipeRequest world urb
  else (-einval, [])

def ifSome {α β : Type} (pointer : Option α) (use : α → β) : List β :=
  (pointer.map use).toList

def cleanUp (block : Address → Resource) (urb : UsbdevfsUrb) : List Call :=
  ifSome urb.usercontext (fun handle => Call.release (.globalRef handle)) ++
    ifSome urb.buffer (fun address => Call.release (block address)) ++
    [.release (.urb urb.address)]

def finish (block : Address → Resource) (urb : UsbdevfsUrb) (acquired : List Call)
    (submission : Int × List Call) : Int × List Call :=
  (submission.1, acquired ++ submission.2 ++
    if submission.1 = 0 then [.setUrbAddress urb.address] else cleanUp block urb)

/-- The common part of `pipe_request` and `dcp_request`. Without a reference they
call the methods of a `NULL` object, which has no defined result. -/
def requestWithElements (world : World) (data : List UInt8)
    (fill : UsbdevfsUrb → UsbdevfsUrb) (submit : UsbdevfsUrb → Int × List Call) :
    Option (Int × List Call) :=
  match world.globalRef with
  | none => none
  | some handle =>
      match world.urb with
      | none => some (-enomem, [.acquire (.globalRef handle), .release (.globalRef handle)])
      | some address =>
          let urb := fill { zeroed address with
            buffer := world.buffer
            bufferLength := data.length
            contents := if world.buffer = none then [] else data
            usercontext := some handle }
          let acquired := [.acquire (.globalRef handle), .acquire (.urb address)] ++
            ifSome world.buffer fun elements => Call.acquire (.elements elements)
          some (finish .elements urb acquired (submit urb))

def pipeRequest (world : World) (request : PipeRequest) : Option (Int × List Call) :=
  requestWithElements world request.data
    (fun urb => { urb with
      endpoint := request.endpointAddress
      noAcceptShortPacket := !request.acceptShortPacket })
    (submitByPipeType world request.pipeType)

def dcpRequest (world : World) (request : DcpRequest) : Option (Int × List Call) :=
  requestWithElements world request.data (fun urb => { urb with endpoint := 0 })
    (controlPipeRequest world)

def createIsoBuffer : List (Option (List UInt8)) → Option (List Nat × List UInt8)
  | [] => some ([], [])
  | none :: _ => none
  | some data :: packets =>
      (createIsoBuffer packets).map fun rest => (data.length :: rest.1, data ++ rest.2)

def isochronousRequest (world : World) (request : IsochronousRequest) : Int × List Call :=
  match world.urb with
  | none => (0, [])
  | some address =>
      match world.buffer with
      | none => (0, [.acquire (.urb address)])
      | some buffer =>
          let urb := { zeroed address with
            numberOfPackets := request.packets.length
            buffer := some buffer
            bufferLength := request.bufferSize }
          let acquired := [.acquire (.urb address), .acquire (.buffer buffer)]
          match createIsoBuffer request.packets with
          | none => (-einval, acquired ++ cleanUp .buffer urb)
          | some (lengths, bytes) =>
              let urb := { urb with
                packetLengths := lengths
                contents := bytes
                type := .isochronous
                usercontext := world.globalRef
                endpoint := request.endpointAddress
                isoAsap := true }
              let acquired := acquired ++
                ifSome world.globalRef fun handle => Call.acquire (.globalRef handle)
              finish .buffer urb acquired (submitUrb world urb)

def submitAsync (world : World) : AsyncRequest → Option (Int × List Call)
  | .pipe request => pipeRequest world request
  | .dcp request => dcpRequest world request
  | .isochronous request => some (isochronousRequest world request)

/-! ### Telling the truth -/

/-- The error tells whether the kernel has the URB. If so, its address is stored
and its `usercontext` is a reference that is still there. If not, all that was
acquired is released once. -/
structure TellsTruth (err : Int) (calls : List Call) : Prop where
  accepted : err = 0 ↔ ∃ urb, .submitUrb urb ∈ calls
  stored : ∀ urb, .submitUrb urb ∈ calls → .setUrbAddress urb.address ∈ calls ∧
    ∃ handle, urb.usercontext = some handle ∧ .acquire (.globalRef handle) ∈ calls ∧
      .release (.globalRef handle) ∉ calls
  released : err ≠ 0 → ∀ resource,
    calls.count (.release resource) = calls.count (.acquire resource) ∧
      calls.count (.acquire resource) ≤ 1

def Truthful (world : World) (request : AsyncRequest) : Prop :=
  ∃ err calls, submitAsync world request = some (err, calls) ∧ TellsTruth err calls

def TruthCondition (world : World) : AsyncRequest → Prop
  | .pipe _ | .dcp _ => world.globalRef ≠ none
  | .isochronous request => world.urb ≠ none ∧ world.buffer ≠ none ∧
      (none ∉ request.packets → world.refusal = none → world.globalRef ≠ none)

def Submission (urb : UsbdevfsUrb) (submission : Int × List Call) : Prop :=
  (submission.1 ≠ 0 ∧ submission.2 = []) ∨ ∃ sent : UsbdevfsUrb,
    submission = (0, [.submitUrb sent]) ∧ sent.address = urb.address ∧
      sent.usercontext = urb.usercontext

theorem submit_accepted (world : World) (urb : UsbdevfsUrb) :
    (submitUrb world urb).1 = 0 ↔ world.refusal = none := by
  unfold submitUrb
  cases world.refusal with
  | none => simp
  | some errno =>
      have nonzero := errno.property
      simp only [reduceCtorEq, iff_false]
      omega

theorem submission_of_submit (world : World) {urb sent : UsbdevfsUrb}
    (address : sent.address = urb.address) (context : sent.usercontext = urb.usercontext) :
    Submission urb (submitUrb world sent) := by
  have accepted := submit_accepted world sent
  unfold submitUrb at accepted ⊢
  cases refused : world.refusal with
  | none => exact Or.inr ⟨sent, rfl, address, context⟩
  | some errno =>
      refine Or.inl ⟨?_, rfl⟩
      simp only [refused, reduceCtorEq, iff_false] at accepted
      exact accepted

theorem submission_of_type (world : World) (pipeType : Int) (urb : UsbdevfsUrb) :
    Submission urb (submitByPipeType world pipeType urb) := by
  unfold submitByPipeType
  split_ifs
  · exact submission_of_submit world rfl rfl
  · exact submission_of_submit world rfl rfl
  · exact submission_of_submit world rfl rfl
  · exact submission_of_submit world rfl rfl
  · exact Or.inl ⟨by simp [einval], rfl⟩

/-! ### The resources of an URB -/

def held (block : Address → Resource) (urb : UsbdevfsUrb) : List Resource :=
  ifSome urb.usercontext Resource.globalRef ++ ifSome urb.buffer block ++ [.urb urb.address]

def Apart (block : Address → Resource) : Prop :=
  ∀ address, (∀ handle, block address ≠ .globalRef handle) ∧ ∀ other, block address ≠ .urb other

theorem held_nodup {block : Address → Resource} (apart : Apart block) (urb : UsbdevfsUrb) :
    (held block urb).Nodup := by
  unfold held ifSome
  cases urb.usercontext with
  | none =>
      cases urb.buffer with
      | none => simp
      | some address => simp [(apart address).2]
  | some handle =>
      cases urb.buffer with
      | none => simp
      | some address => simp [(apart address).2, ((apart address).1 handle).symm]

theorem clean_up_eq (block : Address → Resource) (urb : UsbdevfsUrb) :
    cleanUp block urb = (held block urb).map Call.release := by
  unfold cleanUp held ifSome
  cases urb.usercontext <;> cases urb.buffer <;> rfl

theorem acquire_injective : Function.Injective Call.acquire :=
  fun _ _ same => Call.acquire.inj same

theorem release_injective : Function.Injective Call.release :=
  fun _ _ same => Call.release.inj same

section Outcomes

variable {block : Address → Resource} {urb : UsbdevfsUrb} {acquired : List Call}

/-- A failing function that cleans up tells the truth. -/
theorem refused_truth (apart : Apart block)
    (all : acquired.Perm ((held block urb).map Call.acquire)) {err : Int} (failed : err ≠ 0) :
    TellsTruth err (acquired ++ cleanUp block urb) := by
  have unsent : ∀ sent, Call.submitUrb sent ∉ acquired ++ cleanUp block urb := by
    intro sent member
    rw [List.mem_append, all.mem_iff, clean_up_eq] at member
    simp at member
  constructor
  · constructor
    · exact fun zero => absurd zero failed
    · rintro ⟨sent, member⟩
      exact absurd member (unsent sent)
  · exact fun sent member => absurd member (unsent sent)
  · intro _ resource
    have released : (acquired ++ cleanUp block urb).count (.release resource) =
        (held block urb).count resource := by
      have none : ((held block urb).map Call.acquire).count (.release resource) = 0 := by
        simp [List.count_eq_zero]
      rw [List.count_append, all.count_eq, none, clean_up_eq,
        List.count_map_of_injective _ _ release_injective, Nat.zero_add]
    have taken : (acquired ++ cleanUp block urb).count (.acquire resource) =
        (held block urb).count resource := by
      have none : ((held block urb).map Call.release).count (.acquire resource) = 0 := by
        simp [List.count_eq_zero]
      rw [List.count_append, all.count_eq, clean_up_eq, none,
        List.count_map_of_injective _ _ acquire_injective, Nat.add_zero]
    rw [released, taken]
    exact ⟨rfl, List.nodup_iff_count_le_one.mp (held_nodup apart urb) resource⟩

/-- A function that stores the address of the accepted URB tells the truth if
the URB has a reference. -/
theorem accepted_truth (all : acquired.Perm ((held block urb).map Call.acquire))
    {sent : UsbdevfsUrb} (address : sent.address = urb.address)
    (context : sent.usercontext = urb.usercontext) :
    TellsTruth 0 (acquired ++ [.submitUrb sent] ++ [.setUrbAddress urb.address]) ↔
      urb.usercontext ≠ none := by
  constructor
  · intro truth
    obtain ⟨_, handle, its, _⟩ := truth.stored sent (by simp)
    rw [← context, its]
    exact Option.some_ne_none handle
  · intro referred
    obtain ⟨handle, its⟩ := Option.ne_none_iff_exists'.mp referred
    constructor
    · exact ⟨fun _ => ⟨sent, by simp⟩, fun _ => rfl⟩
    · intro other member
      have same : other = sent := by simpa [all.mem_iff] using member
      rw [same, address]
      refine ⟨by simp, handle, context.trans its, ?_, ?_⟩
      · simp [all.mem_iff, held, ifSome, its]
      · simp [all.mem_iff]
    · exact fun failed => absurd rfl failed

theorem finish_truth (apart : Apart block)
    (all : acquired.Perm ((held block urb).map Call.acquire)) {submission : Int × List Call}
    (spec : Submission urb submission) :
    TellsTruth (finish block urb acquired submission).1 (finish block urb acquired submission).2 ↔
      (submission.1 = 0 → urb.usercontext ≠ none) := by
  rcases spec with ⟨failed, silent⟩ | ⟨sent, rfl, address, context⟩
  · simp only [finish, silent, List.append_nil, failed, if_false, false_implies, iff_true]
    exact refused_truth apart all failed
  · simp only [finish, if_true, forall_const]
    exact accepted_truth all address context

/-- The kernel has the URB exactly if the submission returned 0. -/
theorem finish_sent (all : acquired.Perm ((held block urb).map Call.acquire))
    {submission : Int × List Call} (spec : Submission urb submission) :
    (∃ sent, Call.submitUrb sent ∈ (finish block urb acquired submission).2) ↔
      submission.1 = 0 := by
  rcases spec with ⟨failed, silent⟩ | ⟨sent, rfl, _⟩
  · simp [finish, silent, failed, clean_up_eq, all.mem_iff]
  · simp [finish]

end Outcomes

/-! ### The three functions -/

theorem elements_apart : Apart .elements :=
  fun _ => ⟨fun _ => by simp, fun _ => by simp⟩

theorem buffer_apart : Apart .buffer :=
  fun _ => ⟨fun _ => by simp, fun _ => by simp⟩

theorem elements_acquired (handle : Handle) (address : Address) (buffer : Option Address) :
    ([Call.acquire (.globalRef handle), Call.acquire (.urb address)] ++
        ifSome buffer fun elements => Call.acquire (.elements elements)).Perm
      ((ifSome (some handle) Resource.globalRef ++ ifSome buffer Resource.elements ++
        [Resource.urb address]).map Call.acquire) := by
  cases buffer with
  | none => exact List.Perm.refl _
  | some elements => exact (List.Perm.swap _ _ []).cons _

theorem elements_truth (world : World) (data : List UInt8) {fill : UsbdevfsUrb → UsbdevfsUrb}
    {submit : UsbdevfsUrb → Int × List Call}
    (fills : ∀ urb, (fill urb).address = urb.address ∧ (fill urb).buffer = urb.buffer ∧
      (fill urb).usercontext = urb.usercontext)
    (submits : ∀ urb, Submission urb (submit urb)) :
    (∃ err calls, requestWithElements world data fill submit = some (err, calls) ∧
      TellsTruth err calls) ↔ world.globalRef ≠ none := by
  unfold requestWithElements
  cases world.globalRef with
  | none => simp
  | some handle =>
      simp only [ne_eq, reduceCtorEq, not_false_eq_true, iff_true]
      cases world.urb with
      | none =>
          refine ⟨_, _, rfl, ?_⟩
          constructor
          · simp [enomem]
          · simp
          · intro _ resource
            by_cases same : resource = .globalRef handle <;> simp [same, eq_comm]
      | some address =>
          refine ⟨_, _, rfl, ?_⟩
          apply (finish_truth elements_apart ?_ (submits _)).mpr
          · intro _
            rw [(fills _).2.2]
            exact Option.some_ne_none handle
          · rw [held, (fills _).1, (fills _).2.1, (fills _).2.2]
            exact elements_acquired handle address world.buffer

theorem iso_buffer_none_iff (packets : List (Option (List UInt8))) :
    createIsoBuffer packets = none ↔ none ∈ packets := by
  induction packets with
  | nil => simp [createIsoBuffer]
  | cons packet packets ih =>
      cases packet with
      | none => simp [createIsoBuffer]
      | some data => simp [createIsoBuffer, ih]

theorem packets_present {packets : List (Option (List UInt8))}
    {packs : List Nat × List UInt8} (packed : createIsoBuffer packets = some packs) :
    none ∉ packets := by
  rw [← iso_buffer_none_iff, packed]
  exact Option.some_ne_none packs

theorem isochronous_acquired (globalRef : Option Handle) (address buffer : Address) :
    ([Call.acquire (.urb address), Call.acquire (.buffer buffer)] ++
        ifSome globalRef fun handle => Call.acquire (.globalRef handle)).Perm
      ((ifSome globalRef Resource.globalRef ++ ifSome (some buffer) Resource.buffer ++
        [Resource.urb address]).map Call.acquire) := by
  cases globalRef with
  | none => exact List.Perm.swap _ _ []
  | some handle =>
      exact List.reverse_perm [Call.acquire (.globalRef handle), Call.acquire (.buffer buffer),
        Call.acquire (.urb address)]

theorem isochronous_truth (world : World) (request : IsochronousRequest) :
    TellsTruth (isochronousRequest world request).1 (isochronousRequest world request).2 ↔
      world.urb ≠ none ∧ world.buffer ≠ none ∧
        (none ∉ request.packets → world.refusal = none → world.globalRef ≠ none) := by
  have silent {calls : List Call} (unsent : ∀ urb, Call.submitUrb urb ∉ calls) :
      ¬ TellsTruth 0 calls := by
    intro truth
    obtain ⟨urb, member⟩ := truth.accepted.mp rfl
    exact unsent urb member
  unfold isochronousRequest
  cases world.urb with
  | none => simp [silent]
  | some address =>
      cases world.buffer with
      | none => simp [silent]
      | some buffer =>
          simp only [ne_eq, reduceCtorEq, not_false_eq_true, true_and]
          cases packed : createIsoBuffer request.packets with
          | none =>
              have missing := (iso_buffer_none_iff _).mp packed
              simp only [missing, not_true, false_implies, iff_true]
              apply refused_truth buffer_apart
              · exact List.Perm.swap _ _ []
              · simp [einval]
          | some packs =>
              have complete := packets_present packed
              simp only [complete, not_false_eq_true, forall_const]
              rw [finish_truth buffer_apart ?_ (submission_of_submit world rfl rfl)]
              · rw [submit_accepted]
              · exact isochronous_acquired world.globalRef address buffer

/-- An asynchronous submit function tells the truth if and only if it gets its
reference and, for an isochronous request, both blocks. -/
theorem submit_truth_iff (world : World) (request : AsyncRequest) :
    Truthful world request ↔ TruthCondition world request := by
  cases request with
  | pipe request =>
      simp only [Truthful, submitAsync, pipeRequest, TruthCondition]
      apply elements_truth
      · exact fun _ => ⟨rfl, rfl, rfl⟩
      · exact submission_of_type world request.pipeType
  | dcp request =>
      simp only [Truthful, submitAsync, dcpRequest, TruthCondition]
      apply elements_truth
      · exact fun _ => ⟨rfl, rfl, rfl⟩
      · exact fun _ => submission_of_submit world rfl rfl
  | isochronous request =>
      rw [TruthCondition, ← isochronous_truth]
      constructor
      · rintro ⟨err, calls, returned, truth⟩
        rw [Option.some.inj returned]
        exact truth
      · exact fun truth => ⟨_, _, rfl, truth⟩

def noBuffer : World where
  globalRef := some 0
  urb := some 100
  buffer := none
  refusal := none
  queueBulk := false

def onePacket : IsochronousRequest where
  endpointAddress := 129
  packets := [some [1, 2]]
  bufferSize := 2

theorem isochronous_request_lies :
    submitAsync noBuffer (.isochronous onePacket) = some (0, [.acquire (.urb 100)]) ∧
      ¬ Truthful noBuffer (.isochronous onePacket) := by
  refine ⟨rfl, ?_⟩
  rintro ⟨err, calls, returned, truth⟩
  cases returned
  obtain ⟨sent, member⟩ := truth.accepted.mp rfl
  simp at member

/-! ### The outcomes in the model of the loop -/

def kindOf : AsyncRequest → Kind
  | .pipe _ => .pipe
  | .dcp _ => .dcp
  | .isochronous _ => .isochronous

def submissionError (world : World) : AsyncRequest → Int
  | .pipe request => (submitByPipeType world request.pipeType (zeroed 0)).1
  | .dcp _ | .isochronous _ => (submitUrb world (zeroed 0)).1

def outcomeOf (address : Address) (err : Int) : SubmitOutcome :=
  if err = 0 then .accepted address else .rejected address err.natAbs

def nativeOutcome (world : World) (request : AsyncRequest) : NativeOutcome :=
  match world.urb with
  | none => .urb .outOfMemory
  | some address =>
      match request with
      | .pipe _ | .dcp _ => .urb (outcomeOf address (submissionError world request))
      | .isochronous request =>
          if world.buffer = none then .noIsochronousBuffer address
          else if none ∈ request.packets then .noIsochronousData address
          else .urb (outcomeOf address (submissionError world (.isochronous request)))

theorem submit_error (world : World) (urb : UsbdevfsUrb) :
    (submitUrb world urb).1 = (submitUrb world (zeroed 0)).1 := by
  unfold submitUrb
  cases world.refusal <;> rfl

theorem type_error (world : World) (pipeType : Int) (urb : UsbdevfsUrb) :
    (submitByPipeType world pipeType urb).1 = (submitByPipeType world pipeType (zeroed 0)).1 := by
  unfold submitByPipeType
  split_ifs
  · exact (submit_error world _).trans (submit_error world _).symm
  · exact (submit_error world _).trans (submit_error world _).symm
  · exact (submit_error world _).trans (submit_error world _).symm
  · exact (submit_error world _).trans (submit_error world _).symm
  · rfl

theorem error_negative (world : World) (request : AsyncRequest) :
    submissionError world request ≤ 0 := by
  have refused (urb : UsbdevfsUrb) : (submitUrb world urb).1 ≤ 0 := by
    unfold submitUrb
    cases world.refusal with
    | none => exact Int.le_refl 0
    | some errno =>
        change -(errno.val : Int) ≤ 0
        omega
  cases request with
  | pipe request =>
      simp only [submissionError, submitByPipeType]
      split_ifs
      · exact refused _
      · exact refused _
      · exact refused _
      · exact refused _
      · simp [einval]
  | dcp | isochronous => exact refused _

theorem outcome_error (native : Native) (owner : Request) (address : Address) {err : Int}
    (negative : err ≤ 0) :
    (submitWithReference native owner (outcomeOf address err)).1 = err ∧
      (NativeOutcome.accepts (.urb (outcomeOf address err)) = true ↔ err = 0) := by
  unfold outcomeOf
  split_ifs with zero
  · simp [submitWithReference, NativeOutcome.accepts, zero]
  · simp only [submitWithReference, NativeOutcome.accepts, zero, Bool.false_eq_true, and_true]
    omega

theorem elements_error {world : World} {data : List UInt8} {fill : UsbdevfsUrb → UsbdevfsUrb}
    {submit : UsbdevfsUrb → Int × List Call} {err : Int} {calls : List Call}
    (returned : requestWithElements world data fill submit = some (err, calls))
    (fills : ∀ urb, (fill urb).address = urb.address ∧ (fill urb).buffer = urb.buffer ∧
      (fill urb).usercontext = urb.usercontext)
    (submits : ∀ urb, Submission urb (submit urb)) :
    (world.urb = none → err = -enomem) ∧ (world.urb ≠ none → ∃ urb, err = (submit urb).1) ∧
      ((∃ sent, Call.submitUrb sent ∈ calls) ↔ err = 0) := by
  unfold requestWithElements at returned
  cases referred : world.globalRef with
  | none => simp [referred] at returned
  | some handle =>
      cases allocated : world.urb with
      | none =>
          simp only [referred, allocated, Option.some.injEq, Prod.mk.injEq] at returned
          obtain ⟨rfl, rfl⟩ := returned
          simp [enomem]
      | some address =>
          simp only [referred, allocated, Option.some.injEq] at returned
          obtain ⟨rfl, rfl⟩ := Prod.ext_iff.mp returned
          refine ⟨by simp, fun _ => ⟨_, rfl⟩, ?_⟩
          apply finish_sent ?_ (submits _)
          rw [held, (fills _).1, (fills _).2.1, (fills _).2.2]
          exact elements_acquired handle address world.buffer

theorem native_urb {native : Native} {kind : Kind} {owner : Request} {outcome : SubmitOutcome}
    {err : Int} (possible : outcome.possible native = true)
    (submits : kind = .pipe ∨ kind = .dcp ∨ kind = .isochronous ∧ outcome ≠ .outOfMemory)
    (error : (submitWithReference native owner outcome).1 = err) :
    ∃ after, submitNative native kind owner (.urb outcome) = some (err, false, after) := by
  have can : (NativeOutcome.urb outcome).possible native = true := possible
  refine ⟨(submitWithReference native owner outcome).2, ?_⟩
  unfold submitNative
  rw [if_pos can, ← error]
  rcases submits with rfl | rfl | ⟨rfl, allocated⟩
  · rfl
  · rfl
  · cases outcome with
    | outOfMemory => exact absurd rfl allocated
    | _ => rfl

theorem elements_agree {world : World} {request : AsyncRequest} {err : Int} {calls : List Call}
    (kinds : kindOf request = .pipe ∨ kindOf request = .dcp)
    (noUrb : world.urb = none → err = -enomem)
    (urb : world.urb ≠ none → err = submissionError world request)
    (sent : (∃ sent, Call.submitUrb sent ∈ calls) ↔ err = 0) (native : Native) (owner : Request)
    (possible : (nativeOutcome world request).possible native = true) :
    (∃ after, submitNative native (kindOf request) owner (nativeOutcome world request) =
      some (err, false, after)) ∧
    (NativeOutcome.accepts (nativeOutcome world request) = true ↔
      ∃ sent, Call.submitUrb sent ∈ calls) := by
  rw [sent]
  cases allocated : world.urb with
  | none =>
      have outcome : nativeOutcome world request = .urb .outOfMemory := by
        simp only [nativeOutcome, allocated]
      rw [outcome, noUrb allocated]
      exact ⟨native_urb rfl (kinds.imp_right Or.inl) rfl,
        by simp [NativeOutcome.accepts, enomem]⟩
  | some address =>
      have outcome : nativeOutcome world request =
          .urb (outcomeOf address (submissionError world request)) := by
        cases request with
        | isochronous request => simp [kindOf] at kinds
        | _ => simp only [nativeOutcome, allocated]
      have error := outcome_error native owner address (error_negative world request)
      rw [outcome] at possible ⊢
      rw [urb (by simp [allocated])]
      exact ⟨native_urb possible (kinds.imp_right Or.inl) error.1, error.2⟩

theorem isochronous_agrees (world : World) (request : IsochronousRequest) (native : Native)
    (owner : Request)
    (possible : (nativeOutcome world (.isochronous request)).possible native = true) :
    (∃ after, submitNative native .isochronous owner (nativeOutcome world (.isochronous request)) =
      some ((isochronousRequest world request).1, false, after)) ∧
    (NativeOutcome.accepts (nativeOutcome world (.isochronous request)) = true ↔
      ∃ sent, Call.submitUrb sent ∈ (isochronousRequest world request).2) := by
  cases allocated : world.urb with
  | none =>
      have outcome : nativeOutcome world (.isochronous request) = .urb .outOfMemory := by
        simp only [nativeOutcome, allocated]
      simp only [outcome, isochronousRequest, allocated]
      exact ⟨⟨native, rfl⟩, by simp [NativeOutcome.accepts]⟩
  | some address =>
      cases buffered : world.buffer with
      | none =>
          have outcome : nativeOutcome world (.isochronous request) =
              .noIsochronousBuffer address := by
            simp only [nativeOutcome, allocated, buffered, if_true]
          rw [outcome] at possible ⊢
          simp only [isochronousRequest, allocated, buffered]
          unfold submitNative
          rw [if_pos possible]
          exact ⟨⟨_, rfl⟩, by simp [NativeOutcome.accepts]⟩
      | some buffer =>
          cases packed : createIsoBuffer request.packets with
          | none =>
              have outcome : nativeOutcome world (.isochronous request) =
                  .noIsochronousData address := by
                simp [nativeOutcome, allocated, buffered, (iso_buffer_none_iff _).mp packed]
              rw [outcome] at possible ⊢
              simp only [isochronousRequest, allocated, buffered, packed]
              unfold submitNative
              rw [if_pos possible]
              exact ⟨⟨_, rfl⟩, by simp [NativeOutcome.accepts, clean_up_eq]⟩
          | some packs =>
              have complete := packets_present packed
              have outcome : nativeOutcome world (.isochronous request) =
                  .urb (outcomeOf address (submissionError world (.isochronous request))) := by
                simp [nativeOutcome, allocated, buffered, complete]
              have error := outcome_error native owner address
                (error_negative world (.isochronous request))
              rw [outcome] at possible ⊢
              simp only [isochronousRequest, allocated, buffered, packed]
              rw [finish_sent (isochronous_acquired world.globalRef address buffer)
                (submission_of_submit world rfl rfl)]
              simp only [finish, submit_error world _]
              refine ⟨native_urb possible (Or.inr (Or.inr ⟨rfl, ?_⟩)) error.1, error.2⟩
              unfold outcomeOf
              split_ifs <;> simp

/-- The detailed function and the model of the loop return the same error, and
agree on whether the kernel has the URB. -/
theorem native_agrees {world : World} {request : AsyncRequest} {err : Int} {calls : List Call}
    (returned : submitAsync world request = some (err, calls)) (native : Native) (owner : Request)
    (possible : (nativeOutcome world request).possible native = true) :
    (∃ after, submitNative native (kindOf request) owner (nativeOutcome world request) =
      some (err, false, after)) ∧
    (NativeOutcome.accepts (nativeOutcome world request) = true ↔
      ∃ sent, Call.submitUrb sent ∈ calls) := by
  cases request with
  | pipe request =>
      unfold submitAsync pipeRequest at returned
      obtain ⟨noUrb, urb, sent⟩ := elements_error returned (fun _ => ⟨rfl, rfl, rfl⟩)
        (submission_of_type world request.pipeType)
      apply elements_agree (Or.inl rfl) noUrb _ sent native owner possible
      intro allocated
      obtain ⟨_, error⟩ := urb allocated
      exact error.trans (type_error world request.pipeType _)
  | dcp request =>
      unfold submitAsync dcpRequest at returned
      obtain ⟨noUrb, urb, sent⟩ := elements_error returned (fun _ => ⟨rfl, rfl, rfl⟩)
        (fun _ => submission_of_submit world rfl rfl)
      apply elements_agree (Or.inr rfl) noUrb _ sent native owner possible
      intro allocated
      obtain ⟨_, error⟩ := urb allocated
      exact error.trans (submit_error world _)
  | isochronous request =>
      have agrees := isochronous_agrees world request native owner possible
      rw [Option.some.inj returned] at agrees
      exact agrees

end JavaxUsbLinux.SubmitFunctions
