import JavaxUsbLinux.HeldResources
import JavaxUsbLinux.SubmitFunctions

/-!
# What the proxy thread holds

`nativeDeviceProxy` does not return, so what one of its rounds forgets is never given
back. The module has the events of every round: the local references, the blocks of the
synchronous requests and what the module `SubmitFunctions` acquires for an URB, which
the completion of the URB releases. A completion finds the reaped URB at the address in
its request (module `UrbLife`).
-/

namespace JavaxUsbLinux.ProxyResources

open JavaxUsbLinux.HeldResources
open JavaxUsbLinux.NativeUrb (Address Handle Kind einval)
open JavaxUsbLinux.NestedLogs
open JavaxUsbLinux.Runs
open JavaxUsbLinux.SubmitFunctions

set_option autoImplicit false

/-- What a function holds while it runs: local references, each named by its variable
(`data` is also the `jbuf` of a packet), and the block of a synchronous request. -/
inductive Passing where
  | proxyClass
  | key
  | request
  | requestClass
  | data
  | block
  deriving DecidableEq

/-- What is kept belongs to an URB. -/
inductive Resource where
  | passing (name : Passing)
  | kept (resource : SubmitFunctions.Resource)
  deriving DecidableEq

def Resource.isReference : Resource → Bool
  | .passing .block => false
  | .passing _ => true
  | .kept _ => false

/-- The elements of an array are named by the URB that has them, as `GetByteArrayElements`
may return the array itself to several URBs. -/
def named (urb : Address) : SubmitFunctions.Resource → SubmitFunctions.Resource
  | .elements _ => .elements urb
  | resource => resource

def callEvent (urb : Address) : Call → Option (Event SubmitFunctions.Resource)
  | .acquire resource => some (.acquire (named urb resource))
  | .release resource => some (.release (named urb resource))
  | .submitUrb _ | .setUrbAddress _ => none

def callEvents (urb : Address) (calls : List Call) : List (Event Resource) :=
  (calls.filterMap (callEvent urb)).map (rename .kept)

def used (name : Passing) : List (Event Resource) :=
  [.acquire (.passing name), .release (.passing name)]

/-! ### Submission -/

/-- The references of `pipe_request` and `dcp_request` and what they call for the URB,
which begins with `NewGlobalRef`. -/
def requestWithElements (urb : Address) (calls : List Call) : List (Event Resource) :=
  callEvents urb (calls.take 1) ++
    ([.acquire (.passing .requestClass), .acquire (.passing .data),
      .release (.passing .requestClass)] ++
      (callEvents urb (calls.drop 1) ++ [.release (.passing .data)]))

/-- The references of `create_iso_buffer` and `destroy_iso_buffer`, which both stop at a
packet without data. -/
def isoBuffer (packets : List (Option (List UInt8))) : List (Event Resource) :=
  used .requestClass ++ (packets.takeWhile Option.isSome).flatMap fun _ => used .data

/-- The allocations of the URB and of its buffer come before `create_iso_buffer`. -/
def isochronousRequest (world : World) (request : IsochronousRequest) (urb : Address)
    (calls : List Call) : List (Event Resource) :=
  used .requestClass ++ (callEvents urb (calls.take 2) ++
    ((if world.urb.isSome && world.buffer.isSome then isoBuffer request.packets else []) ++
      callEvents urb (calls.drop 2)))

def asynchronousRequest (world : World) (calls : List Call) : AsyncRequest → List (Event Resource)
  | .pipe _ | .dcp _ => requestWithElements (world.urb.getD 0) calls
  | .isochronous request => isochronousRequest world request (world.urb.getD 0) calls

/-- The synchronous requests have a block for the argument of their ioctl. -/
def synchronousRequest (allocated : Bool) : List (Event Resource) :=
  used .requestClass ++ if allocated then used .block else []

def setConfiguration (allocated : Bool) : List (Event Resource) := synchronousRequest allocated
def setInterface (allocated : Bool) : List (Event Resource) := synchronousRequest allocated
def claimInterface (allocated : Bool) : List (Event Resource) := synchronousRequest allocated
def isClaimed (allocated : Bool) : List (Event Resource) := synchronousRequest allocated

/-- A request for `submitRequest`, with what happens when it is submitted. -/
inductive ReadyRequest where
  | asynchronous (world : World) (request : AsyncRequest)
  | setConfiguration (allocated : Bool)
  | setInterface (allocated : Bool)
  | claimInterface (allocated : Bool)
  | releaseInterface (allocated : Bool)
  | isClaimedInterface (allocated : Bool)
  | unknown

structure Flight where
  request : AsyncRequest
  urb : UsbdevfsUrb

def blockOf : AsyncRequest → Address → SubmitFunctions.Resource
  | .pipe _ | .dcp _ => .elements
  | .isochronous _ => .buffer

def Flight.resources (flight : Flight) : List SubmitFunctions.Resource :=
  (held (blockOf flight.request) flight.urb).map (named flight.urb.address)

/-- `forgotten` are the URB blocks to which no variable points any more. -/
structure State where
  inFlight : List Flight
  forgotten : List Address
  log : List (Event Resource)

def State.kept (state : State) : List SubmitFunctions.Resource :=
  state.inFlight.flatMap Flight.resources ++ state.forgotten.map .urb

def State.add (state : State) (events : List (Event Resource)) : State :=
  { state with log := state.log ++ events }

def sentIn (calls : List Call) : List UsbdevfsUrb :=
  calls.filterMap fun call =>
    match call with
    | .submitUrb urb => some urb
    | _ => none

/-- `isochronous_request` returns 0 without a buffer. -/
def forgottenBy (world : World) : AsyncRequest → List Address
  | .pipe _ | .dcp _ => []
  | .isochronous _ => if world.buffer.isNone then world.urb.toList else []

def allocations (world : World) : List SubmitFunctions.Resource :=
  ifSome world.globalRef .globalRef ++ ifSome world.urb .urb ++ ifSome world.buffer .buffer

/-- What is in use is not allocated again. -/
def submitRequest (state : State) : ReadyRequest → Option State
  | .asynchronous world request =>
      if ∀ resource ∈ allocations world, resource ∉ state.kept then
        (submitAsync world request).map fun result =>
          { inFlight := state.inFlight ++ (sentIn result.2).map (Flight.mk request)
            forgotten := state.forgotten ++ forgottenBy world request
            log := state.log ++
              (used .requestClass ++ asynchronousRequest world result.2 request) }
      else none
  | .setConfiguration allocated =>
      some (state.add (used .requestClass ++ setConfiguration allocated))
  | .setInterface allocated => some (state.add (used .requestClass ++ setInterface allocated))
  | .claimInterface allocated | .releaseInterface allocated =>
      some (state.add (used .requestClass ++ claimInterface allocated))
  | .isClaimedInterface allocated => some (state.add (used .requestClass ++ isClaimed allocated))
  | .unknown => some (state.add (used .requestClass))

/-! ### Cancelling and completion -/

def cancelPipeRequest : List (Event Resource) := used .requestClass
def cancelDcpRequest : List (Event Resource) := used .requestClass
def cancelIsochronousRequest : List (Event Resource) := used .requestClass

def cancelRequest (kind : Kind) : List (Event Resource) :=
  used .requestClass ++
    match kind with
    | .pipe => cancelPipeRequest
    | .dcp => cancelDcpRequest
    | .isochronous => cancelIsochronousRequest
    | _ => []

def completeByPipeType (pipeType : Int) : List (Event Resource) :=
  if pipeType ∈ [pipeControl, pipeBulk, pipeInterrupt, pipeIsochronous] then used .requestClass
  else []

def releaseElements (urb : Address) : List (Event Resource) :=
  [.acquire (.passing .data)] ++ [.release (.kept (.elements urb))] ++
    [.release (.passing .data)] ++ [.release (.kept (.urb urb))]

def completePipeRequest (request : PipeRequest) (urb : Address) : List (Event Resource) :=
  used .requestClass ++ completeByPipeType request.pipeType ++ releaseElements urb

def completeDcpRequest (urb : Address) : List (Event Resource) :=
  used .requestClass ++ releaseElements urb

/-- `packets` are the results of `getData` at the completion, past the failing lookup of
`getData` as `()[B` with which the source begins: what it does with the pending error is
not defined. -/
def completeIsochronousRequest (packets : List (Option (List UInt8))) (buffer urb : Address) :
    List (Event Resource) :=
  used .requestClass ++ isoBuffer packets ++
    [.release (.kept (.buffer buffer))] ++ [.release (.kept (.urb urb))]

def completeRequest (flight : Flight) (packets : List (Option (List UInt8))) (buffer : Address) :
    List (Event Resource) :=
  used .requestClass ++
    match flight.request with
    | .pipe request => completePipeRequest request flight.urb.address
    | .dcp _ => completeDcpRequest flight.urb.address
    | .isochronous _ => completeIsochronousRequest packets buffer flight.urb.address

/-! ### The loop -/

/-- What the calls in a round of the loop return: the request to submit, the type of the
request to cancel, and which URB is reaped. -/
structure Round where
  ready : Option ReadyRequest
  cancel : Option Kind
  reaped : Option (Nat × List (Option (List UInt8)))

def takeReady (state : State) : Option ReadyRequest → Option State
  | none => some state
  | some request =>
      (submitRequest (state.add [.acquire (.passing .request)]) request).map fun after =>
        after.add [.release (.passing .request)]

def takeCancel (state : State) : Option Kind → State
  | none => state
  | some kind => state.add ([.acquire (.passing .request)] ++ cancelRequest kind ++
      [.release (.passing .request)])

/-- An URB without a reference has no request to complete, and one without a buffer
releases the elements `NULL`: neither has a defined result. -/
def reap (state : State) : Option (Nat × List (Option (List UInt8))) → Option State
  | none => some state
  | some (index, packets) =>
      state.inFlight[index]?.bind fun flight =>
        flight.urb.usercontext.bind fun handle =>
          flight.urb.buffer.map fun buffer =>
            { state with
              inFlight := state.inFlight.eraseIdx index
              log := state.log ++ (completeRequest flight packets buffer ++
                [.release (.kept (.globalRef handle))]) }

def step (state : State) (round : Round) : Option State :=
  (takeReady state round.ready).bind fun submitted =>
    reap (takeCancel submitted round.cancel) round.reaped

/-- Before the loop. If the node cannot be opened nothing follows. -/
def State.initial : State where
  inFlight := []
  forgotten := []
  log := [.acquire (.passing .proxyClass), .acquire (.passing .key),
    .release (.passing .proxyClass), .release (.passing .key)]

/-! ### The two kinds of resources -/

def both (passing : Finset Passing) (kept : Finset SubmitFunctions.Resource) : Finset Resource :=
  passing.image .passing ∪ kept.image .kept

section Both

variable {passing later : Finset Passing} {kept after : Finset SubmitFunctions.Resource}

theorem passing_holds {events : List (Event Passing)} (holds : Holds passing events later) :
    Holds (both passing kept) (events.map (rename .passing)) (both later kept) := by
  unfold both
  rw [Finset.union_comm, Finset.union_comm (later.image _)]
  exact holds.rename (fun _ _ => Resource.passing.inj) (by simp)

theorem kept_holds {events : List (Event SubmitFunctions.Resource)}
    (holds : Holds kept events after) :
    Holds (both passing kept) (events.map (rename .kept)) (both passing after) :=
  holds.rename (fun _ _ => Resource.kept.inj) (by simp)

theorem used_holds {name : Passing} (fresh : name ∉ passing) :
    Holds (both passing kept) (used name) (both passing kept) := by
  have given : Holds passing [.acquire name, .release name] passing :=
    (holds_acquire fresh).append (holds_given_back fresh)
  exact passing_holds given

end Both

/-! ### What a submission adds -/

/-- The events acquire these resources and nothing else that stays. -/
structure Adds (kept : Finset SubmitFunctions.Resource)
    (events : List (Event SubmitFunctions.Resource)) (new : List SubmitFunctions.Resource) :
    Prop where
  holds : Holds kept events (kept ∪ new.toFinset)
  distinct : new.Nodup
  fresh : ∀ resource ∈ new, resource ∉ kept

def added (world : World) (request : AsyncRequest) (calls : List Call) :
    List SubmitFunctions.Resource :=
  ((sentIn calls).map (Flight.mk request)).flatMap Flight.resources ++
    (forgottenBy world request).map .urb

theorem resources_nodup (flight : Flight) : flight.resources.Nodup := by
  obtain ⟨request, urb⟩ := flight
  unfold Flight.resources held ifSome
  cases request <;> cases urb.usercontext <;> cases urb.buffer <;> simp [blockOf, named]

theorem resources_cases {flight : Flight} {resource : SubmitFunctions.Resource}
    (member : resource ∈ flight.resources) :
    (∃ handle, flight.urb.usercontext = some handle ∧ resource = .globalRef handle) ∨
      (∃ buffer, flight.urb.buffer = some buffer ∧
        resource = named flight.urb.address (blockOf flight.request buffer)) ∨
      resource = .urb flight.urb.address := by
  simp only [Flight.resources, held, ifSome, List.map_append, List.mem_append, List.mem_map,
    Option.mem_toList, Option.map_eq_some_iff] at member
  rcases member with (⟨_, ⟨handle, its, rfl⟩, rfl⟩ | ⟨_, ⟨buffer, its, rfl⟩, rfl⟩) | ⟨_, here, rfl⟩
  · exact Or.inl ⟨handle, its, rfl⟩
  · exact Or.inr (Or.inl ⟨buffer, its, rfl⟩)
  · rw [List.mem_singleton.mp here]
    exact Or.inr (Or.inr rfl)

theorem elements_owned {flight : Flight} {urb : Address}
    (member : .elements urb ∈ flight.resources) : .urb urb ∈ flight.resources := by
  obtain ⟨request, sent⟩ := flight
  unfold Flight.resources held ifSome at member ⊢
  cases request <;> cases sent.usercontext <;> cases sent.buffer <;>
    simp_all [blockOf, named]

theorem kept_elements {state : State} {urb : Address} (member : .elements urb ∈ state.kept) :
    .urb urb ∈ state.kept := by
  rcases List.mem_append.mp member with inside | inside
  · obtain ⟨flight, listed, owned⟩ := List.mem_flatMap.mp inside
    exact List.mem_append_left _ (List.mem_flatMap.mpr ⟨flight, listed, elements_owned owned⟩)
  · obtain ⟨_, _, same⟩ := List.mem_map.mp inside
    cases same

theorem submit_sends {world : World} {urb sent : UsbdevfsUrb}
    (member : .submitUrb sent ∈ (submitUrb world urb).2) : sent = urb := by
  unfold submitUrb at member
  cases refused : world.refusal with
  | none => simpa [refused] using member
  | some errno => simp [refused] at member

theorem type_keeps_buffer {world : World} {pipeType : Int} {urb sent : UsbdevfsUrb}
    (member : .submitUrb sent ∈ (submitByPipeType world pipeType urb).2) :
    sent.buffer = urb.buffer := by
  unfold submitByPipeType at member
  split_ifs at member
  · rw [submit_sends member]
  · rw [submit_sends member]
  · rw [submit_sends member]
  · rw [submit_sends member]
  · simp at member

section Submissions

variable {world : World} {kept : Finset SubmitFunctions.Resource} {urb : UsbdevfsUrb}

theorem acquired_events {address : Address} (resources : List SubmitFunctions.Resource) :
    (resources.map Call.acquire).filterMap (callEvent address) =
      (resources.map (named address)).map .acquire := by
  simp [List.filterMap_map, Function.comp_def, callEvent]

theorem released_events {address : Address} (resources : List SubmitFunctions.Resource) :
    (resources.map Call.release).filterMap (callEvent address) =
      (resources.map (named address)).map .release := by
  simp [List.filterMap_map, Function.comp_def, callEvent]

theorem sent_acquired (resources : List SubmitFunctions.Resource) :
    sentIn (resources.map Call.acquire) = [] := by
  simp [sentIn, List.filterMap_map]

theorem sent_released (resources : List SubmitFunctions.Resource) :
    sentIn (resources.map Call.release) = [] := by
  simp [sentIn, List.filterMap_map]

/-- All that was acquired is released again, or belongs to the URB that was sent. -/
theorem finish_adds {request : AsyncRequest} {resources : List SubmitFunctions.Resource}
    {submission : Int × List Call} (spec : Submission urb submission)
    (buffer : ∀ sent, .submitUrb sent ∈ submission.2 → sent.buffer = urb.buffer)
    (same : resources.Perm (held (blockOf request) urb))
    (fresh : ∀ resource ∈ (Flight.mk request urb).resources, resource ∉ kept)
    {calls : List Call}
    (ends : (finish (blockOf request) urb (resources.map .acquire) submission).2 = calls) :
    Adds kept (calls.filterMap (callEvent urb.address))
      (((sentIn calls).map (Flight.mk request)).flatMap Flight.resources) := by
  have perm : (resources.map (named urb.address)).Perm (Flight.mk request urb).resources :=
    same.map _
  have distinct := resources_nodup ⟨request, urb⟩
  have acquired := holds_acquires (perm.nodup_iff.mpr distinct) fun resource member =>
    fresh resource (perm.mem_iff.mp member)
  rw [List.toFinset_eq_of_perm _ _ perm] at acquired
  rcases spec with ⟨failed, silent⟩ | ⟨sent, rfl, address, context⟩
  · rw [finish, if_neg failed, silent, List.append_nil, clean_up_eq] at ends
    have none : sentIn calls = [] := by
      rw [← ends, sentIn, List.filterMap_append]
      exact List.append_eq_nil_iff.mpr ⟨sent_acquired _, sent_released _⟩
    rw [none, ← ends, List.filterMap_append, acquired_events, released_events]
    refine ⟨?_, List.nodup_nil, by simp⟩
    rw [List.map_nil, List.flatMap_nil, List.toFinset_nil, Finset.union_empty]
    have released := holds_releases distinct fun resource member =>
      Finset.mem_union_right kept (List.mem_toFinset.mpr member)
    rw [Finset.union_sdiff_cancel_right] at released
    · exact acquired.append released
    · exact Finset.disjoint_right.mpr fun resource member =>
        fresh resource (List.mem_toFinset.mp member)
  · rw [finish, if_pos rfl] at ends
    have one : sentIn calls = [sent] := by
      rw [← ends, sentIn, List.filterMap_append, List.filterMap_append]
      exact congrArg (· ++ [sent] ++ []) (sent_acquired resources)
    have owned : (Flight.mk request sent).resources = (Flight.mk request urb).resources := by
      simp only [Flight.resources, held, context, address, buffer sent List.mem_cons_self]
    rw [one, ← ends, List.filterMap_append, List.filterMap_append, acquired_events]
    simp only [List.map_cons, List.map_nil, List.flatMap_cons, List.flatMap_nil, List.append_nil,
      owned]
    exact ⟨(acquired.append holds_nil).append holds_nil, distinct, fresh⟩

theorem adds_nothing : Adds kept [] [] :=
  ⟨by simpa using holds_nil, List.nodup_nil, by simp⟩

section Functions

variable (fresh : ∀ resource ∈ allocations world, resource ∉ kept)
include fresh

theorem fresh_handle {handle : Handle} (created : world.globalRef = some handle) :
    .globalRef handle ∉ kept :=
  fresh _ (by simp [allocations, ifSome, created])

theorem fresh_urb {address : Address} (allocated : world.urb = some address) :
    .urb address ∉ kept :=
  fresh _ (by simp [allocations, ifSome, allocated])

theorem fresh_buffer {address : Address} (allocated : world.buffer = some address) :
    .buffer address ∉ kept :=
  fresh _ (by simp [allocations, ifSome, allocated])

theorem elements_adds (owned : ∀ address, .elements address ∈ kept → .urb address ∈ kept)
    (request : AsyncRequest) (pinned : blockOf request = .elements) {data : List UInt8}
    {fill : UsbdevfsUrb → UsbdevfsUrb} {submit : UsbdevfsUrb → Int × List Call}
    {err : Int} {calls : List Call}
    (returned : SubmitFunctions.requestWithElements world data fill submit = some (err, calls))
    (fills : ∀ urb, (fill urb).address = urb.address ∧ (fill urb).buffer = urb.buffer ∧
      (fill urb).usercontext = urb.usercontext)
    (submits : ∀ urb, Submission urb (submit urb))
    (buffers : ∀ urb sent, .submitUrb sent ∈ (submit urb).2 → sent.buffer = urb.buffer) :
    Adds kept (calls.filterMap (callEvent (world.urb.getD 0)))
      (((sentIn calls).map (Flight.mk request)).flatMap Flight.resources) := by
  unfold SubmitFunctions.requestWithElements at returned
  cases referred : world.globalRef with
  | none => simp [referred] at returned
  | some handle =>
      have new := fresh_handle fresh referred
      cases allocated : world.urb with
      | none =>
          simp only [referred, allocated, Option.some.injEq, Prod.mk.injEq] at returned
          obtain ⟨_, rfl⟩ := returned
          have given := (holds_acquire new).append (holds_given_back new)
          refine ⟨?_, List.nodup_nil, by simp [sentIn]⟩
          change Holds kept _ (kept ∪ ∅)
          rw [Finset.union_empty]
          exact given
      | some address =>
          have free := fresh_urb fresh allocated
          simp only [referred, allocated, Option.some.injEq] at returned
          have taken : ([.acquire (.globalRef handle), .acquire (.urb address)] ++
              ifSome world.buffer fun elements => .acquire (.elements elements) : List Call) =
              ([.globalRef handle, .urb address] ++ ifSome world.buffer .elements :
                List SubmitFunctions.Resource).map .acquire := by
            cases world.buffer <;> rfl
          rw [taken, ← pinned] at returned
          obtain ⟨prepared, shape, ends⟩ : ∃ prepared : UsbdevfsUrb,
              (prepared.address = address ∧ prepared.buffer = world.buffer ∧
                prepared.usercontext = some handle) ∧
              (finish (blockOf request) prepared _ (submit prepared)).2 = calls :=
            ⟨_, fills _, congrArg Prod.snd returned⟩
          obtain ⟨here, elements, context⟩ := shape
          rw [Option.getD_some, ← here]
          refine finish_adds (submits _) (buffers _) ?_ ?_ ends
          · rw [held, pinned, here, elements, context]
            cases world.buffer with
            | none => exact List.Perm.refl _
            | some buffer => exact (List.Perm.swap _ _ []).cons _
          · intro resource member
            rcases resources_cases member with ⟨other, its, rfl⟩ | ⟨buffer, _, rfl⟩ | rfl
            · rwa [← Option.some.inj (context.symm.trans its)]
            · rw [here, pinned]
              exact fun inside => free (owned address inside)
            · rwa [here]

theorem blocks_adds (request : IsochronousRequest) {buffer : Address} {submission : Int × List Call}
    {calls : List Call} (allocated : world.urb = some urb.address)
    (buffered : world.buffer = some buffer) (its : urb.buffer = some buffer)
    (context : ∀ handle, urb.usercontext = some handle → world.globalRef = some handle)
    (spec : Submission urb submission)
    (buffers : ∀ sent, .submitUrb sent ∈ submission.2 → sent.buffer = urb.buffer)
    (ends : (finish .buffer urb ([.acquire (.urb urb.address), .acquire (.buffer buffer)] ++
      ifSome urb.usercontext fun handle => .acquire (.globalRef handle)) submission).2 = calls) :
    Adds kept (calls.filterMap (callEvent urb.address))
      (((sentIn calls).map (Flight.mk (.isochronous request))).flatMap Flight.resources) := by
  have apart : ∀ resource ∈ (Flight.mk (.isochronous request) urb).resources,
      resource ∉ kept := by
    intro resource member
    rcases resources_cases member with ⟨handle, referred, rfl⟩ | ⟨other, same, rfl⟩ | rfl
    · exact fresh_handle fresh (context handle referred)
    · rw [← Option.some.inj (its.symm.trans same)]
      exact fresh_buffer fresh buffered
    · exact fresh_urb fresh allocated
  have order : ([.urb urb.address, .buffer buffer] ++ ifSome urb.usercontext .globalRef :
      List SubmitFunctions.Resource).Perm (held (blockOf (.isochronous request)) urb) := by
    rw [held, its]
    cases urb.usercontext with
    | none => exact List.Perm.swap _ _ []
    | some handle =>
        exact List.reverse_perm [SubmitFunctions.Resource.globalRef handle, .buffer buffer,
          .urb urb.address]
  have taken : ([.acquire (.urb urb.address), .acquire (.buffer buffer)] ++
      ifSome urb.usercontext fun handle => .acquire (.globalRef handle) : List Call) =
      ([.urb urb.address, .buffer buffer] ++ ifSome urb.usercontext .globalRef :
        List SubmitFunctions.Resource).map .acquire := by
    cases urb.usercontext <;> rfl
  rw [taken] at ends
  exact finish_adds spec buffers order apart ends

theorem isochronous_adds (request : IsochronousRequest) {calls : List Call}
    (returned : (SubmitFunctions.isochronousRequest world request).2 = calls) :
    Adds kept (calls.filterMap (callEvent (world.urb.getD 0)))
      (added world (.isochronous request) calls) := by
  unfold SubmitFunctions.isochronousRequest at returned
  cases allocated : world.urb with
  | none =>
      simp only [allocated] at returned
      subst returned
      simpa [added, sentIn, forgottenBy, allocated] using adds_nothing
  | some address =>
      cases buffered : world.buffer with
      | none =>
          simp only [allocated, buffered] at returned
          subst returned
          have new : added world (.isochronous request) [.acquire (.urb address)] =
              [.urb address] := by
            simp [added, sentIn, forgottenBy, allocated, buffered]
          rw [new]
          have apart : ∀ resource ∈ [SubmitFunctions.Resource.urb address], resource ∉ kept := by
            simpa using fresh_urb fresh allocated
          exact ⟨holds_acquires (List.nodup_singleton _) apart, List.nodup_singleton _, apart⟩
      | some buffer =>
          have kind : added world (.isochronous request) calls =
              ((sentIn calls).map (Flight.mk (.isochronous request))).flatMap
                Flight.resources := by
            simp [added, forgottenBy, buffered]
          rw [kind]
          simp only [allocated, buffered] at returned
          cases packed : createIsoBuffer request.packets with
          | none =>
              simp only [packed] at returned
              -- a packet without data counts as a submission that is refused
              let urb : UsbdevfsUrb := { zeroed address with
                numberOfPackets := request.packets.length
                buffer := some buffer
                bufferLength := request.bufferSize }
              have refused : Submission urb (-einval, []) := Or.inl ⟨by decide, rfl⟩
              exact blocks_adds fresh request allocated buffered rfl (by simp [urb, zeroed]) refused
                (by simp) returned
          | some packs =>
              simp only [packed] at returned
              exact blocks_adds fresh request allocated buffered rfl (fun _ => id)
                (submission_of_submit world rfl rfl) (fun _ member => by rw [submit_sends member])
                returned

theorem submit_adds (owned : ∀ address, .elements address ∈ kept → .urb address ∈ kept)
    {request : AsyncRequest} {err : Int} {calls : List Call}
    (returned : submitAsync world request = some (err, calls)) :
    Adds kept (calls.filterMap (callEvent (world.urb.getD 0))) (added world request calls) := by
  cases request with
  | isochronous request =>
      exact isochronous_adds fresh request (congrArg Prod.snd (Option.some.inj returned))
  | pipe request =>
      unfold submitAsync pipeRequest at returned
      have adds := elements_adds fresh owned (AsyncRequest.pipe request) rfl returned
        (fun _ => ⟨rfl, rfl, rfl⟩) (submission_of_type world request.pipeType)
        fun _ _ => type_keeps_buffer
      simpa [added, forgottenBy] using adds
  | dcp request =>
      unfold submitAsync dcpRequest at returned
      have adds := elements_adds fresh owned (AsyncRequest.dcp request) rfl returned
        (fun _ => ⟨rfl, rfl, rfl⟩) (fun _ => submission_of_submit world rfl rfl)
        fun _ _ member => by rw [submit_sends member]
      simpa [added, forgottenBy] using adds

end Functions

end Submissions

/-! ### The events of the functions -/

section Events

variable {passing : Finset Passing} {kept after : Finset SubmitFunctions.Resource}

theorem call_events_split {urb : Address} {calls : List Call} (count : Nat)
    (holds : Holds kept (calls.filterMap (callEvent urb)) after) :
    ∃ middle, ∀ passing, Holds (both passing kept) (callEvents urb (calls.take count))
        (both passing middle) ∧
      Holds (both passing middle) (callEvents urb (calls.drop count)) (both passing after) := by
  rw [← List.take_append_drop count calls, List.filterMap_append] at holds
  obtain ⟨middle, front, back⟩ := holds.split
  exact ⟨middle, fun _ => ⟨kept_holds front, kept_holds back⟩⟩

theorem iso_buffer_holds (noClass : .requestClass ∉ passing) (noData : .data ∉ passing)
    (packets : List (Option (List UInt8))) :
    Holds (both passing kept) (isoBuffer packets) (both passing kept) := by
  refine (used_holds noClass).append ?_
  induction packets.takeWhile Option.isSome with
  | nil => exact holds_nil
  | cons packet packets ih => exact (used_holds noData).append ih

theorem asynchronous_holds {world : World} {request : AsyncRequest} {calls : List Call}
    (holds : Holds kept (calls.filterMap (callEvent (world.urb.getD 0))) after) :
    Holds (both {.request} kept) (asynchronousRequest world calls request)
      (both {.request} after) := by
  have elements : Holds (both {.request} kept) (requestWithElements (world.urb.getD 0) calls)
      (both {.request} after) := by
    obtain ⟨middle, parts⟩ := call_events_split 1 holds
    have data : Holds {.request} [.acquire Passing.requestClass, .acquire .data,
        .release .requestClass] {.request, .data} := by decide
    have deleted : Holds {.request, .data} [.release Passing.data] {.request} := by decide
    exact (parts _).1.append ((passing_holds data).append
      ((parts _).2.append (passing_holds deleted)))
  cases request with
  | pipe | dcp => exact elements
  | isochronous request =>
      obtain ⟨middle, parts⟩ := call_events_split 2 holds
      refine (used_holds (by decide)).append ((parts _).1.append (Holds.append ?_ (parts _).2))
      split_ifs
      · exact iso_buffer_holds (by decide) (by decide) request.packets
      · exact holds_nil

theorem synchronous_holds (allocated : Bool) :
    Holds (both {.request} kept) (synchronousRequest allocated) (both {.request} kept) := by
  refine (used_holds (by decide)).append ?_
  cases allocated
  · exact holds_nil
  · exact used_holds (by decide)

theorem cancel_holds (kind : Kind) :
    Holds (both {.request} kept) (cancelRequest kind) (both {.request} kept) := by
  have reference : Holds (both {.request} kept) (used .requestClass) (both {.request} kept) :=
    used_holds (by decide)
  refine reference.append ?_
  cases kind with
  | pipe | dcp | isochronous => exact reference
  | _ => exact holds_nil

/-- The completion of an URB releases its buffer and its block. -/
theorem complete_holds {flight : Flight} {buffer : Address}
    {middle : Finset SubmitFunctions.Resource} (packets : List (Option (List UInt8)))
    (block : Holds kept
      [.release (named flight.urb.address (blockOf flight.request buffer))] middle)
    (urb : Holds middle [.release (.urb flight.urb.address)] after) :
    Holds (both ∅ kept) (completeRequest flight packets buffer) (both ∅ after) := by
  obtain ⟨request, sent⟩ := flight
  have reference {held : Finset SubmitFunctions.Resource} :
      Holds (both ∅ held) (used .requestClass) (both ∅ held) :=
    used_holds (Finset.notMem_empty _)
  have data : Holds ∅ [.acquire Passing.data] {.data} := by decide
  have deleted : Holds {.data} [.release Passing.data] ∅ := by decide
  refine reference.append ?_
  cases request with
  | isochronous request =>
      have buffers : Holds (both ∅ kept) (isoBuffer packets) (both ∅ kept) :=
        iso_buffer_holds (Finset.notMem_empty _) (Finset.notMem_empty _) packets
      exact ((reference.append buffers).append (kept_holds block)).append (kept_holds urb)
  | pipe request =>
      have elements := (((passing_holds data).append (kept_holds block)).append
        (passing_holds deleted)).append (kept_holds urb)
      refine (reference.append ?_).append elements
      unfold completeByPipeType
      split_ifs
      · exact reference
      · exact holds_nil
  | dcp request =>
      have elements := (((passing_holds data).append (kept_holds block)).append
        (passing_holds deleted)).append (kept_holds urb)
      exact reference.append elements

end Events

/-! ### Every round -/

/-- What the log leaves held: what the thread's functions hold, and what belongs to the
URBs. -/
structure Sound (passing : Finset Passing) (state : State) : Prop where
  holds : Holds ∅ state.log (both passing state.kept.toFinset)
  distinct : state.kept.Nodup

section Rounds

variable {passing later : Finset Passing} {state after : State}

theorem Sound.add {events : List (Event Resource)} (sound : Sound passing state)
    (holds : Holds (both passing state.kept.toFinset) events
      (both later state.kept.toFinset)) : Sound later (state.add events) :=
  ⟨sound.holds.append holds, sound.distinct⟩

theorem initial_sound : Sound ∅ State.initial := by
  refine ⟨?_, List.nodup_nil⟩
  decide

theorem kept_added (state : State) (world : World) (request : AsyncRequest) (calls : List Call)
    (log : List (Event Resource)) :
    (State.mk (state.inFlight ++ (sentIn calls).map (Flight.mk request))
      (state.forgotten ++ forgottenBy world request) log).kept.Perm
        (state.kept ++ added world request calls) := by
  rw [List.perm_iff_count]
  intro resource
  simp only [State.kept, added, List.flatMap_append, List.map_append, List.count_append]
  omega

theorem submit_sound {request : ReadyRequest} (sound : Sound {.request} state)
    (submitted : submitRequest state request = some after) : Sound {.request} after := by
  have reference : Holds (both {.request} state.kept.toFinset) (used .requestClass)
      (both {.request} state.kept.toFinset) := used_holds (by decide)
  cases request with
  | asynchronous world request =>
      simp only [submitRequest, Option.ite_none_right_eq_some, Option.map_eq_some_iff]
        at submitted
      obtain ⟨fresh, ⟨err, calls⟩, returned, rfl⟩ := submitted
      have free : ∀ resource ∈ allocations world, resource ∉ state.kept.toFinset := by
        simpa using fresh
      have owned : ∀ address, .elements address ∈ state.kept.toFinset →
          .urb address ∈ state.kept.toFinset := by
        simpa using fun address => kept_elements
      have adds := submit_adds free owned returned
      have perm := kept_added state world request calls (state.log ++
        (used .requestClass ++ asynchronousRequest world calls request))
      constructor
      · rw [List.toFinset_eq_of_perm _ _ perm, List.toFinset_append]
        exact sound.holds.append (reference.append (asynchronous_holds adds.holds))
      · rw [perm.nodup_iff, List.nodup_append]
        refine ⟨sound.distinct, adds.distinct, ?_⟩
        rintro resource here _ new rfl
        exact adds.fresh resource new (List.mem_toFinset.mpr here)
  | unknown =>
      cases submitted
      exact sound.add reference
  | _ allocated =>
      cases submitted
      exact sound.add (reference.append (synchronous_holds allocated))

theorem resources_whole {flight : Flight} {handle : Handle} {buffer : Address}
    (referred : flight.urb.usercontext = some handle) (buffered : flight.urb.buffer = some buffer) :
    flight.resources = [.globalRef handle, named flight.urb.address (blockOf flight.request buffer),
      .urb flight.urb.address] := by
  rw [Flight.resources, held, referred, buffered]
  rfl

theorem kept_reaped {flight : Flight} {index : Nat} (log : List (Event Resource))
    (found : state.inFlight[index]? = some flight) :
    state.kept.Perm (flight.resources ++
      (State.mk (state.inFlight.eraseIdx index) state.forgotten log).kept) := by
  obtain ⟨bound, here⟩ := List.getElem?_eq_some_iff.mp found
  have perm := (List.getElem_cons_eraseIdx_perm bound).symm
  rw [here] at perm
  rw [State.kept, State.kept, ← List.append_assoc, ← List.flatMap_cons]
  exact (perm.flatMap_right _).append_right _

theorem reap_sound {choice : Option (Nat × List (Option (List UInt8)))} (sound : Sound ∅ state)
    (reaped : reap state choice = some after) : Sound ∅ after := by
  cases choice with
  | none =>
      cases reaped
      exact sound
  | some choice =>
      obtain ⟨index, packets⟩ := choice
      simp only [reap, Option.bind_eq_some_iff, Option.map_eq_some_iff] at reaped
      obtain ⟨flight, found, handle, referred, buffer, buffered, rfl⟩ := reaped
      have perm := kept_reaped (state.log ++ (completeRequest flight packets buffer ++
        [.release (.kept (.globalRef handle))])) found
      rw [resources_whole referred buffered] at perm
      have order := perm.trans (List.Perm.append_right _ (List.perm_append_singleton _ [_, _]).symm)
      have released := holds_rest (order.nodup_iff.mp sound.distinct)
      rw [← List.toFinset_eq_of_perm _ _ order] at released
      obtain ⟨_, block, others⟩ := released.uncons
      obtain ⟨_, urb, reference⟩ := others.uncons
      have completed := complete_holds packets block urb
      refine ⟨sound.holds.append (completed.append (kept_holds reference)), ?_⟩
      exact (List.nodup_append.mp (perm.nodup_iff.mp sound.distinct)).2.1

theorem step_sound {round : Round} (sound : Sound ∅ state) (taken : step state round = some after) :
    Sound ∅ after := by
  obtain ⟨submitted, ready, reaped⟩ := Option.bind_eq_some_iff.mp taken
  have given : Holds ∅ [.acquire Passing.request] {.request} := by decide
  have deleted : Holds {.request} [.release Passing.request] ∅ := by decide
  have first : Sound ∅ submitted := by
    cases asked : round.ready with
    | none =>
        rw [asked] at ready
        exact Option.some.inj ready ▸ sound
    | some request =>
        rw [asked, takeReady, Option.map_eq_some_iff] at ready
        obtain ⟨middle, done, rfl⟩ := ready
        exact (submit_sound (sound.add (passing_holds given)) done).add (passing_holds deleted)
  have second : Sound ∅ (takeCancel submitted round.cancel) := by
    cases round.cancel with
    | none => exact first
    | some kind =>
        exact first.add (((passing_holds given).append (cancel_holds kind)).append
          (passing_holds deleted))
  exact reap_sound second reaped

theorem sound_run (reached : Reach step anyStep State.initial state) : Sound ∅ state :=
  reached.invariant (Sound ∅) initial_sound fun _ _ _ sound _ taken => step_sound sound taken

end Rounds

theorem few_references (held : Finset Resource) :
    (held.filter fun resource => resource.isReference = true).card ≤ 5 := by
  let names : Finset Passing := {.proxyClass, .key, .request, .requestClass, .data}
  have inside : (held.filter fun resource => resource.isReference = true) ⊆
      names.image .passing := by
    intro resource member
    have reference := (Finset.mem_filter.mp member).2
    cases resource with
    | kept => cases reference
    | passing name =>
        apply Finset.mem_image_of_mem
        cases name with
        | block => cases reference
        | _ => decide
  exact (Finset.card_le_card inside).trans Finset.card_image_le

/-- In every run of the loop nothing is released that is not held. Between the rounds no
local reference and no block of a synchronous request is left: what is held are the
resources of the URBs in flight, no two of which share any, and the URB blocks of the
isochronous requests that got no buffer. At no time are there more than five local
references. -/
theorem flights_hold_all {state : State} (reached : Reach step anyStep State.initial state) :
    (∃ held, Holds ∅ state.log held ∧ ∀ resource, resource ∈ held ↔
        (∃ flight ∈ state.inFlight, ∃ kept ∈ flight.resources, resource = .kept kept) ∨
          ∃ address ∈ state.forgotten, resource = .kept (.urb address)) ∧
      state.kept.Nodup ∧
      ∀ front, front <+: state.log → ∃ held, Holds ∅ front held ∧
        (held.filter fun resource => resource.isReference = true).card ≤ 5 := by
  have sound := sound_run reached
  refine ⟨⟨_, sound.holds, fun resource => ?_⟩, sound.distinct, ?_⟩
  · simp only [both, Finset.image_empty, Finset.empty_union, Finset.mem_image, List.mem_toFinset,
      State.kept, List.mem_append, List.mem_flatMap, List.mem_map]
    constructor
    · rintro ⟨kept, ⟨flight, listed, member⟩ | ⟨address, listed, rfl⟩, rfl⟩
      · exact Or.inl ⟨flight, listed, kept, member, rfl⟩
      · exact Or.inr ⟨address, listed, rfl⟩
    · rintro (⟨flight, listed, kept, member, rfl⟩ | ⟨address, listed, rfl⟩)
      · exact ⟨kept, Or.inl ⟨flight, listed, member⟩, rfl⟩
      · exact ⟨_, Or.inr ⟨address, listed, rfl⟩, rfl⟩
  · rintro front ⟨back, whole⟩
    have holds := sound.holds
    rw [← whole] at holds
    obtain ⟨held, first, _⟩ := holds.split
    exact ⟨held, first, few_references held⟩

def reapedAndForgotten : List Round :=
  [{ ready := some (.asynchronous ⟨some 7, some 100, some 500, none, false⟩
        (.pipe ⟨pipeBulk, 129, [1, 2], true⟩))
     cancel := none
     reaped := none },
   { ready := some (.asynchronous { noBuffer with urb := some 200 } (.isochronous onePacket))
     cancel := some .pipe
     reaped := some (0, []) }]

theorem flights_hold_all_reaped : ∃ state,
    run step reapedAndForgotten State.initial = some state ∧
      ∃ held, Holds ∅ state.log held ∧
        ∀ resource, resource ∈ held ↔ resource = .kept (.urb 200) := by
  have ends : (run step reapedAndForgotten State.initial).map
      (fun state => (state.inFlight.length, state.forgotten)) = some (0, [200]) := rfl
  obtain ⟨state, ran, same⟩ := Option.map_eq_some_iff.mp ends
  obtain ⟨⟨held, holds, exactly⟩, _⟩ := flights_hold_all (reach_of_run _ ran)
  have landed : state.inFlight = [] := List.length_eq_zero_iff.mp (congrArg Prod.fst same)
  have forgotten : state.forgotten = [200] := congrArg Prod.snd same
  exact ⟨state, ran, held, holds, fun resource => by simp [exactly, landed, forgotten]⟩

end JavaxUsbLinux.ProxyResources
