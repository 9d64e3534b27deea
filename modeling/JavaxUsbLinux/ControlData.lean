import JavaxUsbLinux.LinuxRequests

/-!
# The data of a control request

The buffer of a `LinuxDcpRequest` is a setup packet of 8 bytes with the data
behind it, but the length that the user sees is that of the data alone. The
completion adds 8 to the length of the transfer, `setDataLength` takes 8 off it,
and `setCompleted` copies the data back from offset 8.
-/

namespace JavaxUsbLinux.ControlData

open JavaxUsbLinux.LinuxRequests

set_option autoImplicit false

/-- A `RequestImp` that is well formed as that class keeps it. -/
structure ControlRequest extends RequestImp where
  setup : List UInt8
  setup_length : setup.length = 8
  bytes : toBytes = setup ++ data
  length_nonneg : 0 ≤ dataLength
  length_le : dataLength ≤ data.length

/-- What the kernel may leave in an accepted URB: all of its buffer, and the
length of the data stage. -/
def Transferred (request : ControlRequest) (urb : ReapedUrb) : Prop :=
  urb.buffer.length = 8 + request.data.length ∧ 0 ≤ urb.actualLength ∧
    urb.actualLength ≤ request.data.length

def Untouched : Fate → Prop
  | .cancelled => True
  | .handedOver err _ _ => err ≠ 0

theorem arraycopy_inside {source target : List UInt8} {start count : Nat}
    (read : start + count ≤ source.length) (write : count ≤ target.length) :
    arraycopy source start target count =
      some ((source.drop start).take count ++ target.drop count) := by
  unfold arraycopy
  rw [if_pos (by omega)]
  simp

theorem arraycopy_same {setup data : List UInt8} {count : Nat} (fits : count ≤ data.length) :
    arraycopy (setup ++ data) setup.length data count = some data := by
  rw [arraycopy_inside (by simpa using fits) fits, List.drop_left, List.take_append_drop]

section Completion

variable {request : LinuxDcpRequest}

/-- The copy of `setCompleted` decides about the data. -/
theorem set_completed_data {data : List UInt8}
    (copied : arraycopy request.dataBuffer 8 request.requestImp.data
      request.requestImp.dataLength = some data) :
    ∃ done, request.setCompleted = some done ∧ done.requestImp.data = data ∧
      done.requestImp.dataLength = request.requestImp.dataLength := by
  unfold LinuxDcpRequest.setCompleted
  rw [copied]
  exact ⟨_, rfl, rfl, rfl⟩

/-- `setError` keeps the buffer, the data and the length. -/
theorem tell_data (request : LinuxDcpRequest) (err : Int) :
    ∃ told : LinuxDcpRequest, LinuxRequests.tell (.dcp request) err = .dcp told ∧
    told.dataBuffer = request.dataBuffer ∧ told.requestImp.data = request.requestImp.data ∧
      told.requestImp.dataLength = request.requestImp.dataLength := by
  unfold LinuxRequests.tell
  split_ifs
  · exact ⟨request, rfl, rfl, rfl, rfl⟩
  · exact ⟨request.setError err, rfl, rfl, rfl, rfl⟩

theorem told_completed_data (request : LinuxDcpRequest) (err : Int) {data : List UInt8}
    (copied : arraycopy request.dataBuffer 8 request.requestImp.data
      request.requestImp.dataLength = some data) :
    ∃ done, (LinuxRequests.tell (.dcp request) err).setCompleted = some (.dcp done) ∧
      done.requestImp.data = data ∧
      done.requestImp.dataLength = request.requestImp.dataLength := by
  obtain ⟨told, is, buffer, old, length⟩ := tell_data request err
  rw [← buffer, ← old, ← length] at copied
  obtain ⟨done, completed, new, same⟩ := set_completed_data copied
  refine ⟨done, ?_, new, same.trans length⟩
  rw [is]
  change (told.setCompleted).map LinuxRequest.dcp = _
  rw [completed]
  rfl

end Completion

namespace ControlRequest

def linuxRequest (request : ControlRequest) : LinuxDcpRequest :=
  requestImpToLinuxDcpRequest request.toRequestImp

theorem copies_itself (request : ControlRequest) :
    arraycopy request.linuxRequest.dataBuffer 8 request.linuxRequest.requestImp.data
      request.linuxRequest.requestImp.dataLength = some request.data := by
  have fits : request.dataLength.toNat ≤ request.data.length := by
    have upper := request.length_le
    omega
  change arraycopy request.toBytes 8 request.data request.dataLength = _
  rw [request.bytes, ← request.setup_length, ← Int.toNat_of_nonneg request.length_nonneg]
  exact arraycopy_same fits

/-- After a transfer the data is copied out of the buffer that the kernel left. -/
theorem copies_transfer (request : ControlRequest) {urb : ReapedUrb}
    (transferred : Transferred request urb) :
    arraycopy urb.buffer 8 request.data (urb.actualLength + 8 - 8) =
      some ((urb.buffer.drop 8).take urb.actualLength.toNat ++
        request.data.drop urb.actualLength.toNat) := by
  obtain ⟨whole, nonneg, fits⟩ := transferred
  have count : urb.actualLength + 8 - 8 = (urb.actualLength.toNat : Int) := by omega
  rw [count]
  apply arraycopy_inside
  · omega
  · omega

end ControlRequest

theorem untouched_finish (request : ControlRequest) {fate : Fate} (untouched : Untouched fate) :
    ∃ done, finish (.dcp request.linuxRequest) fate = some (.dcp done) ∧
      done.requestImp.data = request.data := by
  have copied := request.copies_itself
  cases fate with
  | cancelled =>
      obtain ⟨done, completed, data, _⟩ := told_completed_data _ (-1) copied
      exact ⟨done, completed, data⟩
  | handedOver err pipeType urb =>
      obtain ⟨done, completed, data, _⟩ := told_completed_data _ err copied
      refine ⟨done, ?_, data⟩
      have failed : err ≠ 0 := untouched
      simp only [finish, submitRequest, failed, ne_eq, not_false_eq_true, or_true, if_true]
      exact completed

theorem transferred_finish (request : ControlRequest) (pipeType : PipeType) {urb : ReapedUrb}
    (transferred : Transferred request urb) :
    ∃ done, finish (.dcp request.linuxRequest) (.handedOver 0 pipeType urb) = some (.dcp done) ∧
      done.requestImp.dataLength = urb.actualLength ∧
      done.requestImp.data = (urb.buffer.drop 8).take urb.actualLength.toNat ++
        request.data.drop urb.actualLength.toNat := by
  have copied := request.copies_transfer transferred
  obtain ⟨done, completed, data, length⟩ :=
    told_completed_data (completeDcpRequest urb request.linuxRequest).2 urb.status
      copied
  refine ⟨done, ?_, ?_, data⟩
  · simp only [finish, submitRequest, LinuxRequest.getType, NativeUrb.Kind.asynchronous,
      Bool.true_eq_false, ne_eq, not_true, or_self, if_false]
    exact completed
  · rw [length]
    change urb.actualLength + 8 - 8 = _
    omega

/-- Every completion of a control request copies inside its arrays. After a
transfer the user has the length and the bytes of the data stage and the old
bytes behind them, without one the data is as it was. -/
theorem control_data_exact (request : ControlRequest) (fate : Fate)
    (possible : ∀ pipeType urb, fate = .handedOver 0 pipeType urb → Transferred request urb) :
    ∃ done, finish (.dcp request.linuxRequest) fate = some (.dcp done) ∧
      (∀ pipeType urb, fate = .handedOver 0 pipeType urb →
        done.requestImp.dataLength = urb.actualLength ∧
          done.requestImp.data = (urb.buffer.drop 8).take urb.actualLength.toNat ++
            request.data.drop urb.actualLength.toNat) ∧
      (Untouched fate → done.requestImp.data = request.data) := by
  by_cases untouched : Untouched fate
  · obtain ⟨done, completed, data⟩ := untouched_finish request untouched
    refine ⟨done, completed, ?_, fun _ => data⟩
    rintro pipeType urb rfl
    exact absurd rfl untouched
  · cases fate with
    | cancelled => exact absurd trivial untouched
    | handedOver err pipeType urb =>
        obtain rfl : err = 0 := Decidable.of_not_not untouched
        obtain ⟨done, completed, length, data⟩ :=
          transferred_finish request pipeType (possible pipeType urb rfl)
        refine ⟨done, completed, ?_, fun touched => absurd touched untouched⟩
        intro _ _ same
        cases same
        exact ⟨length, data⟩

def getStatus : ControlRequest where
  data := [0, 0]
  dataLength := 2
  isSetConfigurationRequest := false
  isSetInterfaceRequest := false
  value := 0
  index := 0
  toBytes := [128, 0, 0, 0, 0, 0, 2, 0, 0, 0]
  setup := [128, 0, 0, 0, 0, 0, 2, 0]
  setup_length := rfl
  bytes := rfl
  length_nonneg := by decide
  length_le := by decide

def oneByte : ReapedUrb := ⟨[128, 0, 0, 0, 0, 0, 2, 0, 1, 7], 0, 1, 0, 0⟩

theorem control_data_exact_short :
    ∃ done, finish (.dcp getStatus.linuxRequest) (.handedOver 0 .control oneByte) =
      some (.dcp done) ∧ done.requestImp.dataLength = 1 ∧ done.requestImp.data = [1, 0] := by
  obtain ⟨done, completed, transfer, _⟩ :=
    control_data_exact getStatus (.handedOver 0 .control oneByte) (by
      intro _ _ same
      cases same
      exact ⟨rfl, by decide, by decide⟩)
  obtain ⟨length, data⟩ := transfer _ _ rfl
  exact ⟨done, completed, length, data⟩

end JavaxUsbLinux.ControlData
