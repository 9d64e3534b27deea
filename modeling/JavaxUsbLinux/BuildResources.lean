import JavaxUsbLinux.DescriptorBounds
import JavaxUsbLinux.NestedLogs

/-!
# The resources of `build_device`

`build_device` has one block of code that releases what its variables hold, and
jumps to it wherever something fails. The module follows the variables through
the function and through its calls for the ports of a hub.
-/

namespace JavaxUsbLinux.BuildResources

open JavaxUsbLinux.DescriptorBounds (usbClassHub)
open JavaxUsbLinux.DescriptorFraming (silentNode)
open JavaxUsbLinux.Descriptors
open JavaxUsbLinux.NestedLogs

set_option autoImplicit false

/-- The descriptor and the blocks of one call. `len` is the block of `get_descriptor`. -/
inductive Resource where
  | fd
  | path
  | key
  | len
  | devDesc
  | usbioctl
  | portinfo
  | connectinfo
  deriving DecidableEq

/-- What a pointer holds; one that was never assigned holds whatever was there. -/
inductive Pointer where
  | unassigned (value : Nat)
  | null
  | block

structure Locals where
  fd : Int
  path : Pointer
  key : Pointer
  devDesc : Pointer
  usbioctl : Pointer
  portinfo : Pointer
  connectinfo : Pointer

/-- What happens in a call apart from its calls for ports: whether `getcwd` gives
a path, what stands where `dev_desc` is, the result of `open`, the bytes of the
node, and the results of both `ioctl`. -/
structure World where
  getcwd : Bool
  leftover : Nat
  opened : Int
  node : Node
  bytes : List UInt8
  portinfo : Int
  connectinfo : Int

/-- `if (fd) close(fd)` -/
def closeFd (fd : Int) : List (Event Resource) :=
  if fd = 0 then [] else if fd < 0 then [.wild] else [.release .fd]

/-- `if (pointer) free(pointer)` -/
def freePointer (resource : Resource) : Pointer → List (Event Resource)
  | .unassigned value => if value = 0 then [] else [.wild]
  | .null => []
  | .block => [.release resource]

def buildDeviceExit (locals : Locals) : List (Event Resource) :=
  closeFd locals.fd ++ freePointer .connectinfo locals.connectinfo ++
    freePointer .devDesc locals.devDesc ++ freePointer .usbioctl locals.usbioctl ++
    freePointer .portinfo locals.portinfo ++ freePointer .path locals.path ++
    freePointer .key locals.key

/-- The blocks of `get_descriptor`; its buffer is the one that is returned. -/
def getDescriptorEvents : List UInt8 → List (Event Resource)
  | [] => [.acquire .len, .release .len]
  | len :: left =>
      if len = 0 then [.acquire .len, .release .len]
      else if left.length < len.toNat - 1 then
        [.acquire .len, .acquire .devDesc, .release .len, .release .devDesc]
      else [.acquire .len, .acquire .devDesc, .release .len]

/-- The part of `build_device` before the loop over the ports: its events, the
variables after it, and whether the loop is run. -/
structure Setup where
  events : List (Event Resource)
  locals : Locals
  loops : Bool

def entryLocals (world : World) : Locals where
  fd := 0
  path := .null
  key := .null
  devDesc := .unassigned world.leftover
  usbioctl := .null
  portinfo := .null
  connectinfo := .null

def setup (world : World) : Setup :=
  let locals := entryLocals world
  if world.getcwd = false then ⟨[], locals, false⟩
  else
    let locals := { locals with path := .block, key := .block, fd := world.opened }
    let events := [.acquire .path, .acquire .key] ++
      if world.opened < 0 then [] else [.acquire .fd]
    if 0 ≥ world.opened then ⟨events, locals, false⟩
    else
      let events := events ++ getDescriptorEvents world.bytes
      match getDescriptor world.node world.bytes with
      | none => ⟨events, { locals with devDesc := .null }, false⟩
      | some (desc, _) =>
          let locals := { locals with devDesc := .block }
          let hub := desc.asDevice.bDeviceClass == usbClassHub
          if hub && decide (0 ≥ world.portinfo) then
            ⟨events ++ [.acquire .usbioctl, .acquire .portinfo],
              { locals with usbioctl := .block, portinfo := .block }, false⟩
          else
            let locals := { locals with portinfo := if hub then .block else .null }
            let events := events ++
              if hub then [.acquire .usbioctl, .acquire .portinfo, .release .usbioctl] else []
            if world.connectinfo ≠ 0 then
              ⟨events ++ [.acquire .connectinfo], { locals with connectinfo := .block }, false⟩
            else
              let events := events ++ [.acquire .connectinfo, .release .connectinfo]
              if (Descriptors.buildDevice world.node world.bytes).isNone then
                ⟨events, locals, false⟩
              else ⟨events ++ closeFd world.opened, { locals with fd := 0 }, hub⟩

/-- A call of `build_device`: what happens in it, the ports of the hub, 0 for
those without a device, and the calls for the others. -/
inductive Call where
  | mk (world : World) (nports : Nat) (port : Fin nports → UInt8) (child : Fin nports → Call)

def buildDevice : Place → Call → Log Resource
  | place, .mk world nports port child =>
      tagged place (setup world).events ++
        ((List.finRange nports).flatMap fun index =>
          if (setup world).loops && port index != 0 then
            buildDevice (place ++ [index.val]) (child index)
          else []) ++
        tagged place (buildDeviceExit (setup world).locals)

/-! ### The events of one call -/

/-- `getcwd` fails where `dev_desc` is `NULL` by chance, or `open` returns more than 0. -/
def World.Careful (world : World) : Prop :=
  if world.getcwd then 0 < world.opened else world.leftover = 0

def ownEvents (world : World) : List (Event Resource) :=
  (setup world).events ++ buildDeviceExit (setup world).locals

theorem descriptor_events_missing {node : Node} {bytes : List UInt8}
    (missing : getDescriptor node bytes = none) :
    getDescriptorEvents bytes = [.acquire .len, .release .len] ∨
      getDescriptorEvents bytes =
        [.acquire .len, .acquire .devDesc, .release .len, .release .devDesc] := by
  cases bytes with
  | nil => exact Or.inl rfl
  | cons len left =>
      simp only [getDescriptor] at missing
      simp only [getDescriptorEvents]
      split_ifs at missing ⊢
      · exact Or.inl rfl
      · exact Or.inr rfl

theorem descriptor_events_found {node : Node} {bytes left : List UInt8} {desc : Buffer}
    (found : getDescriptor node bytes = some (desc, left)) :
    getDescriptorEvents bytes = [.acquire .len, .acquire .devDesc, .release .len] := by
  cases bytes with
  | nil => cases found
  | cons len rest =>
      simp only [getDescriptor] at found
      simp only [getDescriptorEvents]
      split_ifs at found ⊢
      rfl

theorem no_path_once_iff {world : World} (noPath : world.getcwd = false) :
    Once (ownEvents world) ↔ world.leftover = 0 := by
  have events : ownEvents world = if world.leftover = 0 then [] else [.wild] := by
    unfold ownEvents setup
    rw [if_pos noPath]
    simp [buildDeviceExit, entryLocals, closeFd, freePointer]
  rw [events]
  split_ifs with clear
  · exact iff_of_true once_nil clear
  · exact iff_of_false (fun once => once.tame List.mem_cons_self) clear

theorem not_opened_not_once {world : World} (path : world.getcwd = true)
    (failed : ¬ 0 < world.opened) : ¬ Once (ownEvents world) := by
  have stops : 0 ≥ world.opened := Int.not_lt.mp failed
  intro once
  unfold ownEvents setup at once
  rw [if_neg (by simp [path]), if_pos stops] at once
  by_cases error : world.opened < 0
  · have closed : closeFd world.opened = [.wild] := by
      rw [closeFd, if_neg (by omega), if_pos error]
    have wild := once.tame
    simp [buildDeviceExit, closed] at wild
  · have zero : world.opened = 0 := by omega
    have paired := once.paired .fd
    have stray :
        (freePointer .devDesc (.unassigned world.leftover)).filter (Event.about .fd) = [] := by
      rw [freePointer]
      split_ifs <;> rfl
    simp only [buildDeviceExit, entryLocals, zero, List.filter_append, stray] at paired
    exact absurd paired (by decide)

theorem opened_once {world : World} (path : world.getcwd = true) (opened : 0 < world.opened) :
    Once (ownEvents world) := by
  have closed : closeFd world.opened = [.release .fd] := by
    rw [closeFd, if_neg (by omega), if_neg (by omega)]
  have notNegative : ¬ world.opened < 0 := by omega
  unfold ownEvents setup
  rw [if_neg (by simp [path]), if_neg (by omega)]
  cases read : getDescriptor world.node world.bytes with
  | none =>
      rcases descriptor_events_missing read with events | events
      all_goals
        simp only [events, buildDeviceExit, entryLocals, closed, freePointer,
          if_neg notNegative]
        exact ⟨by decide, fun resource => by cases resource <;> decide⟩
  | some parts =>
      obtain ⟨desc, left⟩ := parts
      simp only [descriptor_events_found read, buildDeviceExit, entryLocals, if_neg notNegative]
      cases desc.asDevice.bDeviceClass == usbClassHub
      all_goals
        split_ifs
        all_goals
          simp only [closed, freePointer]
          exact ⟨by decide, fun resource => by cases resource <;> decide⟩

theorem own_once_iff (world : World) : Once (ownEvents world) ↔ world.Careful := by
  unfold World.Careful
  cases path : world.getcwd with
  | false => simpa using no_path_once_iff path
  | true =>
      rw [if_pos rfl]
      constructor
      · intro once
        by_contra failed
        exact not_opened_not_once path failed once
      · exact opened_once path

/-! ### All calls -/

/-- The device is a hub whose ports are known, and all of its descriptors are read. -/
def World.reachesPorts (world : World) : Bool :=
  world.getcwd && decide (0 < world.opened) &&
    (match getDescriptor world.node world.bytes with
    | none => false
    | some (desc, _) => desc.asDevice.bDeviceClass == usbClassHub) &&
    decide (0 < world.portinfo) && world.connectinfo == 0 &&
    (Descriptors.buildDevice world.node world.bytes).isSome

theorem loops_eq (world : World) : (setup world).loops = world.reachesPorts := by
  unfold setup World.reachesPorts
  by_cases noPath : world.getcwd = false
  · rw [if_pos noPath, noPath]
    rfl
  · rw [if_neg noPath]
    by_cases failed : 0 ≥ world.opened
    · have notOpened : ¬ 0 < world.opened := by omega
      rw [if_pos failed, decide_eq_false notOpened, Bool.and_false]
      rfl
    · have opened : 0 < world.opened := by omega
      rw [if_neg failed, decide_eq_true opened]
      cases read : getDescriptor world.node world.bytes with
      | none => simp
      | some parts =>
          obtain ⟨desc, left⟩ := parts
          simp only [apply_ite Setup.loops]
          cases hub : desc.asDevice.bDeviceClass == usbClassHub
          · simp
          · split_ifs with noPorts noSpeed noConfigs
            · have ports : ¬ 0 < world.portinfo := by simpa using noPorts
              simp [ports]
            · simp [noSpeed]
            · simp [Option.isNone_iff_eq_none.mp noConfigs]
            · have ports : 0 < world.portinfo := by simpa using noPorts
              have speed : world.connectinfo = 0 := by simpa using noSpeed
              have configs : (Descriptors.buildDevice world.node world.bytes).isSome = true := by
                simpa [Option.isSome_iff_ne_none] using noConfigs
              simp [ports, speed, configs, noPath]

def Call.Careful : Call → Prop
  | .mk world _ port child => world.Careful ∧
      (world.reachesPorts = true → ∀ index, port index ≠ 0 → (child index).Careful)

theorem build_device_below (call : Call) : ∀ place, Below place (buildDevice place call) := by
  induction call with
  | mk world nports port child ih =>
      intro place event member
      rw [buildDevice, List.mem_append, List.mem_append] at member
      rcases member with (own | inner) | own
      · exact below_tagged place _ event own
      · obtain ⟨index, _, member⟩ := List.mem_flatMap.mp inner
        split_ifs at member
        · exact (ih index (place ++ [index.val])).up event member
        · cases member
      · exact below_tagged place _ event own

/-- `build_device` releases once all that it acquires, and nothing else, exactly if
every call that is made is careful. -/
theorem build_device_released_iff (call : Call) :
    ∀ place, Released (buildDevice place call) ↔ call.Careful := by
  induction call with
  | mk world nports port child ih =>
      intro place
      have below : ∀ index : Fin nports, Below (place ++ [index.val])
          (if (setup world).loops && port index != 0 then
            buildDevice (place ++ [index.val]) (child index) else []) := by
        intro index
        split_ifs
        · exact build_device_below (child index) _
        · intro event member
          cases member
      rw [buildDevice, released_nested below, Call.Careful, loops_eq]
      refine and_congr (own_once_iff world) ?_
      constructor
      · intro released reaches index device
        have log := released index
        rw [if_pos (by simp [reaches, device])] at log
        exact (ih index _).mp log
      · intro careful index
        split_ifs with made
        · rw [Bool.and_eq_true, bne_iff_ne] at made
          exact (ih index _).mpr (careful made.1 index made.2)
        · exact released_nil

def unopenable : Call :=
  .mk ⟨true, 0, -1, silentNode, [], 0, 0⟩ 0 (fun index => index.elim0) fun index => index.elim0

theorem failed_open_closed : ¬ Released (buildDevice [] unopenable) := by
  intro released
  have events := (released []).tame
  exact events (by decide)

end JavaxUsbLinux.BuildResources
