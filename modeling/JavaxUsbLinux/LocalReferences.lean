import JavaxUsbLinux.BuildResources
import JavaxUsbLinux.ConfigResources

/-!
# The local references of a scan

A local reference that native code does not delete is kept until the native method
returns. `nativeTopologyUpdater` makes references to its own objects, `build_device` and
`build_config` to those of each device. The calls and what happens in them are those of
the module `BuildResources`.
-/

namespace JavaxUsbLinux.LocalReferences

open JavaxUsbLinux.BuildResources (Call World)
open JavaxUsbLinux.DescriptorBounds (usbClassHub)
open JavaxUsbLinux.Descriptors
open JavaxUsbLinux.HeldResources
open JavaxUsbLinux.NestedLogs

set_option autoImplicit false

/-- `updater` and `rootHub` belong to `nativeTopologyUpdater`, which has a reference to
the class `LinuxUsbServices` like `build_device`. `existing` is what `checkUsbDeviceImp`
returns. -/
inductive Reference where
  | updater
  | rootHub
  | linuxUsbServices
  | keyString
  | device
  | existing
  | speedString
  | config (resource : ConfigResources.Resource)
  deriving DecidableEq

def Reference.stays : Reference → Bool
  | .linuxUsbServices => true
  | .config resource => resource.isEndpoint
  | _ => false

/-- `build_device` before the loop over the ports: its events, and what `device` and
`keyString` hold at the end. -/
structure Setup where
  events : List (Event Reference)
  held : List Reference

def setup (world : World) : Setup :=
  let events := [.acquire .linuxUsbServices]
  if world.getcwd = false then ⟨events, []⟩
  else
    let events := events ++ [.acquire .keyString]
    if 0 ≥ world.opened then ⟨events, [.keyString]⟩
    else
      match getDescriptor world.node world.bytes with
      | none => ⟨events, [.keyString]⟩
      | some (desc, left) =>
          if desc.asDevice.bDeviceClass == usbClassHub && decide (0 ≥ world.portinfo) then
            ⟨events, [.keyString]⟩
          else
            let events := events ++ [.acquire .device]
            if world.connectinfo ≠ 0 then ⟨events, [.device, .keyString]⟩
            else
              let configs := ConfigResources.buildConfigs world.node
                desc.asDevice.bNumConfigurations.toNat left
              let events := events ++ ([.acquire .speedString, .release .speedString] ++
                configs.map (rename .config))
              if (Descriptors.buildDevice world.node world.bytes).isNone then
                ⟨events, [.device, .keyString]⟩
              else ⟨events ++ [.acquire .existing, .release .device], [.existing, .keyString]⟩

def buildDevice : Place → Call → List (Event (Place × Reference))
  | place, .mk world nports port child =>
      (setup world).events.map (rename (Prod.mk place)) ++
        (((List.finRange nports).flatMap fun index =>
          if world.reachesPorts && port index != 0 then
            buildDevice (place ++ [index.val]) (child index)
          else []) ++
          ((setup world).held.map (Prod.mk place)).map Event.release)

def updaterHeld (hasRoot : Bool) : List Reference :=
  if hasRoot then [.updater, .rootHub] else [.updater]

/-- The buses for which `build_device` is called are those with a host controller. If the
directory of the buses cannot be read nothing is deleted. -/
def nativeTopologyUpdater (accessed hasRoot : Bool) (busses : Nat)
    (build : Fin busses → Option Call) : List (Event (Place × Reference)) :=
  ((updaterHeld hasRoot).map Event.acquire).map (rename (Prod.mk [])) ++
    if accessed then
      ((List.finRange busses).flatMap fun port =>
        match build port with
        | none => []
        | some call => buildDevice [port.val] call) ++
        ((updaterHeld hasRoot).map (Prod.mk [])).map Event.release
    else []

/-! ### One call of `build_device` -/

def building : Finset Reference :=
  {.linuxUsbServices, .keyString, .device}

theorem building_holds : Holds ∅ ([.acquire .linuxUsbServices] ++ [.acquire .keyString] ++
    [.acquire .device]) building := by
  decide

theorem configs_hold (node : Node) (ncfg : Nat) (bytes : List UInt8) :
    ∃ endpoints : Finset Reference, (∀ reference ∈ endpoints, reference.stays = true) ∧
      (∀ reference ∈ endpoints, ∃ resource, reference = .config resource) ∧
      Holds building ([.acquire .speedString, .release .speedString] ++
        (ConfigResources.buildConfigs node ncfg bytes).map (rename .config))
        (building ∪ endpoints) := by
  have none : ∀ resource ∈ (∅ : Finset ConfigResources.Resource), resource.isEndpoint = true := by
    simp
  have fresh : ConfigResources.Fresh bytes.length ∅ := by simp [ConfigResources.Fresh]
  obtain ⟨after, holds, only⟩ := ConfigResources.build_configs_holds node ncfg none fresh
  have injective : Function.Injective Reference.config := fun _ _ => Reference.config.inj
  have apart : ∀ resource, Reference.config resource ∉ building := by simp [building]
  have configs := holds.rename injective apart
  rw [Finset.image_empty, Finset.union_empty] at configs
  have speed : Holds building [.acquire .speedString, .release .speedString] building := by decide
  refine ⟨after.image .config, ?_, ?_, speed.append configs⟩
  · intro reference member
    obtain ⟨resource, inside, rfl⟩ := Finset.mem_image.mp member
    exact only resource inside
  · intro reference member
    obtain ⟨resource, _, rfl⟩ := Finset.mem_image.mp member
    exact ⟨resource, rfl⟩

def configEvents (node : Node) (ncfg : Nat) (left : List UInt8) : List (Event Reference) :=
  [.acquire .linuxUsbServices] ++ [.acquire .keyString] ++ [.acquire .device] ++
    ([.acquire .speedString, .release .speedString] ++
      (ConfigResources.buildConfigs node ncfg left).map (rename .config))

/-- What holds of every way through this part of `build_device` holds of it. -/
theorem setup_cases (spec : Setup → Prop) (world : World)
    (nameless : spec ⟨[.acquire .linuxUsbServices], []⟩)
    (unread : spec ⟨[.acquire .linuxUsbServices] ++ [.acquire .keyString], [.keyString]⟩)
    (unconnected : spec ⟨[.acquire .linuxUsbServices] ++ [.acquire .keyString] ++
      [.acquire .device], [.device, .keyString]⟩)
    (failed : ∀ ncfg left, spec ⟨configEvents world.node ncfg left, [.device, .keyString]⟩)
    (built : ∀ ncfg left, spec ⟨configEvents world.node ncfg left ++
      [.acquire .existing, .release .device], [.existing, .keyString]⟩) : spec (setup world) := by
  unfold setup
  by_cases noPath : world.getcwd = false
  · rwa [if_pos noPath]
  rw [if_neg noPath]
  by_cases notOpened : 0 ≥ world.opened
  · rwa [if_pos notOpened]
  rw [if_neg notOpened]
  cases read : getDescriptor world.node world.bytes with
  | none => exact unread
  | some parts =>
      obtain ⟨desc, left⟩ := parts
      dsimp only
      split
      · exact unread
      split
      · exact unconnected
      split
      · exact failed desc.asDevice.bNumConfigurations.toNat left
      · exact built desc.asDevice.bNumConfigurations.toNat left

theorem own_setup (world : World) :
    Own Reference.stays (setup world).events (setup world).held := by
  have known : ∀ reference ∈ building, reference = .device ∨ reference = .keyString ∨
      reference.stays = true := by decide
  apply setup_cases fun setup => Own Reference.stays setup.events setup.held
  · exact ⟨⟨{.linuxUsbServices}, by decide, by decide, by decide⟩, by decide, by decide⟩
  · exact ⟨⟨{.linuxUsbServices, .keyString}, by decide, by decide, by decide⟩, by decide,
      by decide⟩
  · exact ⟨⟨building, building_holds, by decide, by decide⟩, by decide, by decide⟩
  · intro ncfg left
    obtain ⟨endpoints, stay, configs, holds⟩ := configs_hold world.node ncfg left
    refine ⟨⟨_, building_holds.append holds, ?_, ?_⟩, by simp, by simp [Reference.stays]⟩
    · simp [building]
    · intro reference member
      rcases Finset.mem_union.mp member with here | here
      · simpa [or_assoc] using known reference here
      · exact Or.inr (stay reference here)
  · intro ncfg left
    obtain ⟨endpoints, stay, configs, holds⟩ := configs_hold world.node ncfg left
    have fresh : .existing ∉ building ∪ endpoints := by
      intro member
      rcases Finset.mem_union.mp member with here | here
      · exact absurd here (by decide)
      · obtain ⟨resource, same⟩ := configs _ here
        cases same
    have device : .device ∈ insert .existing (building ∪ endpoints) := by simp [building]
    have replaced := (holds_acquire fresh).append (holds_release device)
    refine ⟨⟨_, (building_holds.append holds).append replaced, ?_, ?_⟩, by simp,
      by simp [Reference.stays]⟩
    · simp [building]
    · intro reference member
      rw [Finset.mem_erase, Finset.mem_insert, Finset.mem_union] at member
      obtain ⟨other, rfl | here | here⟩ := member
      · exact Or.inl List.mem_cons_self
      · rcases known reference here with same | same | stays
        · exact absurd same other
        · exact Or.inl (by simp [same])
        · exact Or.inr stays
      · exact Or.inr (stay reference here)

theorem build_device_nested (call : Call) :
    ∀ place, Nested Reference.stays place (buildDevice place call) := by
  induction call with
  | mk world nports port child ih =>
      intro place
      refine nested_call (own_setup world) fun index => ?_
      split_ifs
      · exact ih index _
      · exact fun before _ => ⟨before, holds_nil, subset_rfl, fun name member => Or.inl member⟩

theorem spares_setup (world : World) : Spares Reference.stays (setup world).events := by
  have named : Spares Reference.stays ([.acquire .linuxUsbServices] ++ [.acquire .keyString]) :=
    (spares_acquire _).append (spares_acquire _)
  have configs (ncfg : Nat) (left : List UInt8) :
      Spares Reference.stays (configEvents world.node ncfg left) := by
    have speed : Spares Reference.stays [.acquire .speedString, .release .speedString] :=
      (spares_acquire _).append (spares_release rfl)
    exact (named.append (spares_acquire _)).append
      (speed.append (Spares.rename (ConfigResources.spares_configs _ _ _)))
  apply setup_cases fun setup => Spares Reference.stays setup.events
  · exact spares_acquire _
  · exact named
  · exact named.append (spares_acquire _)
  · exact configs
  · exact fun ncfg left => (configs ncfg left).append
      ((spares_acquire _).append (spares_release rfl))

theorem spares_build_device (call : Call) :
    ∀ place, Spares (fun name => name.2.stays) (buildDevice place call) := by
  induction call with
  | mk world nports port child ih =>
      intro place
      have own : Spares (fun name : Place × Reference => name.2.stays)
          ((setup world).events.map (rename (Prod.mk place))) := Spares.rename (spares_setup world)
      refine own.append (Spares.append ?_ ?_)
      · refine spares_flat_map fun index _ => ?_
        split_ifs
        · exact ih index _
        · exact spares_nil
      · refine spares_releases fun name member => ?_
        obtain ⟨reference, held, rfl⟩ := List.mem_map.mp member
        exact (own_setup world).released reference held

/-! ### The scan -/

theorem own_updater (hasRoot : Bool) :
    Own Reference.stays ((updaterHeld hasRoot).map Event.acquire) (updaterHeld hasRoot) := by
  cases hasRoot
  · exact ⟨⟨{.updater}, by decide, by decide, by decide⟩, by decide, by decide⟩
  · exact ⟨⟨{.updater, .rootHub}, by decide, by decide, by decide⟩, by decide, by decide⟩

theorem spares_scan (accessed hasRoot : Bool) (busses : Nat) (build : Fin busses → Option Call) :
    Spares (fun name => name.2.stays) (nativeTopologyUpdater accessed hasRoot busses build) := by
  have acquires : Spares Reference.stays ((updaterHeld hasRoot).map Event.acquire) := by
    intro reference _ member
    obtain ⟨_, _, same⟩ := List.mem_map.mp member
    cases same
  have own : Spares (fun name : Place × Reference => name.2.stays)
      (((updaterHeld hasRoot).map Event.acquire).map (rename (Prod.mk []))) :=
    Spares.rename acquires
  refine own.append ?_
  split_ifs
  · refine (spares_flat_map fun port _ => ?_).append (spares_releases fun name member => ?_)
    · cases build port with
      | none => exact spares_nil
      | some call => exact spares_build_device call _
    · obtain ⟨reference, held, rfl⟩ := List.mem_map.mp member
      exact (own_updater hasRoot).released reference held
  · exact spares_nil

theorem scan_holds (accessed hasRoot : Bool) (busses : Nat) (build : Fin busses → Option Call) :
    ∃ after, Holds ∅ (nativeTopologyUpdater accessed hasRoot busses build) after ∧
      ∀ name ∈ after, accessed = false ∨ name.2.stays = true := by
  cases accessed with
  | false =>
      obtain ⟨middle, runs, _⟩ := (own_updater hasRoot).runs
      have apart : ∀ reference, ([], reference) ∉ (∅ : Finset (Place × Reference)) := by simp
      have front := runs.rename (Prod.mk_right_injective []) apart
      exact ⟨_, front.append holds_nil, fun _ _ => Or.inl rfl⟩
  | true =>
      have each : ∀ port, Nested Reference.stays ([] ++ [port.val]) (match build port with
          | none => []
          | some call => buildDevice [port.val] call) := by
        intro port
        cases build port with
        | none => exact fun before _ => ⟨before, holds_nil, subset_rfl, fun name => Or.inl⟩
        | some call => exact build_device_nested call _
      obtain ⟨after, holds, leaves⟩ := nested_call (own_updater hasRoot) each ∅ (by simp)
      refine ⟨after, holds, fun name member => Or.inr ?_⟩
      rcases leaves.only name member with none | ⟨_, stays⟩
      · exact absurd none (Finset.notMem_empty name)
      · exact stays

/-- No local reference is deleted twice in a scan. What it leaves behind are the
references to the endpoints that were created and one to the class `LinuxUsbServices` for
each call of `build_device`; a scan that cannot read the directory of the buses leaves
all of its own. -/
theorem references_left_iff (accessed hasRoot : Bool) (busses : Nat)
    (build : Fin busses → Option Call) :
    ∃ after, Holds ∅ (nativeTopologyUpdater accessed hasRoot busses build) after ∧
      ∀ name, name ∈ after ↔
        .acquire name ∈ nativeTopologyUpdater accessed hasRoot busses build ∧
          (accessed = false ∨ name.2.stays = true) := by
  obtain ⟨after, holds, only⟩ := scan_holds accessed hasRoot busses build
  refine ⟨after, holds, fun name => ⟨fun member => ⟨?_, only name member⟩, ?_⟩⟩
  · exact (holds.acquired name member).resolve_left (Finset.notMem_empty name)
  · rintro ⟨acquired, failed | stays⟩
    · have none : Spares (fun _ => true) (nativeTopologyUpdater accessed hasRoot busses build) := by
        rw [nativeTopologyUpdater, failed]
        intro other _ member
        simp [rename] at member
      exact holds.stays none rfl (Or.inr acquired)
    · exact holds.stays (spares_scan accessed hasRoot busses build) stays (Or.inr acquired)

end JavaxUsbLinux.LocalReferences
