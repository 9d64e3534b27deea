import JavaxUsbLinux.DescriptorFraming
import JavaxUsbLinux.HeldResources

/-!
# The resources of `build_config`

The blocks of the descriptors that `build_config` reads, and the local references to the
Java objects that it creates. A resource is named by the number of bytes that were left to
read when the code began to read its descriptor.
-/

namespace JavaxUsbLinux.ConfigResources

open JavaxUsbLinux.Descriptors
open JavaxUsbLinux.DescriptorStream
open JavaxUsbLinux.HeldResources
open JavaxUsbLinux.NestedLogs

set_option autoImplicit false

/-- `len` and `desc` are the blocks of `get_descriptor`, the others are references. -/
inductive Resource where
  | len (left : Nat)
  | desc (left : Nat)
  | config (left : Nat)
  | interface (left : Nat)
  | endpoint (left : Nat)
  deriving DecidableEq

def Resource.left : Resource → Nat
  | .len left | .desc left | .config left | .interface left | .endpoint left => left

def Resource.isEndpoint : Resource → Bool
  | .endpoint _ => true
  | _ => false

/-! ### The events -/

def getDescriptor (bytes : List UInt8) : List (Event Resource) :=
  let left := bytes.length
  match bytes with
  | [] => [.acquire (.len left), .release (.len left)]
  | len :: rest =>
      if len = 0 then [.acquire (.len left), .release (.len left)]
      else if rest.length < len.toNat - 1 then
        [.acquire (.len left), .acquire (.desc left), .release (.len left), .release (.desc left)]
      else [.acquire (.len left), .acquire (.desc left), .release (.len left)]

def delete (resource : Nat → Resource) (reference : Option Nat) : List (Event Resource) :=
  (reference.map fun left => Event.release (resource left)).toList

/-- The switch on the type of a descriptor: its events and `interface` after it. The
object that `build_endpoint` creates is not kept in a variable. -/
def buildByType (interface : Option Nat) (left : Nat) (type : UInt8) :
    List (Event Resource) × Option Nat :=
  if type = usbDtInterface then
    (delete .interface interface ++ [.acquire (.interface left)], some left)
  else if type = usbDtEndpoint then
    (if interface.isSome then [.acquire (.endpoint left)] else [], interface)
  else ([], interface)

/-- The loop of `build_config`: its events, `interface` and `desc` after it, and the
bytes that are left if it comes to the end. -/
structure Loop where
  events : List (Event Resource)
  interface : Option Nat
  desc : Option Nat
  left : Option (List UInt8)

def buildDescriptors (wTotalLength pos : Nat) (interface : Option Nat) (bytes : List UInt8) :
    Loop :=
  if pos < wTotalLength then
    match _found : cut bytes with
    | none => ⟨getDescriptor bytes, interface, none, none⟩
    | some (desc, left) =>
        if ordinary desc then
          let built := buildByType interface bytes.length (desc.getD 1 0)
          let later := buildDescriptors wTotalLength (pos + desc.length) built.2 left
          { later with events := getDescriptor bytes ++ (built.1 ++
              (.release (.desc bytes.length) :: later.events)) }
        else ⟨getDescriptor bytes, interface, some bytes.length, none⟩
  else ⟨[], interface, none, some bytes⟩
termination_by bytes.length
decreasing_by exact cut_shorter _found

def buildConfigExit (config : Nat) (loop : Loop) : List (Event Resource) :=
  [.release (.config config)] ++ (delete .interface loop.interface ++
    ([.release (.desc config)] ++ delete .desc loop.desc))

def configLoop (node : Node) (desc left : List UInt8) : Loop :=
  let cfgDesc := Buffer.asConfig ⟨desc, node.stray left⟩
  buildDescriptors cfgDesc.wTotalLength.toNat cfgDesc.bLength.toNat none left

def buildConfig (node : Node) (bytes : List UInt8) :
    List (Event Resource) × Option (List UInt8) :=
  match cut bytes with
  | none => (getDescriptor bytes, none)
  | some (desc, left) =>
      let loop := configLoop node desc left
      (getDescriptor bytes ++ ([.acquire (.config bytes.length)] ++
        (loop.events ++ buildConfigExit bytes.length loop)), loop.left)

def buildConfigs (node : Node) : Nat → List UInt8 → List (Event Resource)
  | 0, _ => []
  | ncfg + 1, bytes =>
      match buildConfig node bytes with
      | (events, none) => events
      | (events, some left) => events ++ buildConfigs node ncfg left

/-! ### The loop along the stream -/

section

variable {total pos : Nat} {bytes desc left : List UInt8} {interface : Option Nat}

theorem build_descriptors_done (done : ¬ pos < total) :
    buildDescriptors total pos interface bytes = ⟨[], interface, none, some bytes⟩ := by
  rw [buildDescriptors, if_neg done]

theorem build_descriptors_missing (more : pos < total) (missing : cut bytes = none) :
    buildDescriptors total pos interface bytes =
      ⟨getDescriptor bytes, interface, none, none⟩ := by
  rw [buildDescriptors, if_pos more]
  split
  case h_1 => rfl
  case h_2 here =>
    rw [missing] at here
    contradiction

theorem build_descriptors_stop (more : pos < total) (found : cut bytes = some (desc, left))
    (stops : ordinary desc = false) :
    buildDescriptors total pos interface bytes =
      ⟨getDescriptor bytes, interface, some bytes.length, none⟩ := by
  rw [buildDescriptors, if_pos more]
  split
  case h_1 here =>
    rw [found] at here
    contradiction
  case h_2 here =>
    rw [found] at here
    cases here
    simp [stops]

theorem build_descriptors_next (more : pos < total) (found : cut bytes = some (desc, left))
    (passes : ordinary desc = true) :
    buildDescriptors total pos interface bytes =
      let built := buildByType interface bytes.length (desc.getD 1 0)
      let later := buildDescriptors total (pos + desc.length) built.2 left
      { later with events := getDescriptor bytes ++ (built.1 ++
          (.release (.desc bytes.length) :: later.events)) } := by
  rw [buildDescriptors, if_pos more]
  split
  case h_1 here =>
    rw [found] at here
    contradiction
  case h_2 here =>
    rw [found] at here
    cases here
    rw [if_pos passes]

end

/-! ### What is held inside a configuration -/

def locals (config : Nat) (interface desc : Option Nat) : List Resource :=
  .config config :: .desc config ::
    ((interface.map Resource.interface).toList ++ (desc.map Resource.desc).toList)

/-- Endpoints apart, these are held. -/
def Inside (config : Nat) (interface desc : Option Nat) (held : Finset Resource) : Prop :=
  ∀ resource, resource.isEndpoint = false →
    (resource ∈ held ↔ resource ∈ locals config interface desc)

namespace Inside

variable {config left : Nat} {interface desc : Option Nat} {held : Finset Resource}

theorem read (inside : Inside config interface none held) :
    Inside config interface (some left) (insert (.desc left) held) := by
  intro resource other
  rw [Finset.mem_insert, inside resource other]
  simp only [locals, Option.map, Option.toList, List.mem_cons, List.mem_append,
    List.not_mem_nil]
  tauto

theorem freed (inside : Inside config interface (some left) held) (apart : left ≠ config) :
    Inside config interface none (held.erase (.desc left)) := by
  intro resource other
  rw [Finset.mem_erase, inside resource other]
  cases interface <;> cases resource <;>
    simp [locals] <;> omega

theorem created (inside : Inside config none desc held) :
    Inside config (some left) desc (insert (.interface left) held) := by
  intro resource other
  rw [Finset.mem_insert, inside resource other]
  simp only [locals, Option.map, Option.toList, List.mem_cons, List.mem_append,
    List.not_mem_nil]
  tauto

theorem deleted (inside : Inside config (some left) desc held) :
    Inside config none desc (held.erase (.interface left)) := by
  intro resource other
  rw [Finset.mem_erase, inside resource other]
  cases desc <;> cases resource <;> simp [locals]

theorem endpoint (inside : Inside config interface desc held) :
    Inside config interface desc (insert (.endpoint left) held) := by
  intro resource other
  rw [Finset.mem_insert, inside resource other, or_iff_right]
  rintro rfl
  cases other

end Inside

def Fresh (left : Nat) (held : Finset Resource) : Prop :=
  ∀ resource ∈ held, left < resource.left

theorem Fresh.free {left : Nat} {held : Finset Resource} (fresh : Fresh left held)
    {resource : Resource} (named : resource.left = left) : resource ∉ held := by
  intro member
  have more := fresh resource member
  omega

theorem Fresh.insert {left : Nat} {held : Finset Resource} (fresh : Fresh left held)
    {resource : Resource} (more : left < resource.left) : Fresh left (insert resource held) := by
  intro other member
  rcases Finset.mem_insert.mp member with rfl | member
  · exact more
  · exact fresh other member

section

variable {bytes desc left : List UInt8} {held : Finset Resource}

theorem descriptor_missing (missing : cut bytes = none) (fresh : Fresh bytes.length held) :
    Holds held (getDescriptor bytes) held := by
  have len : .len bytes.length ∉ held := fresh.free rfl
  have block : .desc bytes.length ∉ held := fresh.free rfl
  cases bytes with
  | nil => exact (holds_acquire len).append (holds_given_back len)
  | cons first rest =>
      simp only [cut] at missing
      simp only [getDescriptor]
      split_ifs at missing ⊢
      · exact (holds_acquire len).append (holds_given_back len)
      · exact (holds_overlap len block (by simp)).append (holds_given_back block)

theorem descriptor_found (found : cut bytes = some (desc, left))
    (fresh : Fresh bytes.length held) :
    Holds held (getDescriptor bytes) (insert (.desc bytes.length) held) := by
  cases bytes with
  | nil => cases found
  | cons first rest =>
      simp only [cut] at found
      simp only [getDescriptor]
      split_ifs at found ⊢
      exact holds_overlap (fresh.free rfl) (fresh.free rfl) (by simp)

end

/-! ### The loop -/

section

variable {config left : Nat} {interface : Option Nat} {held : Finset Resource}

theorem by_type_acquires {resource : Resource} {type : UInt8}
    (member : .acquire resource ∈ (buildByType interface left type).1) : resource.left = left := by
  unfold buildByType at member
  split_ifs at member with isInterface isEndpoint hasInterface
  · rcases List.mem_append.mp member with deleted | created
    · simp [delete] at deleted
    · rw [Event.acquire.inj (List.mem_singleton.mp created)]
      rfl
  · rw [Event.acquire.inj (List.mem_singleton.mp member)]
    rfl
  · cases member
  · cases member

theorem by_type_holds (type : UInt8) (inside : Inside config interface none held)
    (fresh : Fresh left held) :
    ∃ after, Holds (insert (.desc left) held) (buildByType interface left type).1 after ∧
      Inside config (buildByType interface left type).2 (some left) after := by
  have read : Inside config interface (some left) (insert (.desc left) held) := inside.read
  have created : .interface left ∉ insert (.desc left) held := by
    rw [Finset.mem_insert, not_or]
    exact ⟨nofun, fresh.free rfl⟩
  have added : .endpoint left ∉ insert (.desc left) held := by
    rw [Finset.mem_insert, not_or]
    exact ⟨nofun, fresh.free rfl⟩
  unfold buildByType
  split_ifs with isInterface isEndpoint hasInterface
  · cases interface with
    | none => exact ⟨_, holds_acquire created, read.created⟩
    | some previous =>
        have member : .interface previous ∈ insert (.desc left) held :=
          (read _ rfl).mpr (by simp [locals])
        have later : .interface left ∉ (insert (.desc left) held).erase (.interface previous) :=
          fun inside => created (Finset.mem_of_mem_erase inside)
        exact ⟨_, (holds_release member).append (holds_acquire later), read.deleted.created⟩
  · exact ⟨_, holds_acquire added, read.endpoint⟩
  · exact ⟨_, holds_nil, read⟩
  · exact ⟨_, holds_nil, read⟩

/-- One round of the loop: the switch, and `free(desc)`. -/
theorem round_holds (type : UInt8) (inside : Inside config interface none held)
    (fresh : Fresh left held) :
    ∃ after, Holds (insert (.desc left) held)
        ((buildByType interface left type).1 ++ [.release (.desc left)]) after ∧
      Inside config (buildByType interface left type).2 none after ∧
      ∀ resource ∈ after, left ≤ resource.left := by
  obtain ⟨middle, switched, built⟩ := by_type_holds type inside fresh
  have block : .desc left ∈ middle := (built _ rfl).mpr (by simp [locals])
  have apart : left ≠ config := by
    have cfgDesc : left < config := fresh _ ((inside (.desc config) rfl).mpr (by simp [locals]))
    omega
  refine ⟨_, switched.append (holds_release block), built.freed apart, ?_⟩
  intro resource member
  rcases switched.acquired resource (Finset.mem_of_mem_erase member) with before | acquired
  · rcases Finset.mem_insert.mp before with rfl | before
    · exact le_rfl
    · exact (fresh resource before).le
  · exact (by_type_acquires acquired).ge

end

/-- The induction is along the descriptors; the invariant is what the variables hold. -/
theorem build_descriptors_holds (total config : Nat) :
    ∀ pos bytes interface held, Inside config interface none held → Fresh bytes.length held →
      let loop := buildDescriptors total pos interface bytes
      ∃ after, Holds held loop.events after ∧ Inside config loop.interface loop.desc after ∧
        (∀ left, loop.desc = some left → left ≠ config) ∧
        ∀ left, loop.left = some left → Fresh left.length after := by
  refine cut_induction total ?done ?missing ?stop ?next
  case done =>
    intro pos bytes done interface held inside fresh
    rw [build_descriptors_done done]
    exact ⟨held, holds_nil, inside, nofun, fun left here => Option.some.inj here ▸ fresh⟩
  case missing =>
    intro pos bytes more missing interface held inside fresh
    rw [build_descriptors_missing more missing]
    exact ⟨held, descriptor_missing missing fresh, inside, nofun, nofun⟩
  case stop =>
    intro pos bytes desc left more found stops interface held inside fresh
    rw [build_descriptors_stop more found stops]
    refine ⟨_, descriptor_found found fresh, inside.read, ?_, nofun⟩
    intro number here
    have cfgDesc : bytes.length < config :=
      fresh _ ((inside (.desc config) rfl).mpr (by simp [locals]))
    have same := Option.some.inj here
    omega
  case next =>
    intro pos bytes desc left more found passes ih interface held inside fresh
    rw [build_descriptors_next more found passes]
    obtain ⟨middle, round, inside, least⟩ := round_holds (desc.getD 1 0) inside fresh
    have shorter := cut_shorter found
    obtain ⟨after, later, ends⟩ := ih _ middle inside
      fun resource member => shorter.trans_le (least resource member)
    have events := (descriptor_found found fresh).append (round.append later)
    rw [List.append_assoc] at events
    exact ⟨after, events, ends⟩

/-! ### Configurations -/

theorem exit_holds {config : Nat} {loop : Loop} {held : Finset Resource}
    (inside : Inside config loop.interface loop.desc held)
    (apart : ∀ left, loop.desc = some left → left ≠ config) :
    ∃ after, Holds held (buildConfigExit config loop) after ∧ after ⊆ held ∧
      ∀ resource ∈ after, resource.isEndpoint = true := by
  let released : List Resource := .config config :: ((loop.interface.map .interface).toList ++
    .desc config :: (loop.desc.map .desc).toList)
  have events : buildConfigExit config loop = released.map .release := by
    cases iface : loop.interface <;> cases block : loop.desc <;>
      simp [buildConfigExit, delete, released, iface, block]
  have distinct : released.Nodup := by
    cases iface : loop.interface <;> cases block : loop.desc <;>
      simp [released, iface, block] <;> exact (apart _ block).symm
  have same : ∀ resource, resource ∈ released ↔
      resource ∈ locals config loop.interface loop.desc := by
    intro resource
    simp only [released, locals, List.mem_cons, List.mem_append]
    tauto
  have members : ∀ resource ∈ released, resource ∈ held := by
    intro resource member
    refine (inside resource ?_).mpr ((same resource).mp member)
    cases resource with
    | endpoint =>
        cases iface : loop.interface <;> cases block : loop.desc <;>
          simp [released, iface, block] at member
    | len | desc | config | interface => rfl
  refine ⟨_, events ▸ holds_releases distinct members, Finset.sdiff_subset, ?_⟩
  intro resource member
  rw [Finset.mem_sdiff, List.mem_toFinset, same] at member
  by_contra other
  exact member.2 ((inside resource (Bool.eq_false_iff.mpr other)).mp member.1)

theorem build_config_holds (node : Node) {bytes : List UInt8} {held : Finset Resource}
    (only : ∀ resource ∈ held, resource.isEndpoint = true) (fresh : Fresh bytes.length held) :
    ∃ after, Holds held (buildConfig node bytes).1 after ∧
      (∀ resource ∈ after, resource.isEndpoint = true) ∧
      ∀ left, (buildConfig node bytes).2 = some left → Fresh left.length after := by
  unfold buildConfig
  cases found : cut bytes with
  | none => exact ⟨held, descriptor_missing found fresh, only, nofun⟩
  | some parts =>
      obtain ⟨desc, left⟩ := parts
      have shorter := cut_shorter found
      let started : Finset Resource :=
        insert (.config bytes.length) (insert (.desc bytes.length) held)
      have created : Holds held (getDescriptor bytes ++ [.acquire (.config bytes.length)])
          started := by
        refine (descriptor_found found fresh).append (holds_acquire ?_)
        rw [Finset.mem_insert, not_or]
        exact ⟨nofun, fresh.free rfl⟩
      have inside : Inside bytes.length none none started := by
        intro resource other
        have free : resource ∉ held := by
          intro member
          rw [only resource member] at other
          cases other
        simp [started, locals, free]
      have later : Fresh left.length started := by
        intro resource member
        simp only [started, Finset.mem_insert] at member
        rcases member with rfl | rfl | member
        · exact shorter
        · exact shorter
        · exact shorter.trans (fresh resource member)
      obtain ⟨middle, loop, inside, apart, rest⟩ := build_descriptors_holds
        _ bytes.length _ left none started inside later
      obtain ⟨after, exits, kept, endpoints⟩ := exit_holds inside apart
      have events := created.append (loop.append exits)
      rw [List.append_assoc] at events
      exact ⟨after, events, endpoints, fun bytes done resource member =>
        rest bytes done resource (kept member)⟩

theorem build_configs_holds (node : Node) (ncfg : Nat) {bytes : List UInt8}
    {held : Finset Resource} (only : ∀ resource ∈ held, resource.isEndpoint = true)
    (fresh : Fresh bytes.length held) :
    ∃ after, Holds held (buildConfigs node ncfg bytes) after ∧
      ∀ resource ∈ after, resource.isEndpoint = true := by
  induction ncfg generalizing bytes held with
  | zero => exact ⟨held, holds_nil, only⟩
  | succ ncfg ih =>
      obtain ⟨middle, first, endpoints, rest⟩ := build_config_holds node only fresh
      rw [buildConfigs]
      split
      case h_1 events here =>
        rw [here] at first
        exact ⟨middle, first, endpoints⟩
      case h_2 events left here =>
        rw [here] at first rest
        obtain ⟨after, later, ends⟩ := ih endpoints (rest left rfl)
        exact ⟨after, first.append later, ends⟩

/-! ### The endpoints that are created -/

def madeEndpoints (events : List (Event Resource)) : Nat :=
  events.countP (acquires Resource.isEndpoint)

theorem made_append (first second : List (Event Resource)) :
    madeEndpoints (first ++ second) = madeEndpoints first + madeEndpoints second :=
  List.countP_append

theorem made_descriptor (bytes : List UInt8) : madeEndpoints (getDescriptor bytes) = 0 := by
  cases bytes with
  | nil => rfl
  | cons len rest =>
      simp only [getDescriptor]
      split_ifs <;> rfl

theorem made_delete {resource : Nat → Resource} (reference : Option Nat) :
    madeEndpoints (delete resource reference) = 0 := by
  cases reference <;> rfl

theorem by_type_agrees {node : Node} {left : List UInt8} {device after : UsbDeviceImp}
    {config : Nat} {iface next interface : Option Nat} {desc : Buffer}
    (same : interface.isSome = iface.isSome)
    (built : Descriptors.buildByType node left device config iface desc = some (next, after))
    (number : Nat) :
    (buildByType interface number (desc.byte 1)).2.isSome = next.isSome ∧
      after.endpoints.length = device.endpoints.length +
        madeEndpoints (buildByType interface number (desc.byte 1)).1 := by
  unfold Descriptors.buildByType at built
  unfold buildByType
  split_ifs at built with isDevice isConfig isInterface isEndpoint
  · cases built
    rw [if_pos isInterface, made_append, made_delete]
    exact ⟨rfl, rfl⟩
  · cases built
    rw [if_neg isInterface, if_pos isEndpoint]
    refine ⟨same, ?_⟩
    cases iface with
    | none =>
        rw [if_neg (by simp [same])]
        rfl
    | some iface =>
        rw [if_pos (by simp [same])]
        simp [buildEndpoint, createUsbEndpointImp, madeEndpoints, acquires, Resource.isEndpoint]
  · cases built
    rw [if_neg isInterface, if_neg isEndpoint]
    exact ⟨same, rfl⟩

theorem build_descriptors_left (total pos : Nat) (bytes : List UInt8) :
    ∀ interface, (buildDescriptors total pos interface bytes).left =
      (cutItems total pos bytes).2 := by
  induction pos, bytes using cut_induction total with
  | done pos bytes done =>
      intro interface
      rw [build_descriptors_done done, cut_items_done bytes done]
  | missing pos bytes more missing =>
      intro interface
      rw [build_descriptors_missing more missing, cut_items_none more missing]
  | stop pos bytes desc left more found stops =>
      intro interface
      rw [build_descriptors_stop more found stops, cut_items_stop more found stops]
  | next pos bytes desc left more found passes ih =>
      intro interface
      rw [build_descriptors_next more found passes, cut_items_next more found passes]
      exact ih _

theorem second_byte {desc : List UInt8} (past : Nat → UInt8) (long : 2 ≤ desc.length) :
    (⟨desc, past⟩ : Buffer).byte 1 = desc.getD 1 0 := by
  match desc with
  | [] => simp at long
  | [_] => simp at long
  | _ :: _ :: _ => rfl

/-- The loop makes a reference for every endpoint that the parser adds. -/
theorem build_descriptors_endpoints (node : Node) (config total pos : Nat) (bytes : List UInt8) :
    ∀ interface iface device after left, interface.isSome = iface.isSome →
      Descriptors.buildDescriptors node config total pos iface device bytes = some (after, left) →
      after.endpoints.length = device.endpoints.length +
        madeEndpoints (buildDescriptors total pos interface bytes).events := by
  induction pos, bytes using cut_induction total with
  | done pos bytes done =>
      intro interface iface device after left same parsed
      rw [DescriptorRoundTrip.build_descriptors_done _ _ _ _ _ _ _ done] at parsed
      rw [build_descriptors_done done]
      cases parsed
      rfl
  | missing pos bytes more missing =>
      intro interface iface device after left same parsed
      rw [DescriptorRoundTrip.build_descriptors_missing config iface device more
        (read_missing node missing)] at parsed
      cases parsed
  | stop pos bytes desc rest more found stops =>
      intro interface iface device after left same parsed
      have fails :=
        DescriptorFraming.build_descriptors_left node config total pos bytes iface device
      rw [parsed, cut_items_stop more found stops] at fails
      cases fails
  | next pos bytes desc rest more found passes ih =>
      intro interface iface device after left same parsed
      have length := framed_length (cut_framed found).1 (node.stray rest)
      obtain ⟨next, middle, built⟩ :=
        DescriptorFraming.build_by_type_next node rest device config iface passes (node.stray rest)
      rw [DescriptorRoundTrip.build_descriptors_step more (read_found node found)
        (by rw [length]; exact ordinary_long passes) built, length] at parsed
      obtain ⟨still, made⟩ := by_type_agrees same built bytes.length
      rw [second_byte _ (ordinary_long passes)] at still made
      rw [build_descriptors_next more found passes, ih _ next middle after left still parsed, made,
        made_append, made_append, made_descriptor, Nat.zero_add, Nat.add_assoc]
      rfl

theorem build_config_left (node : Node) (bytes : List UInt8) (device : UsbDeviceImp) :
    (buildConfig node bytes).2 = (Descriptors.buildConfig node device bytes).map Prod.snd := by
  cases found : cut bytes with
  | none =>
      simp only [buildConfig, found, Descriptors.buildConfig, read_missing node found]
      rfl
  | some parts =>
      obtain ⟨desc, left⟩ := parts
      simp only [buildConfig, found, Descriptors.buildConfig, read_found node found]
      rw [configLoop, build_descriptors_left, DescriptorFraming.build_descriptors_left]

theorem made_exit (config : Nat) (loop : Loop) :
    madeEndpoints (buildConfigExit config loop) = 0 := by
  rw [buildConfigExit, made_append, made_append, made_append, made_delete, made_delete]
  rfl

theorem build_config_endpoints {node : Node} {bytes left : List UInt8}
    {device after : UsbDeviceImp}
    (parsed : Descriptors.buildConfig node device bytes = some (after, left)) :
    after.endpoints.length = device.endpoints.length +
      madeEndpoints (buildConfig node bytes).1 := by
  cases found : cut bytes with
  | none =>
      rw [Descriptors.buildConfig, read_missing node found] at parsed
      cases parsed
  | some parts =>
      obtain ⟨desc, rest⟩ := parts
      simp only [Descriptors.buildConfig, read_found node found] at parsed
      have made := build_descriptors_endpoints node _ _ _ _ none none _ _ _ rfl parsed
      have events : (buildConfig node bytes).1 = getDescriptor bytes ++
          ([.acquire (.config bytes.length)] ++ ((configLoop node desc rest).events ++
            buildConfigExit bytes.length (configLoop node desc rest))) := by
        simp only [buildConfig, found]
      rw [made, events, made_append, made_append, made_append, made_descriptor, made_exit,
        Nat.zero_add, Nat.add_zero]
      exact congrArg (_ + ·) (Nat.zero_add _).symm

theorem build_configs_endpoints {node : Node} {ncfg : Nat} {bytes left : List UInt8}
    {device after : UsbDeviceImp}
    (parsed : Descriptors.buildConfigs node ncfg device bytes = some (after, left)) :
    after.endpoints.length = device.endpoints.length +
      madeEndpoints (buildConfigs node ncfg bytes) := by
  induction ncfg generalizing device bytes with
  | zero =>
      cases parsed
      rfl
  | succ ncfg ih =>
      have same := build_config_left node bytes device
      cases first : Descriptors.buildConfig node device bytes with
      | none =>
          rw [Descriptors.buildConfigs, first] at parsed
          cases parsed
      | some parts =>
          obtain ⟨middle, rest⟩ := parts
          rw [Descriptors.buildConfigs, first] at parsed
          rw [first] at same
          have events : buildConfigs node (ncfg + 1) bytes =
              (buildConfig node bytes).1 ++ buildConfigs node ncfg rest := by
            rw [buildConfigs, ← Prod.eta (buildConfig node bytes), same]
            rfl
          rw [ih parsed, build_config_endpoints first, events, made_append, Nat.add_assoc]

/-! ### The endpoints are not released -/

theorem spares_descriptor (bytes : List UInt8) :
    Spares Resource.isEndpoint (getDescriptor bytes) := by
  intro resource endpoint member
  cases resource with
  | endpoint left =>
      cases bytes with
      | nil => simp [getDescriptor] at member
      | cons len rest =>
          simp only [getDescriptor] at member
          split_ifs at member <;> simp at member
  | len | desc | config | interface => cases endpoint

theorem spares_delete {resource : Nat → Resource}
    (other : ∀ left, (resource left).isEndpoint = false) (reference : Option Nat) :
    Spares Resource.isEndpoint (delete resource reference) := by
  cases reference with
  | none => exact spares_nil
  | some left =>
      exact spares_release (other left)

theorem spares_by_type (interface : Option Nat) (left : Nat) (type : UInt8) :
    Spares Resource.isEndpoint (buildByType interface left type).1 := by
  unfold buildByType
  split_ifs
  · exact (spares_delete (fun _ => rfl) interface).append (spares_acquire _)
  · exact spares_acquire _
  · exact spares_nil
  · exact spares_nil

theorem spares_loop (total pos : Nat) (bytes : List UInt8) :
    ∀ interface,
      Spares Resource.isEndpoint (buildDescriptors total pos interface bytes).events := by
  induction pos, bytes using cut_induction total with
  | done pos bytes done =>
      intro interface
      rw [build_descriptors_done done]
      exact spares_nil
  | missing pos bytes more missing =>
      intro interface
      rw [build_descriptors_missing more missing]
      exact spares_descriptor bytes
  | stop pos bytes desc left more found stops =>
      intro interface
      rw [build_descriptors_stop more found stops]
      exact spares_descriptor bytes
  | next pos bytes desc left more found passes ih =>
      intro interface
      rw [build_descriptors_next more found passes]
      have block : Spares Resource.isEndpoint [.release (.desc bytes.length)] := spares_release rfl
      exact (spares_descriptor bytes).append ((spares_by_type _ _ _).append (block.append (ih _)))

theorem spares_config (node : Node) (bytes : List UInt8) :
    Spares Resource.isEndpoint (buildConfig node bytes).1 := by
  cases found : cut bytes with
  | none =>
      simp only [buildConfig, found]
      exact spares_descriptor bytes
  | some parts =>
      obtain ⟨desc, left⟩ := parts
      simp only [buildConfig, found]
      have exits : Spares Resource.isEndpoint
          (buildConfigExit bytes.length (configLoop node desc left)) :=
        (spares_release rfl).append ((spares_delete (fun _ => rfl) _).append
          ((spares_release rfl).append (spares_delete (fun _ => rfl) _)))
      exact (spares_descriptor bytes).append ((spares_acquire _).append
        ((spares_loop _ _ _ none).append exits))

theorem spares_configs (node : Node) (ncfg : Nat) (bytes : List UInt8) :
    Spares Resource.isEndpoint (buildConfigs node ncfg bytes) := by
  induction ncfg generalizing bytes with
  | zero => exact spares_nil
  | succ ncfg ih =>
      have first := spares_config node bytes
      rw [buildConfigs]
      split
      case h_1 events here =>
        rw [here] at first
        exact first
      case h_2 events left here =>
        rw [here] at first
        exact first.append (ih left)

/-! ### All that is left -/

/-- Whatever the node delivers, `build_device` reads its configurations without a double
`free` or `DeleteLocalRef`, and what is left in the end are the references to the
endpoints, one for each that was created. -/
theorem only_endpoints_left (node : Node) (ncfg : Nat) (bytes : List UInt8) :
    ∃ after, Holds ∅ (buildConfigs node ncfg bytes) after ∧
      (∀ resource, resource ∈ after ↔
        resource.isEndpoint = true ∧ .acquire resource ∈ buildConfigs node ncfg bytes) ∧
      ∀ device parsed left,
        Descriptors.buildConfigs node ncfg device bytes = some (parsed, left) →
          parsed.endpoints.length = device.endpoints.length + after.card := by
  have none : ∀ resource ∈ (∅ : Finset Resource), resource.isEndpoint = true := by simp
  have fresh : Fresh bytes.length ∅ := by simp [Fresh]
  obtain ⟨after, holds, only⟩ := build_configs_holds node ncfg none fresh
  refine ⟨after, holds, fun resource => ⟨fun member => ⟨only resource member, ?_⟩, ?_⟩, ?_⟩
  · exact (holds.acquired resource member).resolve_left (Finset.notMem_empty resource)
  · rintro ⟨endpoint, acquired⟩
    exact holds.stays (spares_configs node ncfg bytes) endpoint (Or.inr acquired)
  · intro device parsed left parses
    have count := holds.card_kept (spares_configs node ncfg bytes)
    rw [Finset.filter_true_of_mem only] at count
    rw [build_configs_endpoints parses, count, Finset.filter_empty, Finset.card_empty,
      Nat.zero_add]
    rfl

end JavaxUsbLinux.ConfigResources
