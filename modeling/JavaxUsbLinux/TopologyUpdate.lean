import Mathlib.Data.Option.Basic
import JavaxUsbLinux.TopologyDiff

/-!
# The update of the device tree

`updateTopology` decides everything against the old tree and changes the tree
afterwards: it disconnects the devices of one list and then attaches the
devices of the other. When no two old devices are equal the result is the
scanned tree, with each retained device in the place of the device it met.
-/

namespace JavaxUsbLinux.TopologyUpdate

open JavaxUsbLinux.EqualRemoval
open JavaxUsbLinux.PortForest
open JavaxUsbLinux.DeviceHeap
open JavaxUsbLinux.TopologyWalk
open JavaxUsbLinux.TopologyDiff

set_option autoImplicit false

variable {Content : Type*}

/-- `JavaxUsb.nativeTopologyUpdater`. No scan means that the bus directory
could not be read: the lists stay as they are and the result is -1. -/
def nativeTopologyUpdater (devices : Devices Content) (root : Ref) (scan : Option (Ports Ref))
    (state : WalkState) : Option (Int × WalkState) :=
  match scan with
  | none => some (-1, state)
  | some ports => (visitPorts devices root 0 ports state).map fun after => (0, after)

def attachToOwnPort (heap : Heap) (device : Ref) : Option Heap :=
  (heap.usbPortImp device).map fun port => heap.attachUsbDeviceImp port device

def disconnectAll (heap : Heap) (disconnectedDevices : List Ref) : Option Heap :=
  disconnectedDevices.foldlM Heap.disconnect heap

def attachAll (heap : Heap) (connectedDevices : List Ref) : Option Heap :=
  connectedDevices.foldlM attachToOwnPort heap

/-- What one update leaves behind. An event is fired only for a nonempty list. -/
structure Updated where
  heap : Heap
  topologyUpdateResult : Int
  usbDeviceDetached : Option (List Ref)
  usbDeviceAttached : Option (List Ref)

def updateTopology (devices : Devices Content) (fuel : Nat) (heap : Heap) (root : Ref)
    (scan : Option (Ports Ref)) : Option Updated := do
  let disconnectedDevices ← listOldDevices devices fuel heap root
  let (result, walked) ← nativeTopologyUpdater devices root scan ⟨heap, [], disconnectedDevices⟩
  let detached ← disconnectAll walked.heap walked.disconnected
  let attached ← attachAll detached walked.connected
  return {
    heap := attached
    topologyUpdateResult := result
    usbDeviceDetached := if walked.disconnected = [] then none else some walked.disconnected
    usbDeviceAttached := if walked.connected = [] then none else some walked.connected }

/-! ### The disconnect loop -/

structure Disconnected (before after : Heap) (gone : List Ref) : Prop where
  counts : after.numberOfPorts = before.numberOfPorts
  ports : after.usbPortImp = before.usbPortImp
  emptied : ∀ device ∈ gone, ∀ port, before.usbPortImp device = some port →
    after.attached port = none
  others : ∀ port, (∀ device ∈ gone, before.usbPortImp device ≠ some port) →
    after.attached port = before.attached port

theorem disconnect_all_spec (heap : Heap) (gone : List Ref)
    (placed : ∀ device ∈ gone, ∃ port, heap.usbPortImp device = some port) :
    ∃ after, disconnectAll heap gone = some after ∧ Disconnected heap after gone := by
  induction gone generalizing heap with
  | nil =>
      refine ⟨heap, rfl, rfl, rfl, ?_, fun _ _ => rfl⟩
      intro device member
      exact absurd member List.not_mem_nil
  | cons device rest ih =>
      obtain ⟨port, known⟩ := placed device (by simp)
      let next : Heap := { heap with attached := Function.update heap.attached port none }
      have step : heap.disconnect device = some next := by
        simp [Heap.disconnect, known, next]
      obtain ⟨after, looped, counts, ports, emptied, others⟩ := ih next
        fun other member => placed other (by simp [member])
      refine ⟨after, ?_, counts, ports, ?_, ?_⟩
      · simp only [disconnectAll, List.foldlM_cons, step, Option.bind_eq_bind, Option.bind_some]
        exact looped
      · intro other member place knownOther
        by_cases later : ∃ device ∈ rest, next.usbPortImp device = some place
        · obtain ⟨again, inRest, knownAgain⟩ := later
          exact emptied again inRest place knownAgain
        · have kept := others place fun device inRest knows => later ⟨device, inRest, knows⟩
          have here : other = device := by
            rcases List.mem_cons.mp member with same | inRest
            · exact same
            · exact absurd ⟨other, inRest, knownOther⟩ later
          have samePlace : place = port := by
            rw [here, known] at knownOther
            exact (Option.some.inj knownOther).symm
          rw [kept, samePlace]
          simp [next]
      · intro place untouched
        rw [others place fun device inRest => untouched device (by simp [inRest])]
        have away : place ≠ port := by
          intro same
          exact untouched device (by simp) (by rw [known, same])
        simp [next, Function.update_of_ne away]

theorem Disconnected.empty {before after : Heap} {gone : List Ref}
    (disconnected : Disconnected before after gone) {port : UsbPortImp}
    (vacant : before.attached port = none) : after.attached port = none := by
  by_cases named : ∃ device ∈ gone, before.usbPortImp device = some port
  · obtain ⟨device, member, known⟩ := named
    exact disconnected.emptied device member port known
  · rw [disconnected.others port fun device member known => named ⟨device, member, known⟩]
    exact vacant

theorem vacated_slot (devices : Devices Content) {before after : Heap} {gone : List Ref}
    (disconnected : Disconnected before after gone) {hub : Ref} {index : Nat} {old : Ports Ref}
    (holds : Holds devices before hub index old) (offset : Nat)
    (leaves : ∀ device below, old.slot offset = some (device, below) → device ∈ gone) :
    after.attached ⟨hub, index + offset + 1⟩ = none := by
  have slot := held_slot devices holds offset
  cases found : old.slot offset with
  | none =>
      rw [found] at slot
      exact disconnected.empty slot
  | some pair =>
      rw [found] at slot
      exact disconnected.emptied pair.1 (leaves pair.1 pair.2 found) _ slot.1.known

theorem first_not_kept (devices : Devices Content) {old : Ports Ref} {device : Ref}
    {below : Ports Ref} (present : old.slot 0 = some (device, below)) (nodup : old.items.Nodup)
    (rest : Ports Ref) : device ∉ Ports.kept devices.same old.rest rest := by
  intro kept
  exact Ports.slot_zero_fresh present nodup
    ((Ports.kept_sublist devices.same old.rest rest).subset kept)

theorem plugged_stays (devices : Devices Content) {before after : Heap} {gone : List Ref}
    (disconnected : Disconnected before after gone)
    (own : ∀ device ∈ gone, ∀ port, before.usbPortImp device = some port →
      before.attached port = some device)
    {port : UsbPortImp} {device : Ref} {below left : Ports Ref}
    (plugged : Plugged devices before port device below) (stays : device ∉ gone)
    (leaf : devices.isUsbHub device = false → left = .done) :
    Plugged devices after port device left where
  attached := by
    rw [disconnected.others port ?_]
    · exact plugged.attached
    · intro other member known
      have here := own other member port known
      rw [plugged.attached] at here
      exact stays (Option.some.inj here ▸ member)
  known := by
    rw [disconnected.ports]
    exact plugged.known
  counted := by
    rw [disconnected.counts]
    exact plugged.counted
  leaf := leaf

/-- Once the devices that are not retained are disconnected, the hub carries
the retained ones only. The induction follows the scanned forest. -/
theorem holds_pruned (devices : Devices Content) {before after : Heap} {gone : List Ref}
    (disconnected : Disconnected before after gone)
    (own : ∀ device ∈ gone, ∀ port, before.usbPortImp device = some port →
      before.attached port = some device)
    (scan : Ports Ref) (hub : Ref) (index : Nat) (old : Ports Ref)
    (holds : Holds devices before hub index old) (reported : Reported devices scan)
    (nodup : old.items.Nodup)
    (leave : ∀ device ∈ old.items,
      device ∈ gone ↔ device ∉ Ports.kept devices.same old scan) :
    Holds devices after hub index (Ports.pruned devices.same old scan) := by
  induction scan generalizing hub index old with
  | done =>
      intro number beyond
      have vacated := vacated_slot devices disconnected holds (number - index - 1) ?_
      · rwa [show index + (number - index - 1) + 1 = number by omega] at vacated
      · intro device below present
        exact (leave device (Ports.slot_item present)).mpr List.not_mem_nil
  | vacant rest ih =>
      refine ⟨vacated_slot devices disconnected holds 0 ?_, ?_⟩
      · intro device below present
        exact (leave device (Ports.slot_item present)).mpr
          (first_not_kept devices present nodup rest)
      · apply ih hub (index + 1) old.rest (holds_rest devices holds) reported
          (nodup.sublist (Ports.rest_items old))
        exact fun device inRest => leave device ((Ports.rest_items old).subset inRest)
  | occupied built below rest ihBelow ihRest =>
      obtain ⟨_, leaf, reportedBelow, reportedRest⟩ := reported
      have nodupRest := nodup.sublist (Ports.rest_items old)
      cases meets : old.meet devices.same built with
      | none =>
          simp only [Ports.kept, meets, List.nil_append] at leave
          simp only [Ports.pruned, meets]
          refine ⟨vacated_slot devices disconnected holds 0 ?_, ?_⟩
          · intro device below present
            exact (leave device (Ports.slot_item present)).mpr
              (first_not_kept devices present nodup rest)
          · apply ihRest hub (index + 1) old.rest (holds_rest devices holds) reportedRest nodupRest
            exact fun device inRest => leave device ((Ports.rest_items old).subset inRest)
      | some pair =>
          obtain ⟨found, under⟩ := pair
          obtain ⟨present, equal⟩ := (Ports.meet_eq_some devices.same).mp meets
          simp only [Ports.kept, meets] at leave
          simp only [Ports.pruned, meets]
          rw [Ports.slot_zero_some.mp present] at holds nodup leave
          obtain ⟨plugged, holdsUnder, holdsRest⟩ := holds
          simp only [Ports.items, List.nodup_cons, List.mem_append, not_or,
            List.nodup_append] at nodup
          obtain ⟨⟨notUnder, notRest⟩, nodupUnder, _, disjoint⟩ := nodup
          have stays : found ∉ gone := by
            intro goes
            exact (leave found (by simp [Ports.items])).mp goes (by simp)
          refine ⟨plugged_stays devices disconnected own plugged stays ?_, ?_, ?_⟩
          · intro plain
            rw [devices.hub_of_same equal] at plain
            rw [leaf plain]
            rfl
          · apply ihBelow found 0 under holdsUnder reportedBelow nodupUnder
            intro device inUnder
            rw [leave device (by simp [Ports.items, inUnder])]
            have other : device ≠ found := fun same => notUnder (same ▸ inUnder)
            have early : device ∉ Ports.kept devices.same old.rest rest := by
              intro kept
              exact disjoint device inUnder device
                ((Ports.kept_sublist devices.same old.rest rest).subset kept) rfl
            simp [other, early]
          · apply ihRest hub (index + 1) old.rest holdsRest reportedRest nodupRest
            intro device inRest
            rw [leave device (by simp [Ports.items, inRest])]
            have other : device ≠ found := fun same => notRest (same ▸ inRest)
            have later : device ∉ Ports.kept devices.same under below := by
              intro kept
              exact disjoint device ((Ports.kept_sublist devices.same under below).subset kept)
                device inRest rfl
            simp [other, later]

/-! ### The attach loop -/

/-- A run of attaches, each on an empty port of a hub that is in the tree by then. -/
inductive Attaching (root : Ref) : Heap → List (Ref × UsbPortImp) → Heap → Prop
  | done (heap : Heap) : Attaching root heap [] heap
  | attach {heap after : Heap} {device : Ref} {port : UsbPortImp} {rest : List (Ref × UsbPortImp)}
      (known : heap.usbPortImp device = some port) (vacant : heap.attached port = none)
      (above : heap.InTree root port.hub)
      (later : Attaching root (heap.attachUsbDeviceImp port device) rest after) :
      Attaching root heap ((device, port) :: rest) after

namespace Attaching

variable {root : Ref} {heap middle after : Heap} {placed further : List (Ref × UsbPortImp)}

theorem loop (run : Attaching root heap placed after) :
    attachAll heap (placed.map Prod.fst) = some after := by
  induction run with
  | done heap => rfl
  | attach known vacant above later ih =>
      simp only [attachAll, List.map_cons, List.foldlM_cons, attachToOwnPort, known,
        Option.map_some, Option.bind_eq_bind, Option.bind_some]
      exact ih

theorem append (run : Attaching root heap placed middle)
    (next : Attaching root middle further after) :
    Attaching root heap (placed ++ further) after := by
  induction run with
  | done heap => exact next
  | attach known vacant above later ih => exact .attach known vacant above (ih next)

theorem counts (run : Attaching root heap placed after) :
    after.numberOfPorts = heap.numberOfPorts := by
  induction run with
  | done heap => rfl
  | attach known vacant above later ih => exact ih

theorem ports (run : Attaching root heap placed after) : after.usbPortImp = heap.usbPortImp := by
  induction run with
  | done heap => rfl
  | attach known vacant above later ih => exact ih

theorem others (run : Attaching root heap placed after) (port : UsbPortImp)
    (away : ∀ entry ∈ placed, entry.2 ≠ port) : after.attached port = heap.attached port := by
  induction run with
  | done heap => rfl
  | attach known vacant above later ih =>
      rw [ih fun entry member => away entry (by simp [member])]
      have here := away _ List.mem_cons_self
      simp [Heap.attachUsbDeviceImp, Function.update_of_ne here.symm]

theorem keeps (run : Attaching root heap placed after) {port : UsbPortImp} {device : Ref}
    (attached : heap.attached port = some device) : after.attached port = some device := by
  induction run with
  | done heap => exact attached
  | @attach heap after other place rest known vacant above later ih =>
      apply ih
      have here : port ≠ place := by
        intro same
        rw [same, vacant] at attached
        contradiction
      simp [Heap.attachUsbDeviceImp, Function.update_of_ne here, attached]

theorem in_tree (run : Attaching root heap placed after) {hub : Ref}
    (above : heap.InTree root hub) : after.InTree root hub := by
  induction above with
  | root => exact .root
  | step _ attached ih => exact .step ih (run.keeps attached)

theorem plugged {devices : Devices Content} (run : Attaching root heap placed after)
    {port : UsbPortImp} {device : Ref} {below grown : Ports Ref}
    (before : Plugged devices heap port device below)
    (leaf : devices.isUsbHub device = false → grown = .done) :
    Plugged devices after port device grown where
  attached := run.keeps before.attached
  known := by
    rw [run.ports]
    exact before.known
  counted := by
    rw [run.counts]
    exact before.counted
  leaf := leaf

theorem same_on (run : Attaching root heap placed after) (hub : Ref) (index : Nat)
    (members : List Ref) (own : ∀ entry ∈ placed, entry.2.hub = hub → entry.2.number ≤ index)
    (apart : ∀ entry ∈ placed, entry.2.hub ∉ members) : SameOn heap after hub index members where
  own number beyond := by
    apply run.others
    intro entry member same
    have bound := own entry member (by rw [same])
    rw [same] at bound
    exact absurd bound (by simpa using beyond)
  grown := by rw [run.counts]
  below device member number := by
    apply run.others
    intro entry placedThere same
    exact apart entry placedThere (by rw [same]; exact member)
  belowGrown device _ := by rw [run.counts]
  port device _ := by rw [run.ports]

theorem at_each (run : Attaching root heap placed after) {earlier later : List (Ref × UsbPortImp)}
    {device : Ref} {port : UsbPortImp} (split : placed = earlier ++ (device, port) :: later) :
    ∃ before, attachAll heap (earlier.map Prod.fst) = some before ∧
      before.usbPortImp device = some port ∧ before.attached port = none ∧
      before.InTree root port.hub := by
  induction run generalizing earlier with
  | done heap => simp at split
  | @attach heap after first place rest known vacant above next ih =>
      cases earlier with
      | nil =>
          obtain ⟨⟨rfl, rfl⟩, _⟩ := by simpa using split
          exact ⟨heap, rfl, known, vacant, above⟩
      | cons head earlier =>
          obtain ⟨rfl, tail⟩ := by simpa using split
          obtain ⟨before, looped, found⟩ := ih tail
          refine ⟨before, ?_, found⟩
          simp only [attachAll, List.map_cons, List.foldlM_cons, attachToOwnPort, known,
            Option.map_some, Option.bind_eq_bind, Option.bind_some]
          exact looped

end Attaching

theorem holds_blank (devices : Devices Content) {heap : Heap} {hub : Ref}
    (blank : ∀ number, heap.attached ⟨hub, number⟩ = none) (scan : Ports Ref) (index : Nat) :
    Holds devices heap hub index (Ports.pruned devices.same (.done : Ports Ref) scan) := by
  induction scan generalizing index with
  | done => exact fun number _ => blank number
  | vacant rest ih => exact ⟨blank (index + 1), ih (index + 1)⟩
  | occupied built below rest _ ihRest => exact ⟨blank (index + 1), ihRest (index + 1)⟩

/-- What the attaches of a row of ports need from the heap they start in. -/
structure Attachable (devices : Devices Content) (root : Ref) (heap : Heap) (hub : Ref)
    (index : Nat) (old scan : Ports Ref) : Prop where
  holds : Holds devices heap hub index (Ports.pruned devices.same old scan)
  above : heap.InTree root hub
  blank : ∀ device ∈ scan.items, ∀ number, heap.attached ⟨device, number⟩ = none
  knows : ∀ entry ∈ placements devices.same hub index old scan,
    heap.usbPortImp entry.1 = some entry.2 ∧ entry.2.number ≤ heap.numberOfPorts entry.2.hub
  nodup : (hub :: (old.items ++ scan.items)).Nodup

/-- The attaches on a row of ports turn what is left of the old devices into the merged tree. -/
def AttachesMerge (devices : Devices Content) (root : Ref) (scan : Ports Ref) : Prop :=
  ∀ (heap : Heap) (hub : Ref) (index : Nat) (old : Ports Ref),
    Attachable devices root heap hub index old scan → ∃ after,
      Attaching root heap (placements devices.same hub index old scan) after ∧
        Holds devices after hub index (Ports.merged devices.same id old scan)

/-- The attaches on and below the first port are done. They touch nothing that
the later ports depend on. -/
structure FirstAttached (devices : Devices Content) (root : Ref) (heap middle : Heap) (hub : Ref)
    (index : Nat) (first : List (Ref × UsbPortImp)) (target : Ref) (lower : Ports Ref)
    (later : List Ref) : Prop where
  run : Attaching root heap first middle
  plugged : Plugged devices middle ⟨hub, index + 1⟩ target lower
  holds : Holds devices middle target 0 lower
  inside : ∀ entry ∈ first, entry.2 = ⟨hub, index + 1⟩ ∨ entry.2.hub ∉ hub :: later
  apart : ∀ device, device = target ∨ device ∈ lower.items → device ∉ hub :: later

theorem merged_items (same : Ref → Ref → Bool) (old scan : Ports Ref) (device : Ref)
    (member : device ∈ (Ports.merged same id old scan).items) :
    device ∈ old.items ∨ device ∈ scan.items := by
  rw [(Ports.merged_items_perm same id old scan).mem_iff, List.map_id, List.mem_append] at member
  exact member.imp ((Ports.kept_sublist same old scan).subset ·)
    ((Ports.added_sublist same old scan).subset ·)

/-- The attaches on a row whose first port is occupied in the scan begin with
those on and below that port. -/
def AttachesFirst (devices : Devices Content) (root : Ref) (heap : Heap) (hub : Ref)
    (index : Nat) (old : Ports Ref) (built : Ref) (below rest : Ports Ref) : Prop :=
  ∃ middle first target lower,
    placements devices.same hub index old (.occupied built below rest) =
      first ++ placements devices.same hub (index + 1) old.rest rest ∧
    Ports.merged devices.same id old (.occupied built below rest) =
      .occupied target lower (Ports.merged devices.same id old.rest rest) ∧
    Holds devices heap hub (index + 1) (Ports.pruned devices.same old.rest rest) ∧
    FirstAttached devices root heap middle hub index first target lower
      (old.rest.items ++ rest.items)

theorem attach_first_new (devices : Devices Content) (root : Ref) (heap : Heap) (hub : Ref)
    (index : Nat) (old : Ports Ref) (built : Ref) (below rest : Ports Ref)
    (ready : Attachable devices root heap hub index old (.occupied built below rest))
    (leaf : devices.isUsbHub built = false → below = .done)
    (merges : AttachesMerge devices root below)
    (meets : old.meet devices.same built = none) :
    AttachesFirst devices root heap hub index old built below rest := by
  obtain ⟨holds, above, blank, knows, nodup⟩ := ready
  simp only [Ports.pruned, meets] at holds
  simp only [placements, meets] at knows
  have known := knows _ List.mem_cons_self
  let heap' := heap.attachUsbDeviceImp ⟨hub, index + 1⟩ built
  have single : Attaching root heap [(built, ⟨hub, index + 1⟩)] heap' :=
    .attach known.1 holds.1 above (.done heap')
  have here : heap'.attached ⟨hub, index + 1⟩ = some built := by
    simp [heap', Heap.attachUsbDeviceImp]
  have scope : ∀ device, device = built ∨ device ∈ below.items →
      device ∉ hub :: (old.rest.items ++ rest.items) := by
    have inOld := (Ports.rest_items old).subset
    simp only [Ports.items, List.nodup_cons, List.nodup_append] at nodup
    grind
  have empty : ∀ device, device = built ∨ device ∈ below.items → ∀ number,
      heap'.attached ⟨device, number⟩ = none := by
    intro device inside number
    rw [single.others ⟨device, number⟩ ?_]
    · exact blank device (by simpa [Ports.items] using inside.imp_right Or.inl) number
    · intro entry member same
      rw [List.mem_singleton.mp member] at same
      injection same with same
      exact scope device inside (same ▸ List.mem_cons_self)
  have plugged : Plugged devices heap' ⟨hub, index + 1⟩ built below :=
    ⟨here, known.1, known.2, leaf⟩
  have inner : Attachable devices root heap' built 0 .done below := by
    refine ⟨holds_blank devices (empty built (Or.inl rfl)) below 0,
      .step (single.in_tree above) here, fun device member => empty device (Or.inr member), ?_, ?_⟩
    · intro entry member
      rw [single.ports, single.counts]
      exact knows entry (by simp [member])
    · simp only [Ports.items, List.nodup_cons, List.nodup_append] at nodup
      simp only [Ports.items, List.nil_append, List.nodup_cons]
      grind
  obtain ⟨middle, run, holdsBuilt⟩ := merges heap' built 0 .done inner
  refine ⟨middle, (built, ⟨hub, index + 1⟩) :: placements devices.same built 0 .done below,
    built, _, by simp [placements, meets], by simp only [Ports.merged, meets]; rfl, holds.2,
    ⟨.attach known.1 holds.1 above run, run.plugged plugged ?_, holdsBuilt, ?_, ?_⟩⟩
  · intro plain
    rw [leaf plain]
    rfl
  · intro entry member
    rcases List.mem_cons.mp member with same | member
    · exact Or.inl (by rw [same])
    · right
      apply scope
      rcases placements_port devices.same built 0 .done below entry member with
        here | inNone | inBelow
      · exact Or.inl here.1
      · simp [Ports.items] at inNone
      · exact Or.inr inBelow
  · intro device inside
    apply scope
    refine inside.imp_right fun member => ?_
    simpa [Ports.items] using merged_items devices.same .done below device member

theorem attach_first_met (devices : Devices Content) (root : Ref) (heap : Heap) (hub : Ref)
    (index : Nat) (old : Ports Ref) (built : Ref) (below rest : Ports Ref)
    (ready : Attachable devices root heap hub index old (.occupied built below rest))
    (leaf : devices.isUsbHub built = false → below = .done)
    (merges : AttachesMerge devices root below) {found : Ref} {under : Ports Ref}
    (meets : old.meet devices.same built = some (found, under)) :
    AttachesFirst devices root heap hub index old built below rest := by
  obtain ⟨holds, above, blank, knows, nodup⟩ := ready
  obtain ⟨present, equal⟩ := (Ports.meet_eq_some devices.same).mp meets
  simp only [Ports.pruned, meets] at holds
  simp only [placements, meets] at knows
  obtain ⟨plugged, holdsUnder, holdsRest⟩ := holds
  rw [Ports.slot_zero_some.mp present] at nodup
  simp only [Ports.items, List.nodup_cons, List.nodup_append] at nodup
  simp only [List.mem_cons, List.mem_append, not_or] at nodup
  have scope : ∀ device, device = found ∨ device ∈ under.items ∨ device ∈ below.items →
      device ∉ hub :: (old.rest.items ++ rest.items) := by
    intro device inside later
    simp only [List.mem_cons, List.mem_append] at later
    grind
  have inner : Attachable devices root heap found 0 under below := by
    refine ⟨holdsUnder, .step above plugged.attached, ?_, ?_, ?_⟩
    · intro device member
      exact blank device (by simp [Ports.items, member])
    · intro entry member
      exact knows entry (List.mem_append_left _ member)
    · simp only [List.nodup_cons, List.nodup_append, List.mem_append, not_or]
      grind
  obtain ⟨middle, run, holdsFound⟩ := merges heap found 0 under inner
  refine ⟨middle, placements devices.same found 0 under below, found, _,
    by simp only [placements, meets], by simp only [Ports.merged, meets], holdsRest,
    ⟨run, run.plugged plugged ?_, holdsFound, ?_, ?_⟩⟩
  · intro plain
    rw [devices.hub_of_same equal] at plain
    rw [leaf plain]
    rfl
  · intro entry member
    right
    apply scope
    exact (placements_port devices.same found 0 under below entry member).imp_left And.left
  · intro device inside
    apply scope
    exact inside.imp_right (merged_items devices.same under below device)

theorem attach_first (devices : Devices Content) (root : Ref) (heap : Heap) (hub : Ref)
    (index : Nat) (old : Ports Ref) (built : Ref) (below rest : Ports Ref)
    (ready : Attachable devices root heap hub index old (.occupied built below rest))
    (leaf : devices.isUsbHub built = false → below = .done)
    (merges : AttachesMerge devices root below) :
    AttachesFirst devices root heap hub index old built below rest := by
  cases meets : old.meet devices.same built with
  | none =>
      exact attach_first_new devices root heap hub index old built below rest ready leaf merges
        meets
  | some pair =>
      exact attach_first_met devices root heap hub index old built below rest ready leaf merges
        meets

theorem later_ports (same : Ref → Ref → Bool) {hub : Ref} {index : Nat} {old scan : Ports Ref}
    {entry : Ref × UsbPortImp} (member : entry ∈ placements same hub (index + 1) old scan)
    (nodup : (hub :: (old.items ++ scan.items)).Nodup) :
    entry.2 ≠ ⟨hub, index + 1⟩ ∧ entry.2.hub ∈ hub :: (old.items ++ scan.items) := by
  have notBelow := (List.nodup_cons.mp nodup).1
  rcases placements_port same hub (index + 1) old scan entry member with ⟨here, beyond⟩ | below
  · refine ⟨fun equal => ?_, by simp [here]⟩
    rw [equal] at beyond
    exact Nat.lt_irrefl _ beyond
  · have inside : entry.2.hub ∈ old.items ++ scan.items := List.mem_append.mpr below
    refine ⟨fun equal => ?_, List.mem_cons_of_mem _ inside⟩
    rw [equal] at inside
    exact notBelow inside

theorem Attachable.nodup_rest {devices : Devices Content} {root : Ref} {heap : Heap} {hub : Ref}
    {index : Nat} {old scan : Ports Ref} (ready : Attachable devices root heap hub index old scan) :
    (hub :: (old.rest.items ++ scan.rest.items)).Nodup :=
  ready.nodup.sublist (((Ports.rest_items old).append (Ports.rest_items scan)).cons_cons hub)

theorem attaches_merge (devices : Devices Content) (root : Ref) (scan : Ports Ref)
    (reported : Reported devices scan) : AttachesMerge devices root scan := by
  induction scan with
  | done =>
      intro heap hub index old ready
      exact ⟨heap, .done heap, ready.holds⟩
  | vacant rest ih =>
      intro heap hub index old ready
      obtain ⟨after, ran, holds⟩ := ih reported heap hub (index + 1) old.rest
        ⟨ready.holds.2, ready.above, ready.blank, ready.knows, ready.nodup_rest⟩
      refine ⟨after, ran, ?_, holds⟩
      rw [ran.others _ fun entry member => (later_ports devices.same member ready.nodup_rest).1]
      exact ready.holds.1
  | occupied built below rest ihBelow ihRest =>
      obtain ⟨_, leaf, reportedBelow, reportedRest⟩ := reported
      intro heap hub index old ready
      obtain ⟨middle, first, target, lower, placed, merged, holdsRest, done⟩ :=
        attach_first devices root heap hub index old built below rest ready leaf
          (ihBelow reportedBelow)
      have nodup := ready.nodup_rest
      have hubApart := (List.nodup_cons.mp nodup).1
      have next : Attachable devices root middle hub (index + 1) old.rest rest := by
        refine ⟨?_, done.run.in_tree ready.above, ?_, ?_, nodup⟩
        · refine holds_frame devices holdsRest (done.run.same_on hub (index + 1) _ ?_ ?_)
          · intro entry member same
            rcases done.inside entry member with here | away
            · rw [here]
            · exact absurd (by rw [same]; exact List.mem_cons_self) away
          · intro entry member inRest
            rw [Ports.pruned_items] at inRest
            have inLater : entry.2.hub ∈ old.rest.items ++ rest.items :=
              List.mem_append_left _ ((Ports.kept_sublist devices.same _ _).subset inRest)
            rcases done.inside entry member with here | away
            · rw [here] at inLater
              exact hubApart inLater
            · exact away (List.mem_cons_of_mem _ inLater)
        · intro device member number
          have inLater : device ∈ old.rest.items ++ rest.items := List.mem_append_right _ member
          rw [done.run.others ⟨device, number⟩ ?_]
          · exact ready.blank device (by simp [Ports.items, member]) number
          · intro entry placedThere same
            rcases done.inside entry placedThere with here | away
            · rw [here] at same
              injection same with same
              exact hubApart (same ▸ inLater)
            · rw [same] at away
              exact away (List.mem_cons_of_mem _ inLater)
        · intro entry member
          rw [done.run.ports, done.run.counts]
          exact ready.knows entry (by rw [placed]; exact List.mem_append_right _ member)
      obtain ⟨after, ran, holdsAfter⟩ := ihRest reportedRest middle hub (index + 1) old.rest next
      have away : ∀ entry ∈ placements devices.same hub (index + 1) old.rest rest, ∀ device,
          device = target ∨ device ∈ lower.items → entry.2.hub ≠ device := by
        intro entry member device inside same
        exact done.apart device inside (same ▸ (later_ports devices.same member nodup).2)
      refine ⟨after, ?_, ?_⟩
      · rw [placed]
        exact done.run.append ran
      · rw [merged]
        refine ⟨ran.plugged done.plugged done.plugged.leaf, ?_, holdsAfter⟩
        apply holds_frame devices done.holds
        apply ran.same_on target 0 lower.items
        · intro entry member same
          exact absurd same (away entry member target (Or.inl rfl))
        · intro entry member inLower
          exact away entry member _ (Or.inr inLower) rfl

/-! ### The whole update -/

theorem held_after_walk (devices : Devices Content) {heap after : Heap} {root : Ref}
    {old : Ports Ref} {scan : Scan devices} {placed : List (Ref × UsbPortImp)}
    (tree : DeviceTree devices heap root old) (fresh : Fresh scan root old)
    (walked : Walked heap after scan.ports.items placed) : Holds devices after root 0 old := by
  apply holds_frame devices tree.holds
  apply walked.same_on root 0 old.items
  · intro member
    exact fresh root member List.mem_cons_self
  · intro device member inScan
    exact fresh device inScan (List.mem_cons_of_mem root member)

theorem attach_all_known (heap : Heap) (connectedDevices : List Ref)
    (known : ∀ device ∈ connectedDevices, ∃ port, heap.usbPortImp device = some port) :
    ∃ after, attachAll heap connectedDevices = some after := by
  induction connectedDevices generalizing heap with
  | nil => exact ⟨heap, rfl⟩
  | cons device rest ih =>
      obtain ⟨port, own⟩ := known device (by simp)
      obtain ⟨after, looped⟩ := ih (heap.attachUsbDeviceImp port device)
        fun other member => known other (by simp [member])
      refine ⟨after, ?_⟩
      simp only [attachAll, List.foldlM_cons, attachToOwnPort, own, Option.map_some,
        Option.bind_eq_bind, Option.bind_some]
      exact looped

/-- An update comes to its end, whether or not its lists are exact. -/
theorem update_topology_ends (devices : Devices Content) (fuel : Nat) (heap : Heap) (root : Ref)
    (old : Ports Ref) (scan : Scan devices) (tree : DeviceTree devices heap root old)
    (fresh : Fresh scan root old) (deep : old.depth < fuel) :
    ∃ updated, updateTopology devices fuel heap root (some scan.ports) = some updated ∧
      updated.topologyUpdateResult = 0 := by
  obtain ⟨listed, after, listing, perm, walk, walked⟩ :=
    walk_topology_spec devices fuel heap root old scan tree fresh deep
  have holds := held_after_walk devices tree fresh walked
  have listedOld : ∀ device ∈ removeEach devices.same listed
      (Ports.kept devices.same old scan.ports), device ∈ old.items :=
    fun device member => perm.mem_iff.mp ((remove_each_sublist devices.same _ _).subset member)
  obtain ⟨detached, looped, disconnected⟩ := disconnect_all_spec after _
    fun device member => (holds_attached devices holds device (listedOld device member)).imp
      fun port facts => facts.1
  obtain ⟨attached, attachLoop⟩ := attach_all_known detached
    (Ports.added devices.same old scan.ports) (by
      intro device member
      rw [← placements_devices devices.same root 0] at member
      obtain ⟨entry, placedThere, rfl⟩ := List.mem_map.mp member
      refine ⟨entry.2, ?_⟩
      rw [disconnected.ports]
      exact (walked.placed entry placedThere).1)
  have visited : visitPorts devices root 0 scan.ports ⟨heap, [], listed⟩ =
      some ⟨after, Ports.added devices.same old scan.ports,
        removeEach devices.same listed (Ports.kept devices.same old scan.ports)⟩ := by
    simpa [walkTopology, listing] using walk
  simp only [updateTopology, listing, nativeTopologyUpdater, visited, looped, attachLoop,
    Option.bind_eq_bind, Option.bind_some, Option.map_some]
  exact ⟨_, rfl, rfl⟩

/-- Without a scan the disconnected list stays full: every device is
disconnected, although the update reports the failure. -/
theorem update_without_scan (devices : Devices Content) (fuel : Nat) (heap : Heap) (root : Ref)
    (old : Ports Ref) (tree : DeviceTree devices heap root old) (deep : old.depth < fuel) :
    ∃ listed detached, listed.Perm old.items ∧ disconnectAll heap listed = some detached ∧
      updateTopology devices fuel heap root none = some {
        heap := detached
        topologyUpdateResult := -1
        usbDeviceDetached := if listed = [] then none else some listed
        usbDeviceAttached := none } := by
  obtain ⟨listed, listing, perm⟩ := list_old_devices_spec devices fuel heap root old tree deep
  obtain ⟨detached, looped, _⟩ := disconnect_all_spec heap listed fun device member =>
    (holds_attached devices tree.holds device (perm.mem_iff.mp member)).imp
      fun port facts => facts.1
  refine ⟨listed, detached, perm, looped, ?_⟩
  simp only [updateTopology, listing, nativeTopologyUpdater, looped, attachAll, List.foldlM_nil,
    Option.bind_eq_bind, Option.bind_some, Option.pure_def, if_true]

/-- One update from a tree without equal devices, step by step. -/
structure UpdateRun (devices : Devices Content) (fuel : Nat) (heap : Heap) (root : Ref)
    (old scan : Ports Ref) (walked : WalkState) (detached : Heap) (updated : Updated) : Prop where
  update : updateTopology devices fuel heap root (some scan) = some updated
  walk : walkTopology devices fuel heap root scan = some walked
  connected : walked.connected = Ports.added devices.same old scan
  disconnected : ∀ device, device ∈ walked.disconnected ↔
    device ∈ old.items ∧ device ∉ Ports.kept devices.same old scan
  detach : disconnectAll walked.heap walked.disconnected = some detached
  attach : Attaching root detached (placements devices.same root 0 old scan) updated.heap
  tree : DeviceTree devices updated.heap root (Ports.merged devices.same id old scan)

theorem UpdateRun.reports {devices : Devices Content} {fuel : Nat} {heap : Heap} {root : Ref}
    {old scan : Ports Ref} {walked : WalkState} {detached : Heap} {updated : Updated}
    (run : UpdateRun devices fuel heap root old scan walked detached updated) :
    updated.topologyUpdateResult = 0 ∧
      updated.usbDeviceDetached =
        (if walked.disconnected = [] then none else some walked.disconnected) ∧
      updated.usbDeviceAttached =
        (if walked.connected = [] then none else some walked.connected) := by
  have walk := run.walk
  have update := run.update
  unfold walkTopology at walk
  unfold updateTopology at update
  cases listing : listOldDevices devices fuel heap root with
  | none => simp [listing] at walk
  | some listed =>
      simp only [listing, Option.bind_eq_bind, Option.bind_some] at walk update
      simp only [nativeTopologyUpdater, walk, Option.map_some, Option.bind_some,
        run.detach] at update
      cases attaches : attachAll detached walked.connected with
      | none => simp [attaches] at update
      | some attached =>
          simp only [attaches, Option.bind_some] at update
          rw [← Option.some.inj update]
          exact ⟨rfl, rfl, rfl⟩

/-- The condition under which the lists of the walk are exact. -/
def ListsExact (devices : Devices Content) (fuel : Nat) (heap : Heap) (root : Ref)
    (old scan : Ports Ref) : Prop :=
  ∀ listed, listOldDevices devices fuel heap root = some listed →
    NoEarlierTwin devices.same (Ports.Retained devices.same old scan) listed

theorem update_topology_exact (devices : Devices Content) (fuel : Nat) (heap : Heap) (root : Ref)
    (old : Ports Ref) (scan : Scan devices) (tree : DeviceTree devices heap root old)
    (fresh : Fresh scan root old) (deep : old.depth < fuel)
    (accurate : ListsExact devices fuel heap root old scan.ports) :
    ∃ walked detached updated,
      UpdateRun devices fuel heap root old scan.ports walked detached updated := by
  obtain ⟨listed, after, listing, perm, walk, walked⟩ :=
    walk_topology_spec devices fuel heap root old scan tree fresh deep
  have oldOnce : old.items.Nodup := (List.nodup_cons.mp tree.nodup).2
  have kept := Ports.kept_sublist devices.same old scan.ports
  have once : listed.Nodup := perm.nodup_iff.mpr oldOnce
  have twins := accurate listed listing
  simp only [NoEarlierTwin, Ports.retained_iff_mem_kept] at twins
  let gone := removeEach devices.same listed (Ports.kept devices.same old scan.ports)
  have leave : ∀ device, device ∈ gone ↔
      device ∈ old.items ∧ device ∉ Ports.kept devices.same old scan.ports := by
    simp only [← perm.mem_iff]
    exact (remove_each_exact_iff devices.same devices.same_law listed _ once
      (kept.nodup oldOnce) fun item member => perm.mem_iff.mpr (kept.subset member)).mpr twins
  have apart : ∀ device ∈ scan.ports.items, device ≠ root ∧ device ∉ old.items := by
    intro device member
    simpa using fresh device member
  have holds := held_after_walk devices tree fresh walked
  have placed : ∀ device ∈ gone, ∃ port, after.usbPortImp device = some port ∧
      after.attached port = some device :=
    fun device member => holds_attached devices holds device ((leave device).mp member).1
  obtain ⟨detached, looped, disconnected⟩ := disconnect_all_spec after gone
    fun device member => (placed device member).imp fun port facts => facts.1
  have ready : Attachable devices root detached root 0 old scan.ports := by
    refine ⟨?_, .root, ?_, ?_, ?_⟩
    · refine holds_pruned devices disconnected ?_ scan.ports root 0 old holds scan.reported
        oldOnce ?_
      · intro device member port known
        obtain ⟨place, knownPlace, attached⟩ := placed device member
        rw [known] at knownPlace
        rwa [Option.some.inj knownPlace]
      · intro device member
        simp [leave, member]
    · exact fun device member number => disconnected.empty (walked.empty ⟨device, number⟩ member)
    · intro entry member
      rw [disconnected.ports, disconnected.counts]
      exact walked.placed entry member
    · have rootApart : root ∉ old.items ++ scan.ports.items := by
        rw [List.mem_append, not_or]
        exact ⟨(List.nodup_cons.mp tree.nodup).1, fun member => (apart root member).1 rfl⟩
      refine List.nodup_cons.mpr ⟨rootApart, ?_⟩
      refine List.nodup_append.mpr ⟨oldOnce, scan.distinct, ?_⟩
      intro device inOld other inScan same
      exact (apart other inScan).2 (same ▸ inOld)
  obtain ⟨attached, run, holdsMerged⟩ :=
    attaches_merge devices root scan.ports scan.reported detached root 0 old ready
  have attachLoop := run.loop
  rw [placements_devices] at attachLoop
  refine ⟨⟨after, Ports.added devices.same old scan.ports, gone⟩, detached, ⟨attached, 0,
    if gone = [] then none else some gone, if Ports.added devices.same old scan.ports = [] then none
      else some (Ports.added devices.same old scan.ports)⟩, ?_, walk, rfl, leave, looped, run, ?_⟩
  · have visited : visitPorts devices root 0 scan.ports ⟨heap, [], listed⟩ =
        some ⟨after, Ports.added devices.same old scan.ports, gone⟩ := by
      simpa [walkTopology, listing] using walk
    simp only [updateTopology, listing, nativeTopologyUpdater, visited, looped, attachLoop,
      Option.bind_eq_bind, Option.bind_some, Option.map_some]
    rfl
  · refine ⟨tree.hub, holdsMerged, ?_⟩
    have merged := Ports.merged_items_perm devices.same id old scan.ports
    rw [List.map_id] at merged
    refine (List.Perm.cons root merged).nodup_iff.mpr (ready.nodup.sublist ?_)
    exact (kept.append (Ports.added_sublist devices.same old scan.ports)).cons_cons root

theorem lists_exact_of_distinct (devices : Devices Content) (fuel : Nat) (heap : Heap)
    (root : Ref) (old scan : Ports Ref) (tree : DeviceTree devices heap root old)
    (deep : old.depth < fuel)
    (distinct : old.items.Pairwise fun left right => devices.same left right = false) :
    ListsExact devices fuel heap root old scan := by
  intro listed listing
  obtain ⟨below, listedBelow, perm⟩ :=
    list_old_devices_spec devices fuel heap root old tree deep
  obtain rfl : below = listed := Option.some.inj (listedBelow.symm.trans listing)
  have different : below.Pairwise fun left right => devices.same left right = false :=
    perm.symm.pairwise distinct fun {left right} unequal => by
      rw [devices.same_comm]
      exact unequal
  apply different.imp
  intro earlier later unequal equal
  rw [unequal] at equal
  contradiction

theorem update_topology_spec (devices : Devices Content) (fuel : Nat) (heap : Heap) (root : Ref)
    (old : Ports Ref) (scan : Scan devices) (tree : DeviceTree devices heap root old)
    (fresh : Fresh scan root old) (deep : old.depth < fuel)
    (distinct : old.items.Pairwise fun left right => devices.same left right = false) :
    ∃ walked detached updated,
      UpdateRun devices fuel heap root old scan.ports walked detached updated :=
  update_topology_exact devices fuel heap root old scan tree fresh deep
    (lists_exact_of_distinct devices fuel heap root old scan.ports tree deep distinct)

/-- The update realises the scan: every attach finds its port empty and its
hub in the tree, and in the end every port carries an equal of the scanned
device, which is the old object where a device was retained. -/
theorem update_realises_scan (devices : Devices Content) (fuel : Nat) (heap : Heap) (root : Ref)
    (old : Ports Ref) (scan : Scan devices) (tree : DeviceTree devices heap root old)
    (fresh : Fresh scan root old) (deep : old.depth < fuel)
    (distinct : old.items.Pairwise fun left right => devices.same left right = false) :
    ∃ walked detached updated,
      walkTopology devices fuel heap root scan.ports = some walked ∧
      disconnectAll walked.heap walked.disconnected = some detached ∧
      updateTopology devices fuel heap root (some scan.ports) = some updated ∧
      (∀ earlier device later, walked.connected = earlier ++ device :: later →
        ∃ before port, attachAll detached earlier = some before ∧
          before.usbPortImp device = some port ∧ before.attached port = none ∧
          before.InTree root port.hub) ∧
      (∀ path, Option.Rel (fun device scanned => devices.same device scanned = true)
        (updated.heap.deviceAt path root) (scan.ports.itemAt path)) ∧
      ∀ path, Ports.MetAt devices.same path old scan.ports →
        updated.heap.deviceAt path root = heap.deviceAt path root := by
  obtain ⟨walked, detached, updated, run⟩ :=
    update_topology_spec devices fuel heap root old scan tree fresh deep distinct
  refine ⟨walked, detached, updated, run.walk, run.detach, run.update, ?_, ?_, ?_⟩
  · intro earlier device later split
    rw [run.connected, ← placements_devices devices.same root 0 old scan.ports] at split
    obtain ⟨early, rest, placed, rfl, tail⟩ := List.map_eq_append_iff.mp split
    obtain ⟨entry, late, rfl, rfl, _⟩ := List.map_eq_cons_iff.mp tail
    obtain ⟨before, found⟩ := run.attach.at_each placed
    exact ⟨before, entry.2, found⟩
  · intro path
    rw [device_at_of_holds devices run.tree.holds path]
    exact Ports.merged_hit_at devices.same devices.same_law.refl path old scan.ports
  · intro path met
    rw [device_at_of_holds devices run.tree.holds path,
      device_at_of_holds devices tree.holds path]
    exact Ports.merged_keeps devices.same id path old scan.ports met

/-- The mouse 2 has been replaced by the camera 6; the keyboard 3 is found again. -/
def mouseAndKeyboard : Devices (Bool × Nat) :=
  exampleDevices fun device => if device = 2 then 7 else if device = 6 then 9 else 8

def mouseReplaced : Scan mouseAndKeyboard where
  ports := .occupied 4 (.occupied 6 .done (.occupied 5 .done .done)) .done
  reported := by
    refine ⟨by decide, fun plain => ?_, ⟨by decide, fun _ => rfl, trivial,
      by decide, fun _ => rfl, trivial, trivial⟩, trivial⟩
    simp [Devices.isUsbHub, mouseAndKeyboard, exampleDevices, exampleJar] at plain
  narrow := by decide
  distinct := by decide

theorem mouse_replaced_fresh : Fresh mouseReplaced 0 twoMice := by
  intro device member
  have scanned : device = 4 ∨ device = 6 ∨ device = 5 := by
    simpa [mouseReplaced, Ports.items] using member
  rcases scanned with rfl | rfl | rfl <;> decide

theorem update_realises_scan_mouse_replaced :
    (walkTopology mouseAndKeyboard 3 twoMiceHeap 0 mouseReplaced.ports).map
      (fun walked => walked.connected) = some [6] ∧
    ∃ walked detached updated,
      walkTopology mouseAndKeyboard 3 twoMiceHeap 0 mouseReplaced.ports = some walked ∧
      disconnectAll walked.heap walked.disconnected = some detached ∧
      updateTopology mouseAndKeyboard 3 twoMiceHeap 0 (some mouseReplaced.ports) = some updated ∧
      (∀ earlier device later, walked.connected = earlier ++ device :: later →
        ∃ before port, attachAll detached earlier = some before ∧
          before.usbPortImp device = some port ∧ before.attached port = none ∧
          before.InTree 0 port.hub) ∧
      (∀ path, Option.Rel (fun device scanned => mouseAndKeyboard.same device scanned = true)
        (updated.heap.deviceAt path 0) (mouseReplaced.ports.itemAt path)) ∧
      ∀ path, Ports.MetAt mouseAndKeyboard.same path twoMice mouseReplaced.ports →
        updated.heap.deviceAt path 0 = twoMiceHeap.deviceAt path 0 :=
  ⟨rfl, update_realises_scan mouseAndKeyboard 3 twoMiceHeap 0 twoMice mouseReplaced
    (two_mice_tree _) mouse_replaced_fresh (by decide) (by decide)⟩

end JavaxUsbLinux.TopologyUpdate
