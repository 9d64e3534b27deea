import JavaxUsbLinux.TopologyUpdate
import JavaxUsbLinux.Runs

/-!
# The events of the topology

A listener that drops the devices of each detached event and takes over those of
each attached event follows the device tree. After any sequence of updates, the
failed ones included, it knows exactly the devices of the tree, and the tree is
that of the latest scan.
-/

namespace JavaxUsbLinux.TopologyEvents

open JavaxUsbLinux.EqualRemoval
open JavaxUsbLinux.PortForest
open JavaxUsbLinux.DeviceHeap
open JavaxUsbLinux.TopologyWalk
open JavaxUsbLinux.TopologyDiff
open JavaxUsbLinux.TopologyUpdate
open JavaxUsbLinux.Runs

set_option autoImplicit false

variable {Content : Type*}

/-- The devices that a listener knows after the events of an update: the detached
event is fired before the attached event. -/
def follow (known : List Ref) (updated : Updated) : List Ref :=
  let left := match updated.usbDeviceDetached with
    | none => known
    | some gone => known.filter fun device => device ∉ gone
  match updated.usbDeviceAttached with
  | none => left
  | some new => left ++ new

/-- The services with a listener that has been there from the start. `latest` is
what the latest update found, which is nothing when it failed, and `objects` are
all device objects that have been created. -/
structure Services where
  heap : Heap
  latest : Ports Ref
  objects : List Ref
  known : List Ref

def started (root : Ref) (heap : Heap) : Services :=
  ⟨heap, .done, [root], []⟩

def found {devices : Devices Content} (scan : Option (Scan devices)) : Ports Ref :=
  (scan.map Scan.ports).getD .done

/-- An update with the objects of a new scan, or without a scan. The tree is as deep
as what the update before found. -/
def update (devices : Devices Content) (root : Ref) (services : Services)
    (scan : Option (Scan devices)) : Option (Services × Updated) :=
  if ∀ device ∈ (found scan).items, device ∉ services.objects then
    (updateTopology devices (services.latest.depth + 1) services.heap root
      (scan.map Scan.ports)).map fun updated =>
        (⟨updated.heap, found scan, services.objects ++ (found scan).items,
          follow services.known updated⟩, updated)
  else none

def updated (devices : Devices Content) (root : Ref) (services : Services)
    (scan : Option (Scan devices)) : Option Services :=
  (update devices root services scan).map Prod.fst

def Exact (devices : Devices Content) (root : Ref) (services : Services)
    (scan : Option (Scan devices)) : Prop :=
  ∀ walked tree, scan = some walked → DeviceTree devices services.heap root tree →
    ListsExact devices (services.latest.depth + 1) services.heap root tree walked.ports

/-- The tree of the services, and what the listener knows of it. -/
structure Followed (devices : Devices Content) (root : Ref) (services : Services)
    (tree : Ports Ref) : Prop where
  held : DeviceTree devices services.heap root tree
  created : ∀ device ∈ root :: tree.items, device ∈ services.objects
  depth : tree.depth = services.latest.depth
  matched : ∀ path, Option.Rel (fun device scanned => devices.same device scanned = true)
    (tree.itemAt path) (services.latest.itemAt path)
  known : services.known.Perm tree.items

/-- The events name devices that the listener knows, and devices that it does not. -/
structure Informs (known : List Ref) (updated : Updated) : Prop where
  detached : ∀ gone, updated.usbDeviceDetached = some gone →
    gone ≠ [] ∧ gone.Nodup ∧ ∀ device ∈ gone, device ∈ known
  attached : ∀ new, updated.usbDeviceAttached = some new →
    new ≠ [] ∧ new.Nodup ∧ ∀ device ∈ new, device ∉ known

theorem follow_lists {known gone new : List Ref} {updated : Updated}
    (detached : updated.usbDeviceDetached = if gone = [] then none else some gone)
    (attached : updated.usbDeviceAttached = if new = [] then none else some new) :
    follow known updated = (known.filter fun device => device ∉ gone) ++ new := by
  rw [follow, detached, attached]
  by_cases noneGone : gone = []
  · by_cases noneNew : new = [] <;> simp [noneGone, noneNew]
  · by_cases noneNew : new = [] <;> simp [noneGone, noneNew]

theorem informs_lists {known gone new : List Ref} {updated : Updated}
    (detached : updated.usbDeviceDetached = if gone = [] then none else some gone)
    (attached : updated.usbDeviceAttached = if new = [] then none else some new)
    (goneOnce : gone.Nodup) (goneKnown : ∀ device ∈ gone, device ∈ known)
    (newOnce : new.Nodup) (newUnknown : ∀ device ∈ new, device ∉ known) :
    Informs known updated := by
  constructor
  · intro fired same
    rw [detached] at same
    split_ifs at same with empty
    obtain rfl := Option.some.inj same
    exact ⟨empty, goneOnce, goneKnown⟩
  · intro fired same
    rw [attached] at same
    split_ifs at same with empty
    obtain rfl := Option.some.inj same
    exact ⟨empty, newOnce, newUnknown⟩

/-! ### An update without a scan -/

theorem item_at_done (path : List Nat) : (Ports.done : Ports Ref).itemAt path = none := by
  cases path <;> rfl

theorem all_disconnected (devices : Devices Content) {root : Ref} {heap detached : Heap}
    {tree : Ports Ref} {listed : List Ref} (held : DeviceTree devices heap root tree)
    (perm : listed.Perm tree.items) (looped : disconnectAll heap listed = some detached) :
    DeviceTree devices detached root .done := by
  obtain ⟨after, again, disconnected⟩ := disconnect_all_spec heap listed fun device member =>
    (holds_attached devices held.holds device (perm.mem_iff.mp member)).imp fun port facts =>
      facts.1
  obtain rfl : after = detached := Option.some.inj (again.symm.trans looped)
  refine ⟨held.hub, fun number beyond => ?_, by simp [Ports.items]⟩
  have vacated := vacated_slot devices disconnected held.holds (number - 1)
    fun device below present => perm.mem_iff.mpr (Ports.slot_item present)
  rwa [show 0 + (number - 1) + 1 = number by omega] at vacated

theorem failed_follows (devices : Devices Content) (root : Ref) {before after : Services}
    {reported : Updated} {tree : Ports Ref} (followed : Followed devices root before tree)
    (taken : update devices root before none = some (after, reported)) :
    Followed devices root after .done ∧ Informs before.known reported := by
  have deep : tree.depth < before.latest.depth + 1 := by
    rw [followed.depth]
    exact Nat.lt_succ_self _
  obtain ⟨listed, detached, perm, looped, run⟩ :=
    update_without_scan devices _ before.heap root tree followed.held deep
  simp only [update, Option.map_none, run, Option.ite_none_right_eq_some, Option.map_some,
    Option.some.injEq, Prod.mk.injEq] at taken
  obtain ⟨_, rfl, rfl⟩ := taken
  have known : ∀ device, device ∈ listed ↔ device ∈ before.known := fun device => by
    rw [perm.mem_iff, followed.known.mem_iff]
  have once : listed.Nodup := perm.nodup_iff.mpr (List.nodup_cons.mp followed.held.nodup).2
  refine ⟨⟨all_disconnected devices followed.held perm looped, ?_, rfl, ?_, ?_⟩,
    informs_lists rfl (if_pos rfl).symm once (fun device member => (known device).mp member)
      List.nodup_nil fun device member => absurd member List.not_mem_nil⟩
  · intro device member
    obtain rfl := List.mem_singleton.mp member
    exact List.mem_append_left _ (followed.created _ List.mem_cons_self)
  · intro path
    show Option.Rel _ _ ((Ports.done : Ports Ref).itemAt path)
    rw [item_at_done]
    exact Option.Rel.none
  · dsimp only
    rw [follow_lists rfl (if_pos rfl).symm, List.append_nil]
    refine List.Perm.of_eq (List.filter_eq_nil_iff.mpr ?_)
    intro device member
    simpa using (known device).mpr member

/-! ### An update with a scan -/

theorem scanned_follows (devices : Devices Content) (root : Ref) {before after : Services}
    {reported : Updated} {tree : Ports Ref} (scan : Scan devices)
    (followed : Followed devices root before tree)
    (exact : ListsExact devices (before.latest.depth + 1) before.heap root tree scan.ports)
    (taken : update devices root before (some scan) = some (after, reported)) :
    Followed devices root after (Ports.merged devices.same id tree scan.ports) ∧
      Informs before.known reported := by
  simp only [update, Option.map_some, Option.ite_none_right_eq_some] at taken
  obtain ⟨new, taken⟩ := taken
  have new : ∀ device ∈ scan.ports.items, device ∉ before.objects := new
  have fresh : Fresh scan root tree :=
    fun device member inTree => new device member (followed.created device inTree)
  have deep : tree.depth < before.latest.depth + 1 := by
    rw [followed.depth]
    exact Nat.lt_succ_self _
  obtain ⟨walked, detached, updated, run⟩ := update_topology_exact devices _ before.heap root tree
    scan followed.held fresh deep exact
  obtain ⟨_, detachedEvent, attachedEvent⟩ := run.reports
  simp only [run.update, Option.map_some, Option.some.injEq, Prod.mk.injEq] at taken
  obtain ⟨rfl, rfl⟩ := taken
  have treeOnce : tree.items.Nodup := (List.nodup_cons.mp followed.held.nodup).2
  have kept := Ports.kept_sublist devices.same tree scan.ports
  have added := Ports.added_sublist devices.same tree scan.ports
  have known : ∀ device, device ∈ before.known ↔ device ∈ tree.items :=
    fun device => followed.known.mem_iff
  have goneOnce : walked.disconnected.Nodup := by
    obtain ⟨listed, _, _, perm, walk, _⟩ :=
      walk_topology_spec devices _ before.heap root tree scan followed.held fresh deep
    obtain rfl := Option.some.inj (walk.symm.trans run.walk)
    exact (remove_each_sublist devices.same _ _).nodup (perm.nodup_iff.mpr treeOnce)
  refine ⟨⟨run.tree, ?_, Ports.merged_depth devices.same id tree scan.ports, ?_, ?_⟩,
    informs_lists detachedEvent attachedEvent goneOnce ?_ ?_ ?_⟩
  · intro device member
    rcases List.mem_cons.mp member with rfl | inMerged
    · exact List.mem_append_left _ (followed.created _ List.mem_cons_self)
    · rcases merged_items devices.same tree scan.ports device inMerged with inTree | inScan
      · exact List.mem_append_left _ (followed.created device (List.mem_cons_of_mem root inTree))
      · exact List.mem_append_right _ inScan
  · exact fun path => Ports.merged_hit_at devices.same devices.same_law.refl path tree scan.ports
  · -- what is not detached is what the walk has kept
    show (follow before.known updated).Perm _
    rw [follow_lists detachedEvent attachedEvent, run.connected]
    have merged := Ports.merged_items_perm devices.same id tree scan.ports
    rw [List.map_id] at merged
    refine List.Perm.trans ?_ merged.symm
    refine List.Perm.append_right _ ?_
    have knownOnce : before.known.Nodup := followed.known.nodup_iff.mpr treeOnce
    refine (List.perm_ext_iff_of_nodup (knownOnce.filter _) (kept.nodup treeOnce)).mpr ?_
    intro device
    simp only [List.mem_filter, known, run.disconnected, decide_eq_true_eq]
    constructor
    · rintro ⟨inTree, stays⟩
      by_contra left
      exact stays ⟨inTree, left⟩
    · exact fun inKept => ⟨kept.subset inKept, fun leaves => leaves.2 inKept⟩
  · exact fun device member => (known device).mpr ((run.disconnected device).mp member).1
  · rw [run.connected]
    exact added.nodup scan.distinct
  · intro device member inKnown
    rw [run.connected] at member
    exact new device (added.subset member)
      (followed.created device (List.mem_cons_of_mem root ((known device).mp inKnown)))

/-! ### Sequences of updates -/

theorem started_followed (devices : Devices Content) (root : Ref) (heap : Heap)
    (hub : devices.isUsbHub root = true) (empty : ∀ number, heap.attached ⟨root, number⟩ = none) :
    Followed devices root (started root heap) .done where
  held := ⟨hub, fun number _ => empty number, by simp [Ports.items]⟩
  created _ member := member
  depth := rfl
  matched path := by
    rw [started, item_at_done]
    exact Option.Rel.none
  known := List.Perm.refl []

theorem update_follows (devices : Devices Content) (root : Ref) {before after : Services}
    {reported : Updated} {tree : Ports Ref} {scan : Option (Scan devices)}
    (followed : Followed devices root before tree) (exact : Exact devices root before scan)
    (taken : update devices root before scan = some (after, reported)) :
    (∃ next, Followed devices root after next) ∧ Informs before.known reported := by
  cases scan with
  | none =>
      obtain ⟨next, informs⟩ := failed_follows devices root followed taken
      exact ⟨⟨_, next⟩, informs⟩
  | some scan =>
      obtain ⟨next, informs⟩ := scanned_follows devices root scan followed
        (exact scan tree rfl followed.held) taken
      exact ⟨⟨_, next⟩, informs⟩

/-- After any sequence of updates with exact lists, some of which may fail, the
listener knows exactly the devices of the tree, once each, and port for port the tree
has the devices of the latest scan. Every update tells the listener of devices that
leave only when it knows them, and of new ones only when it does not. -/
theorem listener_follows_tree (devices : Devices Content) (root : Ref) (heap : Heap)
    (hub : devices.isUsbHub root = true) (empty : ∀ number, heap.attached ⟨root, number⟩ = none)
    {services : Services}
    (reached : Reach (updated devices root) (Exact devices root) (started root heap) services) :
    services.known.Nodup ∧
      (∀ device, device ∈ services.known ↔ ∃ path, services.heap.deviceAt path root = some device) ∧
      (∀ path, Option.Rel (fun device scanned => devices.same device scanned = true)
        (services.heap.deviceAt path root) (services.latest.itemAt path)) ∧
      ∀ scan after reported, Exact devices root services scan →
        update devices root services scan = some (after, reported) →
          Informs services.known reported := by
  obtain ⟨tree, followed⟩ := reached.invariant
    (fun services => ∃ tree, Followed devices root services tree)
    ⟨.done, started_followed devices root heap hub empty⟩
    fun before scan after inv exact taken => by
      obtain ⟨tree, followed⟩ := inv
      obtain ⟨⟨after, reported⟩, step, rfl⟩ := Option.map_eq_some_iff.mp taken
      exact (update_follows devices root followed exact step).1
  have held (path : List Nat) : services.heap.deviceAt path root = tree.itemAt path :=
    device_at_of_holds devices followed.held.holds path
  refine ⟨?_, ?_, ?_, ?_⟩
  · exact followed.known.nodup_iff.mpr (List.nodup_cons.mp followed.held.nodup).2
  · intro device
    simp only [followed.known.mem_iff, Ports.mem_items_iff, held]
  · intro path
    rw [held]
    exact followed.matched path
  · exact fun scan after reported exact taken =>
      (update_follows devices root followed exact taken).2

theorem first_scan_exact (devices : Devices Content) (root : Ref) (heap : Heap)
    (empty : ∀ number, heap.attached ⟨root, number⟩ = none) (scan : Scan devices) :
    Exact devices root (started root heap) (some scan) := by
  intro walked tree _ held listed _
  apply List.pairwise_of_forall
  intro earlier later _ ⟨path, present, _⟩
  rw [← device_at_of_holds devices held.holds path] at present
  cases path with
  | nil => simp [Heap.deviceAt] at present
  | cons port path => simp [Heap.deviceAt, started, empty] at present

def emptyHeap : Heap where
  numberOfPorts _ := 0
  attached _ := none
  usbPortImp _ := none

theorem listener_follows_tree_mouse : ∃ services,
    run (updated equalMice 0) [some (firstMousePulled fun _ => 7), none] (started 0 emptyHeap) =
        some services ∧
      services.known.Nodup ∧
      ∀ device, device ∈ services.known ↔ ∃ path, services.heap.deviceAt path 0 = some device := by
  have ends : ((updated equalMice 0 (started 0 emptyHeap) (some (firstMousePulled fun _ => 7))).bind
      fun plugged => updated equalMice 0 plugged none).isSome = true := by decide
  obtain ⟨services, both⟩ := Option.isSome_iff_exists.mp ends
  obtain ⟨plugged, first, second⟩ := Option.bind_eq_some_iff.mp both
  have follows := listener_follows_tree equalMice 0 emptyHeap rfl (fun _ => rfl)
    (.next (.next .start (first_scan_exact equalMice 0 emptyHeap (fun _ => rfl) _) first)
      (fun walked tree none => by contradiction) second)
  refine ⟨services, ?_, follows.1, follows.2.1⟩
  simp [run, first, second]

end JavaxUsbLinux.TopologyEvents
