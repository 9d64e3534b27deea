import JavaxUsbLinux.DescriptorRoundTrip
import JavaxUsbLinux.DescriptorStream

/-!
# Where a configuration ends

The loop of `build_config` goes on while `pos` is less than `wTotalLength`. Both
are under the control of the device, so the last descriptor may reach beyond the
end, and the next configuration is then read from a wrong place.
-/

namespace JavaxUsbLinux.DescriptorFraming

open JavaxUsbLinux.Descriptors
open JavaxUsbLinux.DescriptorLayout
open JavaxUsbLinux.DescriptorRoundTrip
open JavaxUsbLinux.DescriptorStream

set_option autoImplicit false

/-! ### The loop with a limited number of descriptors -/

/-- `buildDescriptors` with at most `reads` calls of `get_descriptor`; `none` if
these are not enough. -/
def buildDescriptorsWithin (node : Node) (config wTotalLength : Nat) :
    Nat → Nat → Option Nat → UsbDeviceImp → List UInt8 →
      Option (Option (UsbDeviceImp × List UInt8))
  | 0, pos, _, device, bytes =>
      if pos < wTotalLength then none else some (some (device, bytes))
  | reads + 1, pos, iface, device, bytes =>
      if pos < wTotalLength then
        match getDescriptor node bytes with
        | none => some none
        | some (desc, left) =>
            if desc.byte 0 < 2 then some none
            else
              match buildByType node left device config iface desc with
              | none => some none
              | some (iface, device) =>
                  buildDescriptorsWithin node config wTotalLength reads
                    (pos + (desc.byte 0).toNat) iface device left
      else some (some (device, bytes))

def buildConfigWithin (node : Node) (reads : Nat) (device : UsbDeviceImp) (bytes : List UInt8) :
    Option (Option (UsbDeviceImp × List UInt8)) :=
  match getDescriptor node bytes with
  | none => some none
  | some (desc, left) =>
      let cfgDesc := desc.asConfig
      let isActive := isConfigActive node left cfgDesc.bConfigurationValue
      let (config, device) := createUsbConfigImp device cfgDesc.bLength.toInt8
        cfgDesc.bDescriptorType.toInt8 cfgDesc.wTotalLength.toInt16 cfgDesc.bNumInterfaces.toInt8
        cfgDesc.bConfigurationValue.toInt8 cfgDesc.iConfiguration.toInt8
        cfgDesc.bmAttributes.toInt8 cfgDesc.bMaxPower.toInt8 isActive
      buildDescriptorsWithin node config cfgDesc.wTotalLength.toNat reads cfgDesc.bLength.toNat
        none device left

def totalLength (node : Node) (bytes : List UInt8) : Nat :=
  match getDescriptor node bytes with
  | none => 0
  | some (desc, _) => desc.asConfig.wTotalLength.toNat

/-- `build_config` fails, or it has read exactly the `wTotalLength` bytes of a
configuration made of whole descriptors; and it always ends in time. -/
def ConfigFramed (node : Node) (device : UsbDeviceImp) (bytes : List UInt8) : Prop :=
  (∀ after left, buildConfig node device bytes = some (after, left) →
    left = bytes.drop (totalLength node bytes) ∧
    ∃ (header : List UInt8) (descs : List (List UInt8)),
      Framed header ∧ header[1]? = some usbDtConfig ∧
      (∀ desc ∈ descs, Framed desc) ∧ bytes = header ++ (descs.flatten ++ left) ∧
      header.length + descs.flatten.length = totalLength node bytes) ∧
  buildConfigWithin node (totalLength node bytes / 2) device bytes =
    some (buildConfig node device bytes)

structure Follows (bytes : List UInt8) (descs : List (List UInt8)) (rest : List UInt8) :
    Prop where
  bytes : bytes = descs.flatten ++ rest
  ordinary : ∀ desc ∈ descs, Framed desc ∧ ordinary desc = true

def Blocked (bytes : List UInt8) : Prop :=
  ∀ desc left, cut bytes = some (desc, left) → ordinary desc = false

/-- There is no first descriptor; or a blocked place comes before the end at
`total`; or the first descriptor is one of a configuration and a later one, or
the first itself, ends exactly at `total`. -/
def FramingCondition (total : Nat) (bytes : List UInt8) : Prop :=
  cut bytes = none ∨ ∃ header left, cut bytes = some (header, left) ∧
    ((∃ descs rest, Follows left descs rest ∧ header.length + descs.flatten.length < total ∧
      Blocked rest) ∨
    (header[1]? = some usbDtConfig ∧ ∃ descs rest, Follows left descs rest ∧
      header.length + descs.flatten.length = total))

theorem follows_nil (bytes : List UInt8) : Follows bytes [] bytes where
  bytes := rfl
  ordinary _ member := absurd member List.not_mem_nil

theorem follows_cons {bytes desc left rest : List UInt8} {descs : List (List UInt8)}
    (found : cut bytes = some (desc, left)) (passes : ordinary desc = true)
    (later : Follows left descs rest) : Follows bytes (desc :: descs) rest := by
  obtain ⟨framed, rfl⟩ := cut_framed found
  constructor
  · rw [later.bytes, List.flatten_cons, List.append_assoc]
  · intro other member
    rcases List.mem_cons.mp member with rfl | member
    · exact ⟨framed, passes⟩
    · exact later.ordinary other member

theorem follows_inv {bytes desc rest : List UInt8} {descs : List (List UInt8)}
    (follows : Follows bytes (desc :: descs) rest) : ∃ left,
    cut bytes = some (desc, left) ∧ ordinary desc = true ∧ Follows left descs rest := by
  obtain ⟨framed, passes⟩ := follows.ordinary desc List.mem_cons_self
  refine ⟨descs.flatten ++ rest, ?_, passes, rfl, ?_⟩
  · rw [follows.bytes, List.flatten_cons, List.append_assoc]
    exact cut_append framed _
  · intro other member
    exact follows.ordinary other (List.mem_cons_of_mem desc member)

/-! ### Where the loop ends -/

theorem cut_items_ends {total : Nat} (pos : Nat) (bytes : List UInt8) :
    ∀ left, (cutItems total pos bytes).2 = some left → ∃ descs, Follows bytes descs left ∧
      total ≤ pos + descs.flatten.length := by
  induction pos, bytes using cut_induction total with
  | done pos bytes done =>
      intro left ends
      rw [cut_items_done bytes done] at ends
      cases ends
      exact ⟨[], follows_nil bytes, by simpa using done⟩
  | missing pos bytes more missing =>
      intro left ends
      rw [cut_items_none more missing] at ends
      cases ends
  | stop pos bytes desc later more found stops =>
      intro left ends
      rw [cut_items_stop more found stops] at ends
      cases ends
  | next pos bytes desc later more found passes ih =>
      intro left ends
      rw [cut_items_next more found passes] at ends
      obtain ⟨descs, follows, reached⟩ := ih left ends
      refine ⟨desc :: descs, follows_cons found passes follows, ?_⟩
      rw [List.flatten_cons, List.length_append]
      omega

theorem cut_items_fails {total : Nat} (pos : Nat) (bytes : List UInt8) :
    (cutItems total pos bytes).2 = none → ∃ descs rest, Follows bytes descs rest ∧
      pos + descs.flatten.length < total ∧ Blocked rest := by
  induction pos, bytes using cut_induction total with
  | done pos bytes done =>
      intro fails
      rw [cut_items_done bytes done] at fails
      cases fails
  | missing pos bytes more missing =>
      intro _
      refine ⟨[], bytes, follows_nil bytes, more, ?_⟩
      intro desc left found
      rw [missing] at found
      cases found
  | stop pos bytes desc later more found stops =>
      intro _
      refine ⟨[], bytes, follows_nil bytes, more, ?_⟩
      intro other left here
      rw [found] at here
      cases here
      exact stops
  | next pos bytes desc later more found passes ih =>
      intro fails
      rw [cut_items_next more found passes] at fails
      obtain ⟨descs, rest, follows, before, blocked⟩ := ih fails
      refine ⟨desc :: descs, rest, follows_cons found passes follows, ?_, blocked⟩
      rw [List.flatten_cons, List.length_append]
      omega

theorem cut_items_exact {total : Nat} (descs : List (List UInt8)) (pos : Nat)
    {bytes rest : List UInt8} (follows : Follows bytes descs rest)
    (exact : pos + descs.flatten.length = total) : (cutItems total pos bytes).2 = some rest := by
  induction descs generalizing pos bytes with
  | nil =>
      rw [follows.bytes, cut_items_done _ (by simp at exact; omega)]
      rfl
  | cons desc descs ih =>
      obtain ⟨left, found, passes, later⟩ := follows_inv follows
      have long := ordinary_long passes
      rw [List.flatten_cons, List.length_append] at exact
      rw [cut_items_next (by omega) found passes]
      exact ih (pos + desc.length) later (by omega)

theorem cut_items_blocked {total : Nat} (descs : List (List UInt8)) (pos : Nat)
    {bytes rest : List UInt8} (follows : Follows bytes descs rest)
    (before : pos + descs.flatten.length < total) (blocked : Blocked rest) :
    (cutItems total pos bytes).2 = none := by
  induction descs generalizing pos bytes with
  | nil =>
      have here : bytes = rest := follows.bytes
      have more : pos < total := by simpa using before
      rw [here]
      cases found : cut rest with
      | none => rw [cut_items_none more found]
      | some parts => rw [cut_items_stop more found (blocked _ _ found)]
  | cons desc descs ih =>
      obtain ⟨left, found, passes, later⟩ := follows_inv follows
      rw [List.flatten_cons, List.length_append] at before
      rw [cut_items_next (by omega) found passes]
      exact ih (pos + desc.length) later (by omega)

/-! ### The parser cuts the stream -/

theorem build_by_type_next (node : Node) (left : List UInt8) (device : UsbDeviceImp)
    (config : Nat) (iface : Option Nat) {desc : List UInt8} (passes : ordinary desc = true)
    (past : Nat → UInt8) : ∃ next after,
    buildByType node left device config iface ⟨desc, past⟩ = some (next, after) := by
  have succeeds := build_by_type_ordinary node left device config iface past (ordinary_long passes)
  rw [passes] at succeeds
  obtain ⟨⟨next, after⟩, built⟩ := Option.isSome_iff_exists.mp succeeds
  exact ⟨next, after, built⟩

theorem byte_short {desc : List UInt8} (framed : Framed desc) (past : Nat → UInt8) :
    (⟨desc, past⟩ : Buffer).byte 0 < 2 ↔ desc.length < 2 := by
  rw [UInt8.lt_iff_toNat_lt, framed_length framed]
  rfl

theorem build_descriptors_left (node : Node) (config total pos : Nat) (bytes : List UInt8) :
    ∀ iface device, (buildDescriptors node config total pos iface device bytes).map Prod.snd =
      (cutItems total pos bytes).2 := by
  induction pos, bytes using cut_induction total with
  | done pos bytes done =>
      intro iface device
      rw [build_descriptors_done _ _ _ _ _ _ _ done, cut_items_done bytes done]
      rfl
  | missing pos bytes more missing =>
      intro iface device
      rw [cut_items_none more missing,
        build_descriptors_missing config iface device more (read_missing node missing)]
      rfl
  | stop pos bytes desc left more found stops =>
      intro iface device
      rw [cut_items_stop more found stops,
        build_descriptors_found config iface device more (read_found node found)]
      simp only [byte_short (cut_framed found).1]
      split_ifs with short
      · rfl
      · have fails := build_by_type_ordinary node left device config iface (node.stray left)
          (Nat.not_lt.mp short)
        rw [stops, Option.isSome_eq_false_iff, Option.isNone_iff_eq_none] at fails
        simp only [fails, Option.bind_none, Option.map_none]
  | next pos bytes desc left more found passes ih =>
      intro iface device
      have length := framed_length (cut_framed found).1 (node.stray left)
      obtain ⟨next, after, built⟩ :=
        build_by_type_next node left device config iface passes (node.stray left)
      rw [build_descriptors_step more (read_found node found)
        (by rw [length]; exact ordinary_long passes) built, length,
        cut_items_next more found passes]
      exact ih next after

/-- The bytes after a configuration that was read. -/
theorem build_config_left (node : Node) (device : UsbDeviceImp) {bytes header left : List UInt8}
    (found : cut bytes = some (header, left)) :
    (buildConfig node device bytes).map Prod.snd =
      (cutItems (totalLength node bytes) header.length left).2 := by
  have length : (Buffer.asConfig ⟨header, node.stray left⟩).bLength.toNat = header.length :=
    framed_length (cut_framed found).1 (node.stray left)
  simp only [buildConfig, read_found node found, totalLength]
  rw [build_descriptors_left, length]

/-! ### The number of descriptors -/

/-- Two bytes for each descriptor are enough to come to the end. -/
theorem within_enough (node : Node) (config total reads : Nat) : ∀ pos iface device bytes,
    total ≤ pos + 2 * reads →
      buildDescriptorsWithin node config total reads pos iface device bytes =
        some (buildDescriptors node config total pos iface device bytes) := by
  induction reads with
  | zero =>
      intro pos iface device bytes enough
      have done : ¬ pos < total := by omega
      rw [buildDescriptorsWithin, if_neg done, build_descriptors_done _ _ _ _ _ _ _ done]
  | succ reads ih =>
      intro pos iface device bytes enough
      by_cases more : pos < total
      · rw [buildDescriptorsWithin, if_pos more]
        cases found : getDescriptor node bytes with
        | none => rw [build_descriptors_missing config iface device more found]
        | some parts =>
            obtain ⟨desc, left⟩ := parts
            rw [build_descriptors_found config iface device more found]
            simp only
            split_ifs with short
            · rfl
            · cases built : buildByType node left device config iface desc with
              | none => rfl
              | some parts =>
                  rw [UInt8.lt_iff_toNat_lt] at short
                  simp only [UInt8.reduceToNat] at short
                  exact ih _ _ _ _ (by omega)
      · rw [buildDescriptorsWithin, if_neg more, build_descriptors_done _ _ _ _ _ _ _ more]

theorem config_within (node : Node) (device : UsbDeviceImp) (bytes : List UInt8) :
    buildConfigWithin node (totalLength node bytes / 2) device bytes =
      some (buildConfig node device bytes) := by
  cases found : cut bytes with
  | none => simp only [buildConfigWithin, buildConfig, read_missing node found]
  | some parts =>
      obtain ⟨header, left⟩ := parts
      have length : (Buffer.asConfig ⟨header, node.stray left⟩).bLength.toNat = header.length :=
        framed_length (cut_framed found).1 (node.stray left)
      have positive := framed_positive (cut_framed found).1
      simp only [buildConfigWithin, buildConfig, totalLength, read_found node found]
      apply within_enough
      omega

/-! ### Main result -/

theorem framing_of_condition {node : Node} {device : UsbDeviceImp} {bytes : List UInt8}
    (condition : FramingCondition (totalLength node bytes) bytes) :
    ConfigFramed node device bytes := by
  refine ⟨?_, config_within node device bytes⟩
  intro after left built
  rcases condition with missing | ⟨header, later, found, stops | exact⟩
  · simp [buildConfig, read_missing node missing] at built
  · obtain ⟨descs, rest, follows, before, blocked⟩ := stops
    have ends := build_config_left node device found
    rw [built, cut_items_blocked descs header.length follows before blocked] at ends
    cases ends
  · obtain ⟨type, descs, rest, follows, total⟩ := exact
    have ends := build_config_left node device found
    rw [built, cut_items_exact descs header.length follows total] at ends
    have same : left = rest := Option.some.inj ends
    obtain ⟨framed, its⟩ := cut_framed found
    have tiled : bytes = header ++ (descs.flatten ++ left) := by rw [its, follows.bytes, same]
    refine ⟨?_, header, descs, framed, type, ?_, tiled, total⟩
    · rw [← total, tiled, ← List.append_assoc, ← List.length_append, List.drop_left]
    · exact fun desc member => (follows.ordinary desc member).1

theorem condition_of_framing {node : Node} {device : UsbDeviceImp} {bytes : List UInt8}
    (framed : ConfigFramed node device bytes) :
    FramingCondition (totalLength node bytes) bytes := by
  cases found : cut bytes with
  | none => exact Or.inl found
  | some parts =>
      obtain ⟨header, later⟩ := parts
      refine Or.inr ⟨header, later, found, ?_⟩
      have ends := build_config_left node device found
      cases built : buildConfig node device bytes with
      | none =>
          rw [built] at ends
          exact Or.inl (cut_items_fails header.length later ends.symm)
      | some result =>
          obtain ⟨after, left⟩ := result
          rw [built] at ends
          obtain ⟨descs, follows, _⟩ := cut_items_ends header.length later left ends.symm
          obtain ⟨_, first, others, whole, type, _, tiled, total⟩ := framed.1 after left built
          -- the bytes determine the first descriptor and how much was read
          rw [tiled, cut_append whole, Option.some.injEq, Prod.mk.injEq] at found
          obtain ⟨rfl, rest⟩ := found
          refine Or.inr ⟨type, descs, left, follows, ?_⟩
          have lengths := congrArg List.length (rest.trans follows.bytes)
          simp only [List.length_append] at lengths
          omega

/-- `build_config` frames a configuration if and only if it fails, or the first
descriptor is one of a configuration and a descriptor ends at `wTotalLength`. -/
theorem config_framed_iff (node : Node) (device : UsbDeviceImp) (bytes : List UInt8) :
    ConfigFramed node device bytes ↔ FramingCondition (totalLength node bytes) bytes :=
  ⟨condition_of_framing, framing_of_condition⟩

def silentNode : Node where
  checks := ⟨false, false, true, false⟩
  slow := false
  stray _ _ := 0
  getConfiguration _ := none
  devicesFile _ _ := none
  getInterface _ _ := none

/-- A configuration of 11 bytes, whose second descriptor gives its length as 4
instead of 2, and after it another configuration. -/
def crossing : List UInt8 :=
  [9, 2, 11, 0, 0, 1, 0, 128, 50, 4, 33, 9, 2, 9, 0, 0, 2, 0, 128, 50]

theorem config_crosses_end :
    (buildConfig silentNode .blank crossing).map Prod.snd = some (crossing.drop 13) ∧
      totalLength silentNode crossing = 11 ∧ ¬ ConfigFramed silentNode .blank crossing := by
  have found : cut crossing = some (crossing.take 9, crossing.drop 9) := by decide
  have total : totalLength silentNode crossing = 11 := by decide
  have ends : (buildConfig silentNode .blank crossing).map Prod.snd =
      some (crossing.drop 13) := by
    have second : cut (crossing.drop 9) = some ([4, 33, 9, 2], crossing.drop 13) := by decide
    rw [build_config_left silentNode .blank found, total,
      cut_items_next (by decide) second (by decide), cut_items_done _ (by decide)]
  refine ⟨ends, total, ?_⟩
  intro framed
  obtain ⟨⟨after, left⟩, built, same⟩ := Option.map_eq_some_iff.mp ends
  have consumed := same.symm.trans (framed.1 after left built).1
  rw [total] at consumed
  exact absurd consumed (by decide)

end JavaxUsbLinux.DescriptorFraming
