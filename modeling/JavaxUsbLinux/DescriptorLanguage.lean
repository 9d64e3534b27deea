import JavaxUsbLinux.DescriptorBounds

/-!
# The streams of descriptors that are accepted

A stream describes a device if it is made of the bytes of its descriptors and if in
each configuration the last descriptor is the first one to reach `wTotalLength`. The
parser accepts these streams alone, up to the accesses past the end of a descriptor,
and the description of a stream is unique.
-/

namespace JavaxUsbLinux.DescriptorLanguage

open JavaxUsbLinux.BufferReads
open JavaxUsbLinux.Descriptors
open JavaxUsbLinux.DescriptorLayout
open JavaxUsbLinux.DescriptorRoundTrip
open JavaxUsbLinux.DescriptorStream
open JavaxUsbLinux.DescriptorFraming
open JavaxUsbLinux.DescriptorBounds

set_option autoImplicit false

/-! ### Descriptions -/

/-- A descriptor inside a configuration. A stub is an endpoint descriptor that is too
short for its struct. -/
inductive Entry where
  | item (item : Item)
  | stub (bLength : UInt8) (payload : List UInt8) (length : bLength.toNat = 2 + payload.length)
      (short : payload.length < 5)

namespace Entry

def bytes : Entry → List UInt8
  | .item layout => layout.bytes
  | .stub bLength payload _ _ => bLength :: usbDtEndpoint :: payload

def isInterface : Entry → Bool
  | .item (.interface _) => true
  | _ => false

/-- A stub is not read before the first interface of its configuration, but for the
address in a message. -/
def Fits (printing seen : Bool) : Entry → Prop
  | .item _ => True
  | .stub _ payload _ _ => seen = false ∧ (printing = true → payload ≠ [])

def described : Entry → Option Item
  | .item layout => some layout
  | .stub .. => none

end Entry

def Placed (printing : Bool) : Bool → List Entry → Prop
  | _, [] => True
  | seen, entry :: entries =>
      entry.Fits printing seen ∧ Placed printing (seen || entry.isInterface) entries

def Ends (total : Nat) : Nat → List (List UInt8) → Prop
  | pos, [] => total ≤ pos
  | pos, desc :: descs => pos < total ∧ Ends total (pos + desc.length) descs

/-- A configuration; its type is not looked at. -/
structure ConfigStream (printing : Bool) where
  fields : JusbConfigDescriptor
  extra : List UInt8
  entries : List Entry
  length : fields.bLength.toNat = 9 + extra.length
  placed : Placed printing false entries
  ends : Ends fields.wTotalLength.toNat fields.bLength.toNat (entries.map Entry.bytes)

structure DeviceStream (printing : Bool) where
  fields : JusbDeviceDescriptor
  extra : List UInt8
  configs : List (ConfigStream printing)
  length : fields.bLength.toNat = 18 + extra.length
  count : fields.bNumConfigurations.toNat = configs.length

variable {printing : Bool}

namespace ConfigStream

def header (stream : ConfigStream printing) : List UInt8 :=
  configBytes stream.fields ++ stream.extra

def bytes (stream : ConfigStream printing) : List UInt8 :=
  stream.header ++ (stream.entries.map Entry.bytes).flatten

def items (stream : ConfigStream printing) : List Item :=
  stream.entries.filterMap Entry.described

end ConfigStream

namespace DeviceStream

def header (stream : DeviceStream printing) : List UInt8 :=
  deviceBytes stream.fields ++ stream.extra

def bytes (stream : DeviceStream printing) : List UInt8 :=
  stream.header ++ (stream.configs.map ConfigStream.bytes).flatten

end DeviceStream

/-! ### Bytes and fields -/

theorem low_byte_word (low high : UInt8) :
    lowByte (low.toUInt16 + 256 * high.toUInt16) = low := by
  have bounds : low.toNat < 256 ∧ high.toNat < 256 := ⟨low.toNat_lt, high.toNat_lt⟩
  apply UInt8.toNat_inj.mp
  rw [lowByte, UInt8.toNat_ofNat', UInt16.toNat_add, UInt16.toNat_mul, UInt8.toNat_toUInt16,
    UInt8.toNat_toUInt16]
  simp only [UInt16.reduceToNat]
  omega

theorem high_byte_word (low high : UInt8) :
    highByte (low.toUInt16 + 256 * high.toUInt16) = high := by
  have bounds : low.toNat < 256 ∧ high.toNat < 256 := ⟨low.toNat_lt, high.toNat_lt⟩
  apply UInt8.toNat_inj.mp
  rw [highByte, UInt8.toNat_ofNat', UInt16.toNat_add, UInt16.toNat_mul, UInt8.toNat_toUInt16,
    UInt8.toNat_toUInt16]
  simp only [UInt16.reduceToNat]
  omega

theorem take_bytes {desc : List UInt8} (past : Nat → UInt8) {count : Nat}
    (long : count ≤ desc.length) :
    desc.take count = (List.range count).map (⟨desc, past⟩ : Buffer).byte := by
  apply List.ext_getElem?
  intro index
  rw [List.getElem?_take, List.getElem?_map]
  split_ifs with inside
  · rw [List.getElem?_range inside, byte_inside past (by omega)]
    rfl
  · rw [List.getElem?_eq_none (by simpa using inside)]
    rfl

theorem device_bytes_as {desc : List UInt8} (past : Nat → UInt8) (long : 18 ≤ desc.length) :
    deviceBytes (⟨desc, past⟩ : Buffer).asDevice ++ desc.drop 18 = desc := by
  have front : deviceBytes (⟨desc, past⟩ : Buffer).asDevice = desc.take 18 := by
    rw [take_bytes past long]
    simp only [deviceBytes, Buffer.asDevice, Buffer.word, low_byte_word, high_byte_word]
    rfl
  rw [front, List.take_append_drop]

theorem config_bytes_as {desc : List UInt8} (past : Nat → UInt8) (long : 9 ≤ desc.length) :
    configBytes (⟨desc, past⟩ : Buffer).asConfig ++ desc.drop 9 = desc := by
  have front : configBytes (⟨desc, past⟩ : Buffer).asConfig = desc.take 9 := by
    rw [take_bytes past long]
    simp only [configBytes, Buffer.asConfig, Buffer.word, low_byte_word, high_byte_word]
    rfl
  rw [front, List.take_append_drop]

theorem interface_bytes_as {desc : List UInt8} (past : Nat → UInt8) (long : 9 ≤ desc.length) :
    interfaceBytes (⟨desc, past⟩ : Buffer).asInterface ++ desc.drop 9 = desc := by
  have front : interfaceBytes (⟨desc, past⟩ : Buffer).asInterface = desc.take 9 := by
    rw [take_bytes past long]
    rfl
  rw [front, List.take_append_drop]

theorem endpoint_bytes_as {desc : List UInt8} (past : Nat → UInt8) (long : 7 ≤ desc.length) :
    endpointBytes (⟨desc, past⟩ : Buffer).asEndpoint ++ desc.drop 7 = desc := by
  have front : endpointBytes (⟨desc, past⟩ : Buffer).asEndpoint = desc.take 7 := by
    rw [take_bytes past long]
    simp only [endpointBytes, Buffer.asEndpoint, Buffer.word, low_byte_word, high_byte_word]
    rfl
  rw [front, List.take_append_drop]

theorem fields_injective {Fields : Type} {encode : Fields → List UInt8}
    {decode : Buffer → Fields} (decodes : ∀ fields extra past,
      decode ⟨encode fields ++ extra, past⟩ = fields) {first second : Fields}
    {extra other : List UInt8} (same : encode first ++ extra = encode second ++ other) :
    first = second ∧ extra = other := by
  have fields : first = second := by
    rw [← decodes first extra fun _ => 0, same, decodes]
  exact ⟨fields, List.append_cancel_left (fields ▸ same)⟩

/-! ### One descriptor -/

theorem entry_framed (entry : Entry) : Framed entry.bytes := by
  cases entry with
  | item layout => exact item_framed layout
  | stub bLength payload length short =>
      refine ⟨bLength, _, rfl, ?_⟩
      rw [length, List.length_cons]
      omega

theorem interface_type (layout : InterfaceLayout) :
    (Item.interface layout).bytes[1]? = some usbDtInterface :=
  congrArg some layout.type

theorem endpoint_type (layout : EndpointLayout) :
    (Item.endpoint layout).bytes[1]? = some usbDtEndpoint :=
  congrArg some layout.type

theorem other_type (layout : OtherLayout) :
    (Item.other layout).bytes[1]? = some layout.bDescriptorType := rfl

theorem entry_ordinary (entry : Entry) : ordinary entry.bytes = true := by
  cases entry with
  | stub => rfl
  | item layout =>
      cases layout with
      | interface layout =>
          simp [Entry.bytes, Item.bytes, interfaceBytes, ordinary, layout.type, usbDtInterface,
            usbDtDevice, usbDtConfig]
      | endpoint layout =>
          simp [Entry.bytes, Item.bytes, endpointBytes, ordinary, layout.type, usbDtEndpoint,
            usbDtDevice, usbDtConfig]
      | other layout =>
          simp [Entry.bytes, Item.bytes, ordinary, layout.notDevice, layout.notConfig]

theorem entry_interface (entry : Entry) :
    (entry.bytes[1]? == some usbDtInterface) = entry.isInterface := by
  cases entry with
  | stub => rfl
  | item layout =>
      cases layout with
      | interface layout => rw [Entry.bytes, interface_type]; rfl
      | endpoint layout => rw [Entry.bytes, endpoint_type]; rfl
      | other layout =>
          rw [Entry.bytes, other_type]
          simp [layout.notInterface, Entry.isInterface]

theorem needed_interface (seen : Bool) {desc : List UInt8}
    (type : desc[1]? = some usbDtInterface) : needed printing seen desc = 9 :=
  if_pos type

theorem needed_endpoint (seen : Bool) {desc : List UInt8} (type : desc[1]? = some usbDtEndpoint) :
    needed printing seen desc = if seen then 7 else if printing then 3 else 0 := by
  rw [needed, type, if_neg (by decide), if_pos rfl]

/-- The bytes that are read of an entry are there exactly if it fits its place. -/
theorem entry_needed (seen : Bool) (entry : Entry) :
    needed printing seen entry.bytes ≤ entry.bytes.length ↔ entry.Fits printing seen := by
  cases entry with
  | item layout =>
      refine iff_of_true ?_ trivial
      show needed printing seen layout.bytes ≤ layout.bytes.length
      cases layout with
      | interface layout =>
          rw [needed_interface seen (interface_type layout)]
          simp [Item.bytes, interfaceBytes]
      | endpoint layout =>
          rw [needed_endpoint seen (endpoint_type layout)]
          simp only [Item.bytes, endpointBytes, List.length_append, List.length_cons]
          split_ifs <;> omega
      | other layout =>
          rw [needed, other_type]
          simp [layout.notInterface, layout.notEndpoint]
  | stub bLength payload length short =>
      rw [needed_endpoint seen rfl]
      simp only [Entry.bytes, List.length_cons, Entry.Fits]
      cases seen with
      | true => exact iff_of_false (by simp; omega) (by simp)
      | false =>
          cases printing with
          | false => simp
          | true => cases payload <;> simp

theorem placed_iff (entries : List Entry) (seen : Bool) :
    ItemsLong printing seen (entries.map Entry.bytes) ↔ Placed printing seen entries := by
  induction entries generalizing seen with
  | nil => exact Iff.rfl
  | cons entry entries ih =>
      rw [List.map_cons, ItemsLong, Placed, entry_needed, entry_interface, ih]

theorem entry_of_desc {desc : List UInt8} (framed : Framed desc) (passes : ordinary desc = true)
    {seen : Bool} (long : needed printing seen desc ≤ desc.length) :
    ∃ entry : Entry, entry.bytes = desc := by
  obtain ⟨bLength, tail, rfl, length⟩ := framed
  match tail with
  | [] => cases passes
  | type :: payload =>
      have second : (bLength :: type :: payload)[1]? = some type := rfl
      by_cases interface : type = usbDtInterface
      · subst interface
        have whole : 9 ≤ (bLength :: usbDtInterface :: payload).length := by
          rwa [needed, if_pos second] at long
        have parts := interface_bytes_as (fun _ => 0) whole
        refine ⟨.item (.interface ⟨_, _, ?_, rfl⟩), parts⟩
        show bLength.toNat = _
        simp only [List.length_drop, List.length_cons] at length whole ⊢
        omega
      · by_cases endpoint : type = usbDtEndpoint
        · subst endpoint
          by_cases short : payload.length < 5
          · exact ⟨.stub bLength payload (by rw [length, List.length_cons]; omega) short, rfl⟩
          · have whole : 7 ≤ (bLength :: usbDtEndpoint :: payload).length := by
              simp only [List.length_cons]
              omega
            have parts := endpoint_bytes_as (fun _ => 0) whole
            refine ⟨.item (.endpoint ⟨_, _, ?_, rfl⟩), parts⟩
            show bLength.toNat = _
            simp only [List.length_drop, List.length_cons] at length whole ⊢
            omega
        · simp only [ordinary, Bool.and_eq_true, bne_iff_ne, ne_eq] at passes
          exact ⟨.item (.other ⟨bLength, type, payload, by rw [length, List.length_cons]; omega,
            passes.1, passes.2, interface, endpoint⟩), rfl⟩

theorem item_injective {first second : Item} (same : first.bytes = second.bytes) :
    first = second := by
  have typed : first.bytes[1]? = second.bytes[1]? := by rw [same]
  have apart : usbDtInterface ≠ usbDtEndpoint := by decide
  match first, second with
  | .interface ⟨fields, extra, _, _⟩, .interface ⟨other, more, _, _⟩ =>
      obtain ⟨rfl, rfl⟩ := fields_injective as_interface same
      rfl
  | .endpoint ⟨fields, extra, _, _⟩, .endpoint ⟨other, more, _, _⟩ =>
      obtain ⟨rfl, rfl⟩ := fields_injective as_endpoint same
      rfl
  | .other ⟨length, type, payload, _, _, _, _, _⟩, .other ⟨other, kind, more, _, _, _, _, _⟩ =>
      simp only [Item.bytes, List.cons.injEq] at same
      obtain ⟨rfl, rfl, rfl⟩ := same
      rfl
  | .interface layout, .endpoint other =>
      rw [interface_type, endpoint_type, Option.some.injEq] at typed
      exact absurd typed apart
  | .endpoint layout, .interface other =>
      rw [interface_type, endpoint_type, Option.some.injEq] at typed
      exact absurd typed.symm apart
  | .interface layout, .other other =>
      rw [interface_type, other_type, Option.some.injEq] at typed
      exact absurd typed.symm other.notInterface
  | .other layout, .interface other =>
      rw [interface_type, other_type, Option.some.injEq] at typed
      exact absurd typed layout.notInterface
  | .endpoint layout, .other other =>
      rw [endpoint_type, other_type, Option.some.injEq] at typed
      exact absurd typed.symm other.notEndpoint
  | .other layout, .endpoint other =>
      rw [endpoint_type, other_type, Option.some.injEq] at typed
      exact absurd typed layout.notEndpoint

theorem stub_not_item {bLength : UInt8} {payload : List UInt8} (short : payload.length < 5)
    (layout : Item) : layout.bytes ≠ bLength :: usbDtEndpoint :: payload := by
  intro same
  have typed : layout.bytes[1]? = some usbDtEndpoint := by rw [same]; rfl
  cases layout with
  | interface layout =>
      rw [interface_type] at typed
      exact absurd typed (by decide)
  | endpoint layout =>
      have lengths := congrArg List.length same
      simp only [Item.bytes, endpointBytes, List.length_append, List.length_cons] at lengths
      omega
  | other layout =>
      rw [other_type, Option.some.injEq] at typed
      exact layout.notEndpoint typed

theorem entry_injective : Function.Injective Entry.bytes := by
  intro first second same
  match first, second with
  | .item layout, .item other => rw [item_injective same]
  | .item layout, .stub _ _ _ short => exact absurd same (stub_not_item short layout)
  | .stub _ _ _ short, .item other => exact absurd same.symm (stub_not_item short other)
  | .stub length payload _ _, .stub other more _ _ =>
      simp only [Entry.bytes, List.cons.injEq, true_and] at same
      obtain ⟨rfl, rfl⟩ := same
      rfl

/-! ### The descriptors of a configuration -/

/-- The loop cuts the bytes of the entries into the entries. -/
theorem cut_items_entries {total pos : Nat} (entries : List Entry) (rest : List UInt8)
    (ends : Ends total pos (entries.map Entry.bytes)) :
    cutItems total pos ((entries.map Entry.bytes).flatten ++ rest) =
      (entries.map Entry.bytes, some rest) := by
  induction entries generalizing pos with
  | nil => exact cut_items_done rest (Nat.not_lt.mpr ends)
  | cons entry entries ih =>
      rw [List.map_cons, List.flatten_cons, List.append_assoc,
        cut_items_next ends.1 (cut_append (entry_framed entry) _) (entry_ordinary entry),
        ih ends.2]

theorem entries_of_cut {total : Nat} (pos : Nat) (bytes : List UInt8) :
    ∀ seen rest, (cutItems total pos bytes).2 = some rest →
      ItemsLong printing seen (cutItems total pos bytes).1 →
      ∃ entries : List Entry, bytes = (entries.map Entry.bytes).flatten ++ rest ∧
        Placed printing seen entries ∧ Ends total pos (entries.map Entry.bytes) := by
  induction pos, bytes using cut_induction total with
  | done pos bytes done =>
      intro seen rest ends long
      rw [cut_items_done bytes done] at ends
      obtain rfl := Option.some.inj ends
      exact ⟨[], rfl, trivial, Nat.not_lt.mp done⟩
  | missing pos bytes more missing =>
      intro seen rest ends
      rw [cut_items_none more missing] at ends
      contradiction
  | stop pos bytes desc left more found stops =>
      intro seen rest ends
      rw [cut_items_stop more found stops] at ends
      contradiction
  | next pos bytes desc left more found passes ih =>
      intro seen rest ends long
      rw [cut_items_next more found passes] at ends long
      obtain ⟨here, later⟩ := long
      obtain ⟨framed, rfl⟩ := cut_framed found
      obtain ⟨entry, rfl⟩ := entry_of_desc framed passes here
      rw [entry_interface] at later
      obtain ⟨entries, rfl, placed, reached⟩ := ih _ rest ends later
      refine ⟨entry :: entries, ?_, ⟨(entry_needed seen entry).mp here, placed⟩, more, reached⟩
      rw [List.map_cons, List.flatten_cons, List.append_assoc]

/-! ### The objects of a description -/

/-- The switch of `build_config` on an entry; nothing is created for a stub. -/
theorem build_by_type_entry (node : Node) (left : List UInt8) (device : UsbDeviceImp)
    (config first seen : Nat) (numbered : device.interfaces.length = first + seen) (entry : Entry)
    (fits : entry.Fits printing (decide (seen ≠ 0))) (past : Nat → UInt8) : ∃ after,
    buildByType node left device config (current first seen) ⟨entry.bytes, past⟩ =
        some (current first (seen + (interfacesOf config entry.described.toList).length), after) ∧
      Adds device after [] (interfacesOf config entry.described.toList)
        (endpointsOf first seen entry.described.toList) := by
  cases entry with
  | item layout => exact build_by_type_item node left device config first seen numbered layout past
  | stub bLength payload length short =>
      have none : seen = 0 := by simpa using fits.1
      subst none
      exact ⟨device, rfl, Adds.nothing device⟩

theorem seen_next (config seen : Nat) (entry : Entry) :
    decide (seen + (interfacesOf config entry.described.toList).length ≠ 0) =
      (decide (seen ≠ 0) || entry.isInterface) := by
  cases entry with
  | stub => simp [Entry.described, interfacesOf, Entry.isInterface]
  | item layout => cases layout <;> simp [Entry.described, interfacesOf, Entry.isInterface]

theorem described_cons (entry : Entry) (entries : List Entry) :
    (entry :: entries).filterMap Entry.described =
      entry.described.toList ++ entries.filterMap Entry.described := by
  cases entry <;> rfl

theorem interfaces_of_append (config : Nat) (items more : List Item) :
    interfacesOf config (items ++ more) =
      interfacesOf config items ++ interfacesOf config more := by
  induction items with
  | nil => rfl
  | cons item items ih =>
      rw [List.cons_append, interfaces_of_cons, ih, interfaces_of_cons config item items,
        List.append_assoc]

theorem endpoints_of_append (config first seen : Nat) (items more : List Item) :
    endpointsOf first seen (items ++ more) = endpointsOf first seen items ++
      endpointsOf first (seen + (interfacesOf config items).length) more := by
  induction items generalizing seen with
  | nil => rfl
  | cons item items ih =>
      rw [List.cons_append, endpoints_of_cons config, ih, endpoints_of_cons config first seen item
        items, interfaces_of_cons config item items, List.length_append, List.append_assoc,
        Nat.add_assoc]

/-- The loop of `build_config` on entries, with the bytes `rest` after the last one. -/
theorem build_descriptors_entries (node : Node) (config first total : Nat) (entries : List Entry)
    (rest : List UInt8) (pos seen : Nat) (device : UsbDeviceImp)
    (placed : Placed printing (decide (seen ≠ 0)) entries)
    (ends : Ends total pos (entries.map Entry.bytes))
    (numbered : device.interfaces.length = first + seen) : ∃ after,
    buildDescriptors node config total pos (current first seen) device
        ((entries.map Entry.bytes).flatten ++ rest) = some (after, rest) ∧
      Adds device after [] (interfacesOf config (entries.filterMap Entry.described))
        (endpointsOf first seen (entries.filterMap Entry.described)) := by
  induction entries generalizing pos seen device with
  | nil =>
      exact ⟨device, build_descriptors_done node config _ pos _ device rest (Nat.not_lt.mpr ends),
        Adds.nothing device⟩
  | cons entry entries ih =>
      have framed := entry_framed entry
      have length := framed_length framed
        (node.stray ((entries.map Entry.bytes).flatten ++ rest))
      obtain ⟨middle, built, adds⟩ := build_by_type_entry node
        ((entries.map Entry.bytes).flatten ++ rest) device config first seen numbered entry placed.1
        (node.stray ((entries.map Entry.bytes).flatten ++ rest))
      obtain ⟨after, done, more⟩ := ih (pos + entry.bytes.length)
        (seen + (interfacesOf config entry.described.toList).length) middle
        (by rw [seen_next]; exact placed.2) ends.2
        (by rw [adds.interfaces, List.length_append, numbered, Nat.add_assoc])
      refine ⟨after, ?_, ?_⟩
      · rw [List.map_cons, List.flatten_cons, List.append_assoc,
          build_descriptors_step ends.1 (get_descriptor_append node framed _)
            (by rw [length]; exact ordinary_long (entry_ordinary entry)) built, length]
        exact done
      · rw [described_cons, interfaces_of_append, endpoints_of_append config]
        exact adds.trans more

theorem config_header_framed (stream : ConfigStream printing) : Framed stream.header := by
  refine ⟨stream.fields.bLength, _, rfl, ?_⟩
  rw [stream.length]
  simp
  omega

theorem config_header_as (stream : ConfigStream printing) (past : Nat → UInt8) :
    (⟨stream.header, past⟩ : Buffer).asConfig = stream.fields :=
  as_config stream.fields stream.extra past

theorem build_config_stream (node : Node) (stream : ConfigStream printing) (rest : List UInt8)
    (device : UsbDeviceImp) : ∃ after,
    buildConfig node device (stream.bytes ++ rest) = some (after, rest) ∧
      Adds device after [configImp stream.fields]
        (interfacesOf device.configs.length stream.items)
        (endpointsOf device.interfaces.length 0 stream.items) := by
  rw [ConfigStream.bytes, List.append_assoc]
  simp only [buildConfig, get_descriptor_append node (config_header_framed stream),
    config_header_as]
  obtain ⟨after, done, adds⟩ := build_descriptors_entries node device.configs.length
    device.interfaces.length stream.fields.wTotalLength.toNat stream.entries rest
    stream.fields.bLength.toNat 0
    { device with
      configs := device.configs ++ [configImp stream.fields]
      activeConfigNumber :=
        if isConfigActive node ((stream.entries.map Entry.bytes).flatten ++ rest)
            stream.fields.bConfigurationValue then stream.fields.bConfigurationValue.toInt8
        else device.activeConfigNumber } stream.placed stream.ends rfl
  refine ⟨after, done, ?_, ?_, ?_, ?_⟩
  · exact adds.descriptor
  · rw [adds.configs, List.append_nil]
  · exact adds.interfaces
  · exact adds.endpoints

def streamInterfaces (config : Nat) : List (ConfigStream printing) → List UsbInterfaceImp
  | [] => []
  | stream :: configs =>
      interfacesOf config stream.items ++ streamInterfaces (config + 1) configs

def streamEndpoints (first : Nat) : List (ConfigStream printing) → List UsbEndpointImp
  | [] => []
  | stream :: configs => endpointsOf first 0 stream.items ++
      streamEndpoints (first + (interfacesOf 0 stream.items).length) configs

theorem build_configs_stream (node : Node) (configs : List (ConfigStream printing))
    (rest : List UInt8) (device : UsbDeviceImp) : ∃ after,
    buildConfigs node configs.length device ((configs.map ConfigStream.bytes).flatten ++ rest) =
        some (after, rest) ∧
      Adds device after (configs.map fun stream => configImp stream.fields)
        (streamInterfaces device.configs.length configs)
        (streamEndpoints device.interfaces.length configs) := by
  induction configs generalizing device with
  | nil => exact ⟨device, rfl, Adds.nothing device⟩
  | cons stream configs ih =>
      obtain ⟨middle, built, adds⟩ := build_config_stream node stream
        ((configs.map ConfigStream.bytes).flatten ++ rest) device
      obtain ⟨after, done, more⟩ := ih middle
      refine ⟨after, ?_, ?_⟩
      · rw [List.map_cons, List.flatten_cons, List.append_assoc, List.length_cons, buildConfigs,
          built]
        exact done
      · have numbers : middle.configs.length = device.configs.length + 1 ∧
            middle.interfaces.length =
              device.interfaces.length + (interfacesOf 0 stream.items).length := by
          rw [adds.configs, adds.interfaces, List.length_append, List.length_append,
            interfaces_of_length _ 0]
          exact ⟨rfl, rfl⟩
        rw [numbers.1, numbers.2] at more
        exact adds.trans more

theorem device_header_framed (stream : DeviceStream printing) : Framed stream.header := by
  refine ⟨stream.fields.bLength, _, rfl, ?_⟩
  rw [stream.length]
  simp
  omega

theorem device_header_as (stream : DeviceStream printing) (past : Nat → UInt8) :
    (⟨stream.header, past⟩ : Buffer).asDevice = stream.fields :=
  as_device stream.fields stream.extra past

/-- The objects of the device are those of the description, in their order and with
their fields. -/
structure Describes (stream : DeviceStream printing) (device : UsbDeviceImp) : Prop where
  descriptor : device.descriptor = some (deviceImp stream.fields)
  configs : device.configs = stream.configs.map fun config => configImp config.fields
  interfaces : device.interfaces = streamInterfaces 0 stream.configs
  endpoints : device.endpoints = streamEndpoints 0 stream.configs

theorem build_device_stream (node : Node) (stream : DeviceStream printing) (rest : List UInt8) :
    ∃ device, buildDevice node (stream.bytes ++ rest) = some (device, rest) ∧
      Describes stream device := by
  rw [DeviceStream.bytes, List.append_assoc]
  simp only [buildDevice, get_descriptor_append node (device_header_framed stream),
    device_header_as, stream.count]
  obtain ⟨after, done, adds⟩ := build_configs_stream node stream.configs rest
    (configureUsbDeviceImp .blank stream.fields.bLength.toInt8
      stream.fields.bDescriptorType.toInt8 stream.fields.bDeviceClass.toInt8
      stream.fields.bDeviceSubClass.toInt8 stream.fields.bDeviceProtocol.toInt8
      stream.fields.bMaxPacketSize0.toInt8 stream.fields.iManufacturer.toInt8
      stream.fields.iProduct.toInt8 stream.fields.iSerialNumber.toInt8
      stream.fields.bNumConfigurations.toInt8 stream.fields.idVendor.toInt16
      stream.fields.idProduct.toInt16 stream.fields.bcdDevice.toInt16
      stream.fields.bcdUSB.toInt16 (if node.slow then "1.5 Mbps" else "12 Mbps"))
  exact ⟨after, done, adds.descriptor, adds.configs, adds.interfaces, adds.endpoints⟩

/-! ### Nothing else is accepted -/

theorem config_of_parsed {node : Node} {device after : UsbDeviceImp}
    {bytes rest header left : List UInt8}
    (parsed : buildConfig node device bytes = some (after, rest))
    (found : cut bytes = some (header, left)) (long : 9 ≤ header.length)
    (items : ItemsLong printing false (cutItems (statedTotal header) header.length left).1) :
    (cutItems (statedTotal header) header.length left).2 = some rest ∧
      ∃ stream : ConfigStream printing, bytes = stream.bytes ++ rest := by
  have total : totalLength node bytes = statedTotal header := by
    simp only [totalLength, read_found node found]
    exact stated_total _ long
  have ends := build_config_left node device found
  rw [parsed, total, Option.map_some] at ends
  refine ⟨ends.symm, ?_⟩
  obtain ⟨entries, same, placed, reached⟩ :=
    entries_of_cut header.length left false rest ends.symm items
  obtain ⟨framed, rfl⟩ := cut_framed found
  have length := framed_length framed fun _ => 0
  have parts := config_bytes_as (fun _ => 0) long
  refine ⟨⟨(⟨header, fun _ => 0⟩ : Buffer).asConfig, header.drop 9, entries, ?_, placed, ?_⟩, ?_⟩
  · show ((⟨header, fun _ => 0⟩ : Buffer).byte 0).toNat = _
    rw [length, List.length_drop]
    omega
  · show Ends (statedTotal header) ((⟨header, fun _ => 0⟩ : Buffer).byte 0).toNat _
    rw [length]
    exact reached
  · rw [ConfigStream.bytes, ConfigStream.header, parts, List.append_assoc, same]

theorem configs_of_parsed {node : Node} {after : UsbDeviceImp} {rest : List UInt8} (ncfg : Nat)
    (device : UsbDeviceImp) (bytes : List UInt8)
    (parsed : buildConfigs node ncfg device bytes = some (after, rest))
    (long : ConfigsLong printing (cutConfigs ncfg bytes)) :
    ∃ configs : List (ConfigStream printing), configs.length = ncfg ∧
      bytes = (configs.map ConfigStream.bytes).flatten ++ rest := by
  induction ncfg generalizing device bytes with
  | zero =>
      obtain ⟨_, rfl⟩ := Prod.ext_iff.mp (Option.some.inj parsed)
      exact ⟨[], rfl, rfl⟩
  | succ ncfg ih =>
      rw [buildConfigs] at parsed
      cases found : cut bytes with
      | none => simp [buildConfig, read_missing node found] at parsed
      | some parts =>
          obtain ⟨header, left⟩ := parts
          cases built : buildConfig node device bytes with
          | none => simp [built] at parsed
          | some pair =>
              obtain ⟨middle, more⟩ := pair
              rw [built] at parsed
              simp only [cutConfigs, found] at long
              have first := long _ List.mem_cons_self
              obtain ⟨ends, stream, rfl⟩ := config_of_parsed built found first.1 first.2
              rw [ends] at long
              obtain ⟨configs, rfl, rfl⟩ := ih middle more parsed
                fun config member => long config (List.mem_cons_of_mem _ member)
              exact ⟨stream :: configs, rfl, by simp⟩

theorem device_of_parsed {node : Node} {device : UsbDeviceImp} {bytes rest : List UInt8}
    (safe : (buildDeviceReads ⟨node, true, true, printing⟩ bytes).Safe)
    (parsed : buildDevice node bytes = some (device, rest)) :
    ∃ stream : DeviceStream printing, bytes = stream.bytes ++ rest := by
  cases found : cut bytes with
  | none => simp [buildDevice, read_missing node found] at parsed
  | some parts =>
      obtain ⟨header, left⟩ := parts
      obtain ⟨_, whole⟩ := (device_safe ⟨node, true, true, printing⟩ found).mp safe
      obtain ⟨long, configsLong⟩ := whole (by simp [endsEarly])
      obtain ⟨framed, rfl⟩ := cut_framed found
      have count := byte_inside (fun _ => 0) (show 17 < header.length from long)
      simp only [buildDevice, read_found node found] at parsed
      have sameCount : (⟨header, node.stray left⟩ : Buffer).asDevice.bNumConfigurations =
          (⟨header, fun _ => 0⟩ : Buffer).asDevice.bNumConfigurations :=
        byte_past _ _ (show 17 < header.length from long)
      rw [sameCount] at parsed
      obtain ⟨configs, number, rfl⟩ := configs_of_parsed _ _ left parsed (configsLong _ count)
      have length := framed_length framed fun _ => 0
      have fields := device_bytes_as (fun _ => 0) long
      refine ⟨⟨(⟨header, fun _ => 0⟩ : Buffer).asDevice, header.drop 18, configs, ?_,
        number.symm⟩, ?_⟩
      · show ((⟨header, fun _ => 0⟩ : Buffer).byte 0).toNat = _
        rw [length, List.length_drop]
        omega
      · rw [DeviceStream.bytes, DeviceStream.header, fields, List.append_assoc]

/-! ### The descriptions have the accesses inside -/

theorem stated_total_stream (stream : ConfigStream printing) :
    statedTotal stream.header = stream.fields.wTotalLength.toNat := by
  have long : 9 ≤ stream.header.length := by
    simp [ConfigStream.header, configBytes]
  rw [← stated_total (fun _ => 0) long, config_header_as]

theorem config_header_length (stream : ConfigStream printing) :
    stream.header.length = stream.fields.bLength.toNat := by
  rw [stream.length]
  simp [ConfigStream.header, configBytes]
  omega

theorem configs_long (configs : List (ConfigStream printing)) (rest : List UInt8) :
    ConfigsLong printing
      (cutConfigs configs.length ((configs.map ConfigStream.bytes).flatten ++ rest)) := by
  induction configs with
  | nil => exact fun _ member => absurd member List.not_mem_nil
  | cons stream configs ih =>
      have found := cut_append (config_header_framed stream)
        ((stream.entries.map Entry.bytes).flatten ++
          ((configs.map ConfigStream.bytes).flatten ++ rest))
      have items := cut_items_entries stream.entries
        ((configs.map ConfigStream.bytes).flatten ++ rest) stream.ends
      rw [← config_header_length, ← stated_total_stream] at items
      rw [List.map_cons, List.flatten_cons, List.length_cons, ConfigStream.bytes]
      simp only [List.append_assoc, cutConfigs, found, items]
      intro config member
      rcases List.mem_cons.mp member with rfl | member
      · exact ⟨by simp [ConfigStream.header, configBytes],
          (placed_iff stream.entries false).mpr stream.placed⟩
      · exact ih config member

theorem device_stream_safe (node : Node) (stream : DeviceStream printing) (rest : List UInt8) :
    (buildDeviceReads ⟨node, true, true, printing⟩ (stream.bytes ++ rest)).Safe := by
  have found := cut_append (device_header_framed stream)
    ((stream.configs.map ConfigStream.bytes).flatten ++ rest)
  rw [DeviceStream.bytes, List.append_assoc,
    device_safe ⟨node, true, true, printing⟩ found]
  have long : 18 ≤ stream.header.length := by
    simp [DeviceStream.header, deviceBytes]
  refine ⟨by omega, fun _ => ⟨long, fun ncfg number => ?_⟩⟩
  have count : some stream.fields.bNumConfigurations = some ncfg := number
  rw [← Option.some.inj count, stream.count]
  exact configs_long stream.configs rest

/-! ### A stream has one description -/

theorem config_stream_injective {first second : ConfigStream printing}
    {rest other : List UInt8} (same : first.bytes ++ rest = second.bytes ++ other) :
    first = second ∧ rest = other := by
  rw [ConfigStream.bytes, ConfigStream.bytes, List.append_assoc, List.append_assoc] at same
  have cuts := congrArg cut same
  rw [cut_append (config_header_framed first), cut_append (config_header_framed second),
    Option.some.injEq, Prod.mk.injEq] at cuts
  obtain ⟨header, later⟩ := cuts
  obtain ⟨fields, extra, entries, length, placed, ends⟩ := first
  obtain ⟨otherFields, otherExtra, otherEntries, otherLength, otherPlaced, otherEnds⟩ := second
  obtain ⟨rfl, rfl⟩ := fields_injective as_config header
  have items := cut_items_entries entries rest ends
  rw [show (entries.map Entry.bytes).flatten ++ rest =
      (otherEntries.map Entry.bytes).flatten ++ other from later,
    cut_items_entries otherEntries other otherEnds, Prod.mk.injEq] at items
  obtain ⟨alike, ended⟩ := items
  obtain rfl := List.map_injective_iff.mpr entry_injective alike
  exact ⟨rfl, (Option.some.inj ended).symm⟩

theorem configs_injective {first second : List (ConfigStream printing)}
    {rest other : List UInt8} (lengths : first.length = second.length)
    (same : (first.map ConfigStream.bytes).flatten ++ rest =
      (second.map ConfigStream.bytes).flatten ++ other) : first = second ∧ rest = other := by
  induction first generalizing second with
  | nil =>
      obtain rfl := List.length_eq_zero_iff.mp lengths.symm
      exact ⟨rfl, same⟩
  | cons stream configs ih =>
      match second with
      | [] => simp at lengths
      | twin :: twins =>
          rw [List.map_cons, List.flatten_cons, List.map_cons, List.flatten_cons,
            List.append_assoc, List.append_assoc] at same
          obtain ⟨rfl, later⟩ := config_stream_injective same
          obtain ⟨rfl, ended⟩ := ih (Nat.succ.inj lengths) later
          exact ⟨rfl, ended⟩

theorem device_stream_injective {first second : DeviceStream printing} {rest other : List UInt8}
    (same : first.bytes ++ rest = second.bytes ++ other) : first = second ∧ rest = other := by
  rw [DeviceStream.bytes, DeviceStream.bytes, List.append_assoc, List.append_assoc] at same
  have cuts := congrArg cut same
  rw [cut_append (device_header_framed first), cut_append (device_header_framed second),
    Option.some.injEq, Prod.mk.injEq] at cuts
  obtain ⟨header, later⟩ := cuts
  obtain ⟨fields, extra, configs, length, count⟩ := first
  obtain ⟨otherFields, otherExtra, otherConfigs, otherLength, otherCount⟩ := second
  obtain ⟨rfl, rfl⟩ := fields_injective as_device header
  obtain ⟨rfl, ended⟩ := configs_injective (count.symm.trans otherCount) later
  exact ⟨rfl, ended⟩

/-- The parser accepts some bytes and leaves `rest`, with all accesses inside the
descriptors, exactly if the bytes are the stream of a description and `rest`. The
description is unique, and its objects are the ones that are created. -/
theorem accepted_iff_described (node : Node) (printing : Bool) (bytes rest : List UInt8) :
    (((buildDeviceReads ⟨node, true, true, printing⟩ bytes).Safe ∧
        ∃ device, buildDevice node bytes = some (device, rest)) ↔
      ∃! stream : DeviceStream printing, bytes = stream.bytes ++ rest) ∧
    ∀ (stream : DeviceStream printing) (device : UsbDeviceImp), bytes = stream.bytes ++ rest →
      buildDevice node bytes = some (device, rest) → Describes stream device := by
  refine ⟨⟨?_, ?_⟩, ?_⟩
  · rintro ⟨safe, device, parsed⟩
    obtain ⟨stream, rfl⟩ := device_of_parsed safe parsed
    exact ⟨stream, rfl, fun twin same => (device_stream_injective same).1.symm⟩
  · rintro ⟨stream, rfl, _⟩
    obtain ⟨device, parsed, _⟩ := build_device_stream node stream rest
    exact ⟨device_stream_safe node stream rest, device, parsed⟩
  · rintro stream device rfl parsed
    obtain ⟨created, ended, describes⟩ := build_device_stream node stream rest
    obtain ⟨rfl, _⟩ := Prod.ext_iff.mp (Option.some.inj (parsed.symm.trans ended))
    exact describes

end JavaxUsbLinux.DescriptorLanguage
