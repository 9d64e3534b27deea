import JavaxUsbLinux.DescriptorLayout

/-!
# Reading back a device description

The parser turns the layout of every description back into exactly the described
objects. One step of the loop of `build_config` adds the object of one descriptor;
the loop, the configurations and the device follow by induction over the
description.
-/

namespace JavaxUsbLinux.DescriptorRoundTrip

open JavaxUsbLinux.Descriptors
open JavaxUsbLinux.DescriptorLayout

set_option autoImplicit false

structure Adds (before after : UsbDeviceImp) (configs : List ConfigDescriptorImp)
    (interfaces : List UsbInterfaceImp) (endpoints : List UsbEndpointImp) : Prop where
  descriptor : after.descriptor = before.descriptor
  configs : after.configs = before.configs ++ configs
  interfaces : after.interfaces = before.interfaces ++ interfaces
  endpoints : after.endpoints = before.endpoints ++ endpoints

theorem Adds.nothing (device : UsbDeviceImp) : Adds device device [] [] [] := by
  constructor <;> simp

theorem Adds.trans {first second third : UsbDeviceImp}
    {configs moreConfigs : List ConfigDescriptorImp}
    {interfaces moreInterfaces : List UsbInterfaceImp}
    {endpoints moreEndpoints : List UsbEndpointImp}
    (adds : Adds first second configs interfaces endpoints)
    (more : Adds second third moreConfigs moreInterfaces moreEndpoints) :
    Adds first third (configs ++ moreConfigs) (interfaces ++ moreInterfaces)
      (endpoints ++ moreEndpoints) := by
  constructor
  · rw [more.descriptor, adds.descriptor]
  · rw [more.configs, adds.configs, List.append_assoc]
  · rw [more.interfaces, adds.interfaces, List.append_assoc]
  · rw [more.endpoints, adds.endpoints, List.append_assoc]

/-! ### One descriptor -/

def current (first seen : Nat) : Option Nat :=
  if seen = 0 then none else some (first + seen - 1)

theorem build_interface_adds (node : Node) (left : List UInt8) (device : UsbDeviceImp)
    (config : Nat) (fields : JusbInterfaceDescriptor) :
    (buildInterface node left device config fields).1 = device.interfaces.length ∧
      Adds device (buildInterface node left device config fields).2 []
        [⟨config, interfaceImp fields⟩] [] := by
  refine ⟨rfl, ?_⟩
  constructor <;> simp [buildInterface, createUsbInterfaceImp, interfaceImp]

theorem build_endpoint_adds (device : UsbDeviceImp) (first seen : Nat)
    (fields : JusbEndpointDescriptor) :
    Adds device (buildEndpoint device (current first seen) fields) [] []
      (if seen = 0 then [] else [⟨first + seen - 1, endpointImp fields⟩]) := by
  by_cases before : seen = 0
  · simp only [current, if_pos before, buildEndpoint]
    exact Adds.nothing device
  · simp only [current, if_neg before]
    constructor <;> simp [buildEndpoint, createUsbEndpointImp, endpointImp]

theorem build_by_type_item (node : Node) (left : List UInt8) (device : UsbDeviceImp)
    (config first seen : Nat) (numbered : device.interfaces.length = first + seen) (item : Item)
    (past : Nat → UInt8) : ∃ after,
    buildByType node left device config (current first seen) ⟨item.bytes, past⟩ =
        some (current first (seen + (interfacesOf config [item]).length), after) ∧
      Adds device after [] (interfacesOf config [item]) (endpointsOf first seen [item]) := by
  cases item with
  | interface layout =>
      have type : (⟨interfaceBytes layout.fields ++ layout.extra, past⟩ : Buffer).byte 1 =
          usbDtInterface := layout.type
      obtain ⟨number, adds⟩ := build_interface_adds node left device config layout.fields
      refine ⟨_, ?_, adds⟩
      simp only [buildByType, Item.bytes, type, as_interface, number, numbered]
      simp [usbDtInterface, usbDtDevice, usbDtConfig, interfacesOf, current]
  | endpoint layout =>
      have type : (⟨endpointBytes layout.fields ++ layout.extra, past⟩ : Buffer).byte 1 =
          usbDtEndpoint := layout.type
      refine ⟨_, ?_, build_endpoint_adds device first seen layout.fields⟩
      simp only [buildByType, Item.bytes, type, as_endpoint]
      simp [usbDtInterface, usbDtDevice, usbDtConfig, usbDtEndpoint, interfacesOf]
  | other layout =>
      have type : (⟨layout.bLength :: layout.bDescriptorType :: layout.payload, past⟩ :
          Buffer).byte 1 = layout.bDescriptorType := rfl
      refine ⟨device, ?_, Adds.nothing device⟩
      simp [buildByType, Item.bytes, type, layout.notDevice, layout.notConfig,
        layout.notInterface, layout.notEndpoint, interfacesOf]

theorem item_length (item : Item) (past : Nat → UInt8) :
    ((⟨item.bytes, past⟩ : Buffer).byte 0).toNat = item.bytes.length ∧ 2 ≤ item.bytes.length := by
  obtain ⟨len, tail, bytes, length⟩ := item_framed item
  constructor
  · rw [bytes]
    simpa [Buffer.byte] using length
  · cases item <;> simp [Item.bytes, interfaceBytes, endpointBytes]

/-! ### The loop of `build_config` -/

theorem build_descriptors_done (node : Node) (config wTotalLength pos : Nat) (iface : Option Nat)
    (device : UsbDeviceImp) (bytes : List UInt8) (done : ¬ pos < wTotalLength) :
    buildDescriptors node config wTotalLength pos iface device bytes = some (device, bytes) := by
  rw [buildDescriptors, if_neg done]

theorem build_descriptors_missing {node : Node} (config : Nat) {wTotalLength pos : Nat}
    (iface : Option Nat) (device : UsbDeviceImp) {bytes : List UInt8} (more : pos < wTotalLength)
    (missing : getDescriptor node bytes = none) :
    buildDescriptors node config wTotalLength pos iface device bytes = none := by
  rw [buildDescriptors, if_pos more]
  split
  · rfl
  · rename_i desc left found
    rw [missing] at found
    cases found

theorem build_descriptors_found {node : Node} (config : Nat) {wTotalLength pos : Nat}
    (iface : Option Nat) (device : UsbDeviceImp) {bytes left : List UInt8} {desc : Buffer}
    (more : pos < wTotalLength) (found : getDescriptor node bytes = some (desc, left)) :
    buildDescriptors node config wTotalLength pos iface device bytes =
      if desc.byte 0 < 2 then none
      else (buildByType node left device config iface desc).bind fun built =>
        buildDescriptors node config wTotalLength (pos + (desc.byte 0).toNat) built.1 built.2
          left := by
  rw [buildDescriptors, if_pos more]
  split
  · rename_i missing
    rw [found] at missing
    cases missing
  · rename_i other rest here
    rw [found] at here
    cases here
    cases buildByType node left device config iface desc <;> rfl

theorem build_descriptors_step {node : Node} {config wTotalLength pos : Nat}
    {iface next : Option Nat} {device after : UsbDeviceImp} {bytes left : List UInt8}
    {desc : Buffer} (more : pos < wTotalLength)
    (found : getDescriptor node bytes = some (desc, left)) (long : 2 ≤ (desc.byte 0).toNat)
    (built : buildByType node left device config iface desc = some (next, after)) :
    buildDescriptors node config wTotalLength pos iface device bytes =
      buildDescriptors node config wTotalLength (pos + (desc.byte 0).toNat) next after left := by
  have notShort : ¬ desc.byte 0 < 2 := by
    rw [UInt8.lt_iff_toNat_lt]
    simp only [UInt8.reduceToNat]
    omega
  rw [build_descriptors_found config iface device more found, if_neg notShort, built]
  rfl

theorem interfaces_of_cons (config : Nat) (item : Item) (items : List Item) :
    interfacesOf config (item :: items) =
      interfacesOf config [item] ++ interfacesOf config items := by
  cases item <;> rfl

theorem endpoints_of_cons (config first seen : Nat) (item : Item) (items : List Item) :
    endpointsOf first seen (item :: items) = endpointsOf first seen [item] ++
      endpointsOf first (seen + (interfacesOf config [item]).length) items := by
  cases item with
  | interface => rfl
  | other => rfl
  | endpoint layout =>
      simp only [endpointsOf, interfacesOf, List.length_nil, Nat.add_zero]
      split_ifs <;> rfl

theorem build_descriptors_items (node : Node) (config first : Nat) (items : List Item)
    (rest : List UInt8) (pos seen : Nat) (device : UsbDeviceImp)
    (numbered : device.interfaces.length = first + seen) : ∃ after,
    buildDescriptors node config (pos + (itemsBytes items).length) pos (current first seen) device
        (itemsBytes items ++ rest) = some (after, rest) ∧
      Adds device after [] (interfacesOf config items) (endpointsOf first seen items) := by
  induction items generalizing pos seen device with
  | nil =>
      refine ⟨device, ?_, Adds.nothing device⟩
      exact build_descriptors_done node config _ pos _ device rest (by simp [itemsBytes])
  | cons item items ih =>
      obtain ⟨length, long⟩ := item_length item (node.stray (itemsBytes items ++ rest))
      obtain ⟨middle, built, adds⟩ := build_by_type_item node (itemsBytes items ++ rest) device
        config first seen numbered item (node.stray (itemsBytes items ++ rest))
      have later : middle.interfaces.length =
          first + (seen + (interfacesOf config [item]).length) := by
        rw [adds.interfaces, List.length_append, numbered, Nat.add_assoc]
      obtain ⟨after, done, more⟩ := ih (pos + item.bytes.length)
        (seen + (interfacesOf config [item]).length) middle later
      refine ⟨after, ?_, ?_⟩
      · have total : (itemsBytes (item :: items)).length =
            item.bytes.length + (itemsBytes items).length := by
          simp [itemsBytes]
        have bytes : itemsBytes (item :: items) ++ rest =
            item.bytes ++ (itemsBytes items ++ rest) := by
          simp [itemsBytes]
        rw [total, bytes, build_descriptors_step (by omega)
          (get_descriptor_append node (item_framed item) _) (by rw [length]; exact long) built,
          length, ← Nat.add_assoc]
        exact done
      · rw [interfaces_of_cons, endpoints_of_cons config]
        exact adds.trans more

/-! ### Configurations and the device -/

theorem interfaces_of_length (config other : Nat) (items : List Item) :
    (interfacesOf config items).length = (interfacesOf other items).length := by
  induction items with
  | nil => rfl
  | cons item items ih =>
      rw [interfaces_of_cons, interfaces_of_cons other, List.length_append, List.length_append, ih]
      cases item <;> rfl

theorem config_framed (layout : ConfigLayout) :
    Framed (configBytes layout.fields ++ layout.extra) := by
  refine ⟨layout.fields.bLength, _, rfl, ?_⟩
  rw [layout.length]
  simp
  omega

theorem build_config_layout (node : Node) (layout : ConfigLayout) (rest : List UInt8)
    (device : UsbDeviceImp) : ∃ after,
    buildConfig node device (layout.bytes ++ rest) = some (after, rest) ∧
      Adds device after [configImp layout.fields]
        (interfacesOf device.configs.length layout.items)
        (endpointsOf device.interfaces.length 0 layout.items) := by
  have bytes : layout.bytes ++ rest =
      (configBytes layout.fields ++ layout.extra) ++ (itemsBytes layout.items ++ rest) := by
    simp [ConfigLayout.bytes]
  rw [bytes]
  simp only [buildConfig, get_descriptor_append node (config_framed layout), as_config,
    layout.total]
  obtain ⟨after, done, adds⟩ := build_descriptors_items node device.configs.length
    device.interfaces.length layout.items rest layout.fields.bLength.toNat 0
    { device with
      configs := device.configs ++ [configImp layout.fields]
      activeConfigNumber :=
        if isConfigActive node (itemsBytes layout.items ++ rest)
            layout.fields.bConfigurationValue then layout.fields.bConfigurationValue.toInt8
        else device.activeConfigNumber } rfl
  refine ⟨after, done, ?_⟩
  have created : Adds device
      { device with
        configs := device.configs ++ [configImp layout.fields]
        activeConfigNumber :=
          if isConfigActive node (itemsBytes layout.items ++ rest)
              layout.fields.bConfigurationValue then layout.fields.bConfigurationValue.toInt8
          else device.activeConfigNumber }
      [configImp layout.fields] [] [] := by
    constructor <;> simp
  simpa using created.trans adds

theorem build_configs_layout (node : Node) (configs : List ConfigLayout) (rest : List UInt8)
    (device : UsbDeviceImp) : ∃ after,
    buildConfigs node configs.length device (configsBytes configs ++ rest) = some (after, rest) ∧
      Adds device after (configs.map fun layout => configImp layout.fields)
        (allInterfaces device.configs.length configs)
        (allEndpoints device.interfaces.length configs) := by
  induction configs generalizing device with
  | nil => exact ⟨device, rfl, Adds.nothing device⟩
  | cons layout configs ih =>
      obtain ⟨middle, built, adds⟩ :=
        build_config_layout node layout (configsBytes configs ++ rest) device
      obtain ⟨after, done, more⟩ := ih middle
      refine ⟨after, ?_, ?_⟩
      · have bytes : configsBytes (layout :: configs) ++ rest =
            layout.bytes ++ (configsBytes configs ++ rest) := by
          simp [configsBytes]
        rw [bytes, List.length_cons, buildConfigs, built]
        exact done
      · have numbers : middle.configs.length = device.configs.length + 1 ∧
            middle.interfaces.length =
              device.interfaces.length + (interfacesOf 0 layout.items).length := by
          rw [adds.configs, adds.interfaces, List.length_append, List.length_append,
            interfaces_of_length _ 0]
          exact ⟨rfl, rfl⟩
        rw [numbers.1, numbers.2] at more
        exact adds.trans more

/-- The parser reads the layout of every device description to its end and
creates exactly the described objects, in their order and with their fields. -/
theorem build_device_layout (node : Node) (layout : DeviceLayout) : ∃ device,
    buildDevice node layout.bytes = some (device, []) ∧
      device.descriptor = some (deviceImp layout.fields) ∧
      device.configs = (layout.configs.map fun config => configImp config.fields) ∧
      device.interfaces = allInterfaces 0 layout.configs ∧
      device.endpoints = allEndpoints 0 layout.configs := by
  have framed : Framed (deviceBytes layout.fields ++ layout.extra) := by
    refine ⟨layout.fields.bLength, _, rfl, ?_⟩
    rw [layout.length]
    simp
    omega
  have bytes : layout.bytes =
      (deviceBytes layout.fields ++ layout.extra) ++ (configsBytes layout.configs ++ []) := by
    simp [DeviceLayout.bytes]
  rw [bytes]
  simp only [buildDevice, get_descriptor_append node framed, as_device, layout.count]
  obtain ⟨after, done, adds⟩ := build_configs_layout node layout.configs []
    (configureUsbDeviceImp .blank layout.fields.bLength.toInt8
      layout.fields.bDescriptorType.toInt8 layout.fields.bDeviceClass.toInt8
      layout.fields.bDeviceSubClass.toInt8 layout.fields.bDeviceProtocol.toInt8
      layout.fields.bMaxPacketSize0.toInt8 layout.fields.iManufacturer.toInt8
      layout.fields.iProduct.toInt8 layout.fields.iSerialNumber.toInt8
      layout.fields.bNumConfigurations.toInt8 layout.fields.idVendor.toInt16
      layout.fields.idProduct.toInt16 layout.fields.bcdDevice.toInt16
      layout.fields.bcdUSB.toInt16 (if node.slow then "1.5 Mbps" else "12 Mbps"))
  refine ⟨after, done, adds.descriptor, ?_, ?_, ?_⟩
  · rw [adds.configs]
    rfl
  · rw [adds.interfaces]
    rfl
  · rw [adds.endpoints]
    rfl

end JavaxUsbLinux.DescriptorRoundTrip
