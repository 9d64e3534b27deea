import JavaxUsbLinux.Descriptors

/-!
# The layout of descriptors and its reading

A device description says which descriptors a device has, in terms of their
fields. Its layout is the list of their bytes. The module shows that each
descriptor is cut out of a longer list as it is, and that the fields of each
struct are read back from its bytes.
-/

namespace JavaxUsbLinux.DescriptorLayout

open JavaxUsbLinux.Descriptors

set_option autoImplicit false

/-! ### Layouts -/

def lowByte (word : UInt16) : UInt8 := UInt8.ofNat (word.toNat % 256)
def highByte (word : UInt16) : UInt8 := UInt8.ofNat (word.toNat / 256)

def deviceBytes (fields : JusbDeviceDescriptor) : List UInt8 :=
  [fields.bLength, fields.bDescriptorType, lowByte fields.bcdUSB, highByte fields.bcdUSB,
    fields.bDeviceClass, fields.bDeviceSubClass, fields.bDeviceProtocol, fields.bMaxPacketSize0,
    lowByte fields.idVendor, highByte fields.idVendor, lowByte fields.idProduct,
    highByte fields.idProduct, lowByte fields.bcdDevice, highByte fields.bcdDevice,
    fields.iManufacturer, fields.iProduct, fields.iSerialNumber, fields.bNumConfigurations]

def configBytes (fields : JusbConfigDescriptor) : List UInt8 :=
  [fields.bLength, fields.bDescriptorType, lowByte fields.wTotalLength,
    highByte fields.wTotalLength, fields.bNumInterfaces, fields.bConfigurationValue,
    fields.iConfiguration, fields.bmAttributes, fields.bMaxPower]

def interfaceBytes (fields : JusbInterfaceDescriptor) : List UInt8 :=
  [fields.bLength, fields.bDescriptorType, fields.bInterfaceNumber, fields.bAlternateSetting,
    fields.bNumEndpoints, fields.bInterfaceClass, fields.bInterfaceSubClass,
    fields.bInterfaceProtocol, fields.iInterface]

def endpointBytes (fields : JusbEndpointDescriptor) : List UInt8 :=
  [fields.bLength, fields.bDescriptorType, fields.bEndpointAddress, fields.bmAttributes,
    lowByte fields.wMaxPacketSize, highByte fields.wMaxPacketSize, fields.bInterval]

/-- An interface descriptor; `extra` are the bytes after the fields of the struct. -/
structure InterfaceLayout where
  fields : JusbInterfaceDescriptor
  extra : List UInt8
  length : fields.bLength.toNat = 9 + extra.length
  type : fields.bDescriptorType = usbDtInterface

structure EndpointLayout where
  fields : JusbEndpointDescriptor
  extra : List UInt8
  length : fields.bLength.toNat = 7 + extra.length
  type : fields.bDescriptorType = usbDtEndpoint

structure OtherLayout where
  bLength : UInt8
  bDescriptorType : UInt8
  payload : List UInt8
  length : bLength.toNat = 2 + payload.length
  notDevice : bDescriptorType ≠ usbDtDevice
  notConfig : bDescriptorType ≠ usbDtConfig
  notInterface : bDescriptorType ≠ usbDtInterface
  notEndpoint : bDescriptorType ≠ usbDtEndpoint

inductive Item where
  | interface (layout : InterfaceLayout)
  | endpoint (layout : EndpointLayout)
  | other (layout : OtherLayout)

def Item.bytes : Item → List UInt8
  | .interface layout => interfaceBytes layout.fields ++ layout.extra
  | .endpoint layout => endpointBytes layout.fields ++ layout.extra
  | .other layout => layout.bLength :: layout.bDescriptorType :: layout.payload

def itemsBytes (items : List Item) : List UInt8 :=
  items.flatMap Item.bytes

/-- A configuration, with the true total of its bytes. -/
structure ConfigLayout where
  fields : JusbConfigDescriptor
  extra : List UInt8
  items : List Item
  length : fields.bLength.toNat = 9 + extra.length
  total : fields.wTotalLength.toNat = fields.bLength.toNat + (itemsBytes items).length

def ConfigLayout.bytes (layout : ConfigLayout) : List UInt8 :=
  configBytes layout.fields ++ layout.extra ++ itemsBytes layout.items

def configsBytes (configs : List ConfigLayout) : List UInt8 :=
  configs.flatMap ConfigLayout.bytes

structure DeviceLayout where
  fields : JusbDeviceDescriptor
  extra : List UInt8
  configs : List ConfigLayout
  length : fields.bLength.toNat = 18 + extra.length
  count : fields.bNumConfigurations.toNat = configs.length

def DeviceLayout.bytes (layout : DeviceLayout) : List UInt8 :=
  deviceBytes layout.fields ++ layout.extra ++ configsBytes layout.configs

/-! ### The objects of a description -/

def deviceImp (fields : JusbDeviceDescriptor) : DeviceDescriptorImp where
  length := fields.bLength.toInt8
  type := fields.bDescriptorType.toInt8
  deviceClass := fields.bDeviceClass.toInt8
  deviceSubClass := fields.bDeviceSubClass.toInt8
  deviceProtocol := fields.bDeviceProtocol.toInt8
  maxDefaultEndpointSize := fields.bMaxPacketSize0.toInt8
  manufacturerIndex := fields.iManufacturer.toInt8
  productIndex := fields.iProduct.toInt8
  serialNumberIndex := fields.iSerialNumber.toInt8
  numConfigs := fields.bNumConfigurations.toInt8
  vendorId := fields.idVendor.toInt16
  productId := fields.idProduct.toInt16
  bcdDevice := fields.bcdDevice.toInt16
  bcdUsb := fields.bcdUSB.toInt16

def configImp (fields : JusbConfigDescriptor) : ConfigDescriptorImp where
  length := fields.bLength.toInt8
  type := fields.bDescriptorType.toInt8
  totalLen := fields.wTotalLength.toInt16
  numInterfaces := fields.bNumInterfaces.toInt8
  configValue := fields.bConfigurationValue.toInt8
  configIndex := fields.iConfiguration.toInt8
  attributes := fields.bmAttributes.toInt8
  maxPowerNeeded := fields.bMaxPower.toInt8

def interfaceImp (fields : JusbInterfaceDescriptor) : InterfaceDescriptorImp where
  length := fields.bLength.toInt8
  type := fields.bDescriptorType.toInt8
  interfaceNumber := fields.bInterfaceNumber.toInt8
  alternateNumber := fields.bAlternateSetting.toInt8
  numEndpoints := fields.bNumEndpoints.toInt8
  interfaceClass := fields.bInterfaceClass.toInt8
  interfaceSubClass := fields.bInterfaceSubClass.toInt8
  interfaceProtocol := fields.bInterfaceProtocol.toInt8
  interfaceIndex := fields.iInterface.toInt8

def endpointImp (fields : JusbEndpointDescriptor) : EndpointDescriptorImp where
  length := fields.bLength.toInt8
  type := fields.bDescriptorType.toInt8
  endpointAddress := fields.bEndpointAddress.toInt8
  attributes := fields.bmAttributes.toInt8
  interval := fields.bInterval.toInt8
  maxPacketSize := fields.wMaxPacketSize.toInt16

def interfacesOf (config : Nat) : List Item → List UsbInterfaceImp
  | [] => []
  | .interface layout :: items => ⟨config, interfaceImp layout.fields⟩ :: interfacesOf config items
  | .endpoint _ :: items | .other _ :: items => interfacesOf config items

/-- The endpoints of a configuration whose interface settings are numbered from
`first` on. After `seen` of them the nearest preceding one is the last of these;
an endpoint before the first has no owner and is not created. -/
def endpointsOf (first seen : Nat) : List Item → List UsbEndpointImp
  | [] => []
  | .interface _ :: items => endpointsOf first (seen + 1) items
  | .endpoint layout :: items =>
      if seen = 0 then endpointsOf first seen items
      else ⟨first + seen - 1, endpointImp layout.fields⟩ :: endpointsOf first seen items
  | .other _ :: items => endpointsOf first seen items

def allInterfaces (config : Nat) : List ConfigLayout → List UsbInterfaceImp
  | [] => []
  | layout :: configs => interfacesOf config layout.items ++ allInterfaces (config + 1) configs

def allEndpoints (first : Nat) : List ConfigLayout → List UsbEndpointImp
  | [] => []
  | layout :: configs => endpointsOf first 0 layout.items ++
      allEndpoints (first + (interfacesOf 0 layout.items).length) configs

/-! ### Reading one descriptor -/

def Framed (bytes : List UInt8) : Prop :=
  ∃ len tail, bytes = len :: tail ∧ len.toNat = tail.length + 1

theorem get_descriptor_append (node : Node) {bytes : List UInt8} (framed : Framed bytes)
    (rest : List UInt8) :
    getDescriptor node (bytes ++ rest) = some (⟨bytes, node.stray rest⟩, rest) := by
  obtain ⟨len, tail, rfl, length⟩ := framed
  have nonzero : len ≠ 0 := by
    intro zero
    rw [zero] at length
    simp at length
  have long : ¬ (tail ++ rest).length < tail.length := by simp
  have size : len.toNat - 1 = tail.length := by omega
  simp only [getDescriptor, List.cons_append, size, if_neg nonzero, if_neg long,
    List.drop_left, List.take_left]

@[simp] theorem word_of_bytes (word : UInt16) :
    (lowByte word).toUInt16 + 256 * (highByte word).toUInt16 = word := by
  have bound : word.toNat < 65536 := word.toNat_lt
  have low : (lowByte word).toNat = word.toNat % 256 := by
    simp [lowByte]
  have high : (highByte word).toNat = word.toNat / 256 := by
    rw [highByte, UInt8.toNat_ofNat']
    omega
  apply UInt16.toNat_inj.mp
  rw [UInt16.toNat_add, UInt16.toNat_mul, UInt8.toNat_toUInt16, UInt8.toNat_toUInt16, low, high]
  simp only [UInt16.reduceToNat]
  omega

theorem as_device (fields : JusbDeviceDescriptor) (extra : List UInt8) (past : Nat → UInt8) :
    (⟨deviceBytes fields ++ extra, past⟩ : Buffer).asDevice = fields := by
  simp [Buffer.asDevice, Buffer.byte, Buffer.word, deviceBytes]

theorem as_config (fields : JusbConfigDescriptor) (extra : List UInt8) (past : Nat → UInt8) :
    (⟨configBytes fields ++ extra, past⟩ : Buffer).asConfig = fields := by
  simp [Buffer.asConfig, Buffer.byte, Buffer.word, configBytes]

theorem as_interface (fields : JusbInterfaceDescriptor) (extra : List UInt8)
    (past : Nat → UInt8) :
    (⟨interfaceBytes fields ++ extra, past⟩ : Buffer).asInterface = fields := by
  simp [Buffer.asInterface, Buffer.byte, interfaceBytes]

theorem as_endpoint (fields : JusbEndpointDescriptor) (extra : List UInt8)
    (past : Nat → UInt8) :
    (⟨endpointBytes fields ++ extra, past⟩ : Buffer).asEndpoint = fields := by
  simp [Buffer.asEndpoint, Buffer.byte, Buffer.word, endpointBytes]

theorem item_framed (item : Item) : Framed item.bytes := by
  cases item with
  | interface layout =>
      refine ⟨layout.fields.bLength, _, rfl, ?_⟩
      rw [layout.length]
      simp
      omega
  | endpoint layout =>
      refine ⟨layout.fields.bLength, _, rfl, ?_⟩
      rw [layout.length]
      simp
      omega
  | other layout =>
      refine ⟨layout.bLength, _, rfl, ?_⟩
      rw [layout.length]
      simp
      omega

end JavaxUsbLinux.DescriptorLayout
