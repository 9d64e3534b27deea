import Mathlib.Data.List.Basic

/-!
# Reading the descriptors of a device

`build_device` reads the device descriptor and the configurations from the node
of the device and creates the Java objects for them. The node is the list of
the bytes that are left to read. A descriptor shorter than its struct lets the
code read past the end of the buffer: what it finds there is not known.
-/

namespace JavaxUsbLinux.Descriptors

set_option autoImplicit false

/-! ### Buffers and structs -/

/-- A block that `get_descriptor` returns, and the memory behind it. -/
structure Buffer where
  bytes : List UInt8
  past : Nat → UInt8

namespace Buffer

def byte (buffer : Buffer) (offset : Nat) : UInt8 :=
  buffer.bytes.getD offset (buffer.past offset)

def word (buffer : Buffer) (offset : Nat) : UInt16 :=
  (buffer.byte offset).toUInt16 + 256 * (buffer.byte (offset + 1)).toUInt16

end Buffer

structure JusbDeviceDescriptor where
  bLength : UInt8
  bDescriptorType : UInt8
  bcdUSB : UInt16
  bDeviceClass : UInt8
  bDeviceSubClass : UInt8
  bDeviceProtocol : UInt8
  bMaxPacketSize0 : UInt8
  idVendor : UInt16
  idProduct : UInt16
  bcdDevice : UInt16
  iManufacturer : UInt8
  iProduct : UInt8
  iSerialNumber : UInt8
  bNumConfigurations : UInt8

structure JusbConfigDescriptor where
  bLength : UInt8
  bDescriptorType : UInt8
  wTotalLength : UInt16
  bNumInterfaces : UInt8
  bConfigurationValue : UInt8
  iConfiguration : UInt8
  bmAttributes : UInt8
  bMaxPower : UInt8

structure JusbInterfaceDescriptor where
  bLength : UInt8
  bDescriptorType : UInt8
  bInterfaceNumber : UInt8
  bAlternateSetting : UInt8
  bNumEndpoints : UInt8
  bInterfaceClass : UInt8
  bInterfaceSubClass : UInt8
  bInterfaceProtocol : UInt8
  iInterface : UInt8

structure JusbEndpointDescriptor where
  bLength : UInt8
  bDescriptorType : UInt8
  bEndpointAddress : UInt8
  bmAttributes : UInt8
  wMaxPacketSize : UInt16
  bInterval : UInt8

def Buffer.asDevice (buffer : Buffer) : JusbDeviceDescriptor where
  bLength := buffer.byte 0
  bDescriptorType := buffer.byte 1
  bcdUSB := buffer.word 2
  bDeviceClass := buffer.byte 4
  bDeviceSubClass := buffer.byte 5
  bDeviceProtocol := buffer.byte 6
  bMaxPacketSize0 := buffer.byte 7
  idVendor := buffer.word 8
  idProduct := buffer.word 10
  bcdDevice := buffer.word 12
  iManufacturer := buffer.byte 14
  iProduct := buffer.byte 15
  iSerialNumber := buffer.byte 16
  bNumConfigurations := buffer.byte 17

def Buffer.asConfig (buffer : Buffer) : JusbConfigDescriptor where
  bLength := buffer.byte 0
  bDescriptorType := buffer.byte 1
  wTotalLength := buffer.word 2
  bNumInterfaces := buffer.byte 4
  bConfigurationValue := buffer.byte 5
  iConfiguration := buffer.byte 6
  bmAttributes := buffer.byte 7
  bMaxPower := buffer.byte 8

def Buffer.asInterface (buffer : Buffer) : JusbInterfaceDescriptor where
  bLength := buffer.byte 0
  bDescriptorType := buffer.byte 1
  bInterfaceNumber := buffer.byte 2
  bAlternateSetting := buffer.byte 3
  bNumEndpoints := buffer.byte 4
  bInterfaceClass := buffer.byte 5
  bInterfaceSubClass := buffer.byte 6
  bInterfaceProtocol := buffer.byte 7
  iInterface := buffer.byte 8

def Buffer.asEndpoint (buffer : Buffer) : JusbEndpointDescriptor where
  bLength := buffer.byte 0
  bDescriptorType := buffer.byte 1
  bEndpointAddress := buffer.byte 2
  bmAttributes := buffer.byte 3
  wMaxPacketSize := buffer.word 4
  bInterval := buffer.byte 6

/-! ### The Java objects -/

structure DeviceDescriptorImp where
  length : Int8
  type : Int8
  deviceClass : Int8
  deviceSubClass : Int8
  deviceProtocol : Int8
  maxDefaultEndpointSize : Int8
  manufacturerIndex : Int8
  productIndex : Int8
  serialNumberIndex : Int8
  numConfigs : Int8
  vendorId : Int16
  productId : Int16
  bcdDevice : Int16
  bcdUsb : Int16

structure ConfigDescriptorImp where
  length : Int8
  type : Int8
  totalLen : Int16
  numInterfaces : Int8
  configValue : Int8
  configIndex : Int8
  attributes : Int8
  maxPowerNeeded : Int8

structure InterfaceDescriptorImp where
  length : Int8
  type : Int8
  interfaceNumber : Int8
  alternateNumber : Int8
  numEndpoints : Int8
  interfaceClass : Int8
  interfaceSubClass : Int8
  interfaceProtocol : Int8
  interfaceIndex : Int8

structure EndpointDescriptorImp where
  length : Int8
  type : Int8
  endpointAddress : Int8
  attributes : Int8
  interval : Int8
  maxPacketSize : Int16

/-- An interface setting of the configuration that was created as number `config`. -/
structure UsbInterfaceImp where
  config : Nat
  descriptor : InterfaceDescriptorImp

structure UsbEndpointImp where
  interface : Nat
  descriptor : EndpointDescriptorImp

/-- The device with all objects that were created for it, each kind in the order
of creation. `activeSettings` has the calls of `setActiveAlternateSettingNumber`. -/
structure UsbDeviceImp where
  descriptor : Option DeviceDescriptorImp
  speedString : String
  activeConfigNumber : Int8
  configs : List ConfigDescriptorImp
  interfaces : List UsbInterfaceImp
  endpoints : List UsbEndpointImp
  activeSettings : List (Nat × Int8)

namespace UsbDeviceImp

def blank : UsbDeviceImp where
  descriptor := none
  speedString := ""
  activeConfigNumber := 0
  configs := []
  interfaces := []
  endpoints := []
  activeSettings := []

def isActive (device : UsbDeviceImp) (config : Nat) : Bool :=
  match device.configs[config]? with
  | none => false
  | some descriptor => descriptor.configValue == device.activeConfigNumber

end UsbDeviceImp

def createUsbConfigImp (device : UsbDeviceImp) (length type : Int8) (totalLen : Int16)
    (numInterfaces configValue configIndex attributes maxPowerNeeded : Int8) (active : Bool) :
    Nat × UsbDeviceImp :=
  let desc : ConfigDescriptorImp := ⟨length, type, totalLen, numInterfaces, configValue,
    configIndex, attributes, maxPowerNeeded⟩
  (device.configs.length, { device with
    configs := device.configs ++ [desc]
    activeConfigNumber := if active then configValue else device.activeConfigNumber })

def createUsbInterfaceImp (device : UsbDeviceImp) (config : Nat) (length type interfaceNumber
    alternateNumber numEndpoints interfaceClass interfaceSubClass interfaceProtocol
    interfaceIndex : Int8) (active : Bool) : Nat × UsbDeviceImp :=
  let desc : InterfaceDescriptorImp := ⟨length, type, interfaceNumber, alternateNumber,
    numEndpoints, interfaceClass, interfaceSubClass, interfaceProtocol, interfaceIndex⟩
  let iface := device.interfaces.length
  (iface, { device with
    interfaces := device.interfaces ++ [⟨config, desc⟩]
    activeSettings :=
      if device.isActive config && active then device.activeSettings ++ [(iface, alternateNumber)]
      else device.activeSettings })

def createUsbEndpointImp (device : UsbDeviceImp) (iface : Nat) (length type endpointAddress
    attributes interval : Int8) (maxPacketSize : Int16) : UsbDeviceImp :=
  let desc : EndpointDescriptorImp := ⟨length, type, endpointAddress, attributes, interval,
    maxPacketSize⟩
  { device with endpoints := device.endpoints ++ [⟨iface, desc⟩] }

def configureUsbDeviceImp (targetDevice : UsbDeviceImp) (length type deviceClass deviceSubClass
    deviceProtocol maxDefaultEndpointSize manufacturerIndex productIndex serialNumberIndex
    numConfigs : Int8) (vendorId productId bcdDevice bcdUsb : Int16) (speedString : String) :
    UsbDeviceImp :=
  let desc : DeviceDescriptorImp := ⟨length, type, deviceClass, deviceSubClass, deviceProtocol,
    maxDefaultEndpointSize, manufacturerIndex, productIndex, serialNumberIndex, numConfigs,
    vendorId, productId, bcdDevice, bcdUsb⟩
  { targetDevice with descriptor := some desc, speedString := speedString }

/-! ### The node and the questions asked about it -/

structure ActiveChecks where
  configUseGetIoctl : Bool
  configUseDevicesFile : Bool
  configAlwaysActive : Bool
  interfaceUseGetIoctl : Bool

/-- What the code finds out apart from the bytes. An answer may be different each
time; it depends on the bytes that are left to read when the question is asked.
`none` is a failure. -/
structure Node where
  checks : ActiveChecks
  slow : Bool
  stray : List UInt8 → Nat → UInt8
  getConfiguration : List UInt8 → Option Nat
  devicesFile : List UInt8 → UInt8 → Option Bool
  getInterface : List UInt8 → UInt8 → Option Nat

def configUseGetIoctl (node : Node) (left : List UInt8) (config : UInt8) : Option Bool :=
  (node.getConfiguration left).map fun cfg => cfg == config.toNat

def interfaceUseGetIoctl (node : Node) (left : List UInt8) (interface setting : UInt8) :
    Option Bool :=
  (node.getInterface left interface).map fun altsetting => altsetting == setting.toNat

def isConfigActive (node : Node) (left : List UInt8) (config : UInt8) : Bool :=
  let ret := if node.checks.configUseGetIoctl then configUseGetIoctl node left config else none
  let ret := if ret.isNone && node.checks.configUseDevicesFile then node.devicesFile left config
    else ret
  let ret := if ret.isNone && node.checks.configAlwaysActive then some true else ret
  ret.getD false

def isInterfaceSettingActive (node : Node) (left : List UInt8) (interface setting : UInt8) :
    Bool :=
  let ret := if node.checks.interfaceUseGetIoctl then
      interfaceUseGetIoctl node left interface setting
    else none
  ret.getD false

/-! ### The parser -/

def getDescriptor (node : Node) : List UInt8 → Option (Buffer × List UInt8)
  | [] => none
  | len :: left =>
      if len = 0 then none
      else if left.length < len.toNat - 1 then none
      else
        let left' := left.drop (len.toNat - 1)
        some (⟨len :: left.take (len.toNat - 1), node.stray left'⟩, left')

theorem get_descriptor_shorter {node : Node} {bytes left : List UInt8} {desc : Buffer}
    (found : getDescriptor node bytes = some (desc, left)) : left.length < bytes.length := by
  cases bytes with
  | nil => simp [getDescriptor] at found
  | cons len rest =>
      simp only [getDescriptor] at found
      split_ifs at found
      cases found
      simp only [List.length_drop, List.length_cons]
      omega

def buildInterface (node : Node) (left : List UInt8) (device : UsbDeviceImp) (config : Nat)
    (ifDesc : JusbInterfaceDescriptor) : Nat × UsbDeviceImp :=
  let isActive := isInterfaceSettingActive node left ifDesc.bInterfaceNumber
    ifDesc.bAlternateSetting
  createUsbInterfaceImp device config ifDesc.bLength.toInt8 ifDesc.bDescriptorType.toInt8
    ifDesc.bInterfaceNumber.toInt8 ifDesc.bAlternateSetting.toInt8 ifDesc.bNumEndpoints.toInt8
    ifDesc.bInterfaceClass.toInt8 ifDesc.bInterfaceSubClass.toInt8
    ifDesc.bInterfaceProtocol.toInt8 ifDesc.iInterface.toInt8 isActive

def buildEndpoint (device : UsbDeviceImp) (iface : Option Nat) (epDesc : JusbEndpointDescriptor) :
    UsbDeviceImp :=
  match iface with
  | none => device
  | some iface =>
      createUsbEndpointImp device iface epDesc.bLength.toInt8 epDesc.bDescriptorType.toInt8
        epDesc.bEndpointAddress.toInt8 epDesc.bmAttributes.toInt8 epDesc.bInterval.toInt8
        epDesc.wMaxPacketSize.toInt16

def usbDtDevice : UInt8 := 1
def usbDtConfig : UInt8 := 2
def usbDtInterface : UInt8 := 4
def usbDtEndpoint : UInt8 := 5

/-- The switch on the type of a descriptor inside a configuration: the current
interface and the device after it, or a failure. -/
def buildByType (node : Node) (left : List UInt8) (device : UsbDeviceImp) (config : Nat)
    (iface : Option Nat) (desc : Buffer) : Option (Option Nat × UsbDeviceImp) :=
  if desc.byte 1 = usbDtDevice then none
  else if desc.byte 1 = usbDtConfig then none
  else if desc.byte 1 = usbDtInterface then
    let (iface, device) := buildInterface node left device config desc.asInterface
    some (some iface, device)
  else if desc.byte 1 = usbDtEndpoint then
    some (iface, buildEndpoint device iface desc.asEndpoint)
  else some (iface, device)

def buildDescriptors (node : Node) (config wTotalLength pos : Nat) (iface : Option Nat)
    (device : UsbDeviceImp) (bytes : List UInt8) : Option (UsbDeviceImp × List UInt8) :=
  if pos < wTotalLength then
    match _found : getDescriptor node bytes with
    | none => none
    | some (desc, left) =>
        if desc.byte 0 < 2 then none
        else
          match buildByType node left device config iface desc with
          | none => none
          | some (iface, device) =>
              buildDescriptors node config wTotalLength (pos + (desc.byte 0).toNat) iface device
                left
  else some (device, bytes)
termination_by bytes.length
decreasing_by exact get_descriptor_shorter _found

def buildConfig (node : Node) (device : UsbDeviceImp) (bytes : List UInt8) :
    Option (UsbDeviceImp × List UInt8) :=
  match getDescriptor node bytes with
  | none => none
  | some (desc, left) =>
      let cfgDesc := desc.asConfig
      let isActive := isConfigActive node left cfgDesc.bConfigurationValue
      let (config, device) := createUsbConfigImp device cfgDesc.bLength.toInt8
        cfgDesc.bDescriptorType.toInt8 cfgDesc.wTotalLength.toInt16 cfgDesc.bNumInterfaces.toInt8
        cfgDesc.bConfigurationValue.toInt8 cfgDesc.iConfiguration.toInt8
        cfgDesc.bmAttributes.toInt8 cfgDesc.bMaxPower.toInt8 isActive
      buildDescriptors node config cfgDesc.wTotalLength.toNat cfgDesc.bLength.toNat none device left

def buildConfigs (node : Node) :
    Nat → UsbDeviceImp → List UInt8 → Option (UsbDeviceImp × List UInt8)
  | 0, device, bytes => some (device, bytes)
  | ncfg + 1, device, bytes =>
      match buildConfig node device bytes with
      | none => none
      | some (device, left) => buildConfigs node ncfg device left

def buildDevice (node : Node) (bytes : List UInt8) : Option (UsbDeviceImp × List UInt8) :=
  match getDescriptor node bytes with
  | none => none
  | some (desc, left) =>
      let devDesc := desc.asDevice
      let device := configureUsbDeviceImp .blank devDesc.bLength.toInt8
        devDesc.bDescriptorType.toInt8 devDesc.bDeviceClass.toInt8 devDesc.bDeviceSubClass.toInt8
        devDesc.bDeviceProtocol.toInt8 devDesc.bMaxPacketSize0.toInt8
        devDesc.iManufacturer.toInt8 devDesc.iProduct.toInt8 devDesc.iSerialNumber.toInt8
        devDesc.bNumConfigurations.toInt8 devDesc.idVendor.toInt16 devDesc.idProduct.toInt16
        devDesc.bcdDevice.toInt16 devDesc.bcdUSB.toInt16
        (if node.slow then "1.5 Mbps" else "12 Mbps")
      buildConfigs node devDesc.bNumConfigurations.toNat device left

end JavaxUsbLinux.Descriptors
