import JavaxUsbLinux.BufferReads
import JavaxUsbLinux.DescriptorFraming

/-!
# Which bytes of a descriptor are read

The parser again, with each access to a buffer of `get_descriptor`. Its results
are those of the parser without accesses. The lengths that are checked are zero
and less than two; the structs need 18, 9, 9 and 7 bytes.
-/

namespace JavaxUsbLinux.DescriptorBounds

open JavaxUsbLinux.BufferReads
open JavaxUsbLinux.Descriptors
open JavaxUsbLinux.DescriptorLayout
open JavaxUsbLinux.DescriptorRoundTrip
open JavaxUsbLinux.DescriptorStream
open JavaxUsbLinux.DescriptorFraming

set_option autoImplicit false

/-! ### The parser with its accesses -/

/-- A node, whether the two ioctls of `build_device` succeed on it, and whether
messages of the level `MSG_DEBUG3` are printed. -/
structure Setting where
  node : Node
  portInfo : Bool
  connectInfo : Bool
  printing : Bool

def readByte (buffer : Buffer) (offset : Nat) : Reading UInt8 :=
  .read buffer.bytes.length offset (buffer.byte offset)

def readWord (buffer : Buffer) (offset : Nat) : Reading UInt16 := do
  let low ← readByte buffer offset
  let high ← readByte buffer (offset + 1)
  return low.toUInt16 + 256 * high.toUInt16

def printByte (setting : Setting) (buffer : Buffer) (offset : Nat) : Reading Unit :=
  if setting.printing then .read buffer.bytes.length offset () else return ()

def readDevice (buffer : Buffer) : Reading JusbDeviceDescriptor := do
  let bLength ← readByte buffer 0
  let bDescriptorType ← readByte buffer 1
  let bcdUSB ← readWord buffer 2
  let bDeviceClass ← readByte buffer 4
  let bDeviceSubClass ← readByte buffer 5
  let bDeviceProtocol ← readByte buffer 6
  let bMaxPacketSize0 ← readByte buffer 7
  let idVendor ← readWord buffer 8
  let idProduct ← readWord buffer 10
  let bcdDevice ← readWord buffer 12
  let iManufacturer ← readByte buffer 14
  let iProduct ← readByte buffer 15
  let iSerialNumber ← readByte buffer 16
  let bNumConfigurations ← readByte buffer 17
  return ⟨bLength, bDescriptorType, bcdUSB, bDeviceClass, bDeviceSubClass, bDeviceProtocol,
    bMaxPacketSize0, idVendor, idProduct, bcdDevice, iManufacturer, iProduct, iSerialNumber,
    bNumConfigurations⟩

def readConfig (buffer : Buffer) : Reading JusbConfigDescriptor := do
  let bLength ← readByte buffer 0
  let bDescriptorType ← readByte buffer 1
  let wTotalLength ← readWord buffer 2
  let bNumInterfaces ← readByte buffer 4
  let bConfigurationValue ← readByte buffer 5
  let iConfiguration ← readByte buffer 6
  let bmAttributes ← readByte buffer 7
  let bMaxPower ← readByte buffer 8
  return ⟨bLength, bDescriptorType, wTotalLength, bNumInterfaces, bConfigurationValue,
    iConfiguration, bmAttributes, bMaxPower⟩

def readInterface (buffer : Buffer) : Reading JusbInterfaceDescriptor := do
  let bLength ← readByte buffer 0
  let bDescriptorType ← readByte buffer 1
  let bInterfaceNumber ← readByte buffer 2
  let bAlternateSetting ← readByte buffer 3
  let bNumEndpoints ← readByte buffer 4
  let bInterfaceClass ← readByte buffer 5
  let bInterfaceSubClass ← readByte buffer 6
  let bInterfaceProtocol ← readByte buffer 7
  let iInterface ← readByte buffer 8
  return ⟨bLength, bDescriptorType, bInterfaceNumber, bAlternateSetting, bNumEndpoints,
    bInterfaceClass, bInterfaceSubClass, bInterfaceProtocol, iInterface⟩

def readEndpoint (buffer : Buffer) : Reading JusbEndpointDescriptor := do
  let bLength ← readByte buffer 0
  let bDescriptorType ← readByte buffer 1
  let bEndpointAddress ← readByte buffer 2
  let bmAttributes ← readByte buffer 3
  let wMaxPacketSize ← readWord buffer 4
  let bInterval ← readByte buffer 6
  return ⟨bLength, bDescriptorType, bEndpointAddress, bmAttributes, wMaxPacketSize, bInterval⟩

def buildInterfaceReads (setting : Setting) (left : List UInt8) (device : UsbDeviceImp)
    (config : Nat) (desc : Buffer) : Reading (Nat × UsbDeviceImp) := do
  printByte setting desc 2
  let ifDesc ← readInterface desc
  return buildInterface setting.node left device config ifDesc

/-- Without an interface the function returns after its message. -/
def buildEndpointReads (setting : Setting) (device : UsbDeviceImp) (iface : Option Nat)
    (desc : Buffer) : Reading UsbDeviceImp := do
  printByte setting desc 2
  match iface with
  | none => return device
  | some iface =>
      let epDesc ← readEndpoint desc
      return buildEndpoint device (some iface) epDesc

def buildByTypeReads (setting : Setting) (left : List UInt8) (device : UsbDeviceImp)
    (config : Nat) (iface : Option Nat) (desc : Buffer) :
    Reading (Option Nat × UsbDeviceImp) := do
  let type ← readByte desc 1
  if type = usbDtDevice then .fail
  else if type = usbDtConfig then .fail
  else if type = usbDtInterface then
    let (iface, device) ← buildInterfaceReads setting left device config desc
    return (some iface, device)
  else if type = usbDtEndpoint then
    let device ← buildEndpointReads setting device iface desc
    return (iface, device)
  else return (iface, device)

def buildDescriptorsReads (setting : Setting) (config wTotalLength pos : Nat)
    (iface : Option Nat) (device : UsbDeviceImp) (bytes : List UInt8) :
    Reading (UsbDeviceImp × List UInt8) :=
  if pos < wTotalLength then
    match _found : getDescriptor setting.node bytes with
    | none => .fail
    | some (desc, left) => do
        let len ← readByte desc 0
        if len < 2 then .fail
        else do
          let (iface, device) ← buildByTypeReads setting left device config iface desc
          buildDescriptorsReads setting config wTotalLength (pos + len.toNat) iface device left
  else return (device, bytes)
termination_by bytes.length
decreasing_by exact get_descriptor_shorter _found

def buildConfigReads (setting : Setting) (device : UsbDeviceImp) (bytes : List UInt8) :
    Reading (UsbDeviceImp × List UInt8) :=
  match getDescriptor setting.node bytes with
  | none => .fail
  | some (desc, left) => do
      printByte setting desc 5
      let cfgDesc ← readConfig desc
      let isActive := isConfigActive setting.node left cfgDesc.bConfigurationValue
      let (config, device) := createUsbConfigImp device cfgDesc.bLength.toInt8
        cfgDesc.bDescriptorType.toInt8 cfgDesc.wTotalLength.toInt16 cfgDesc.bNumInterfaces.toInt8
        cfgDesc.bConfigurationValue.toInt8 cfgDesc.iConfiguration.toInt8
        cfgDesc.bmAttributes.toInt8 cfgDesc.bMaxPower.toInt8 isActive
      buildDescriptorsReads setting config cfgDesc.wTotalLength.toNat cfgDesc.bLength.toNat none
        device left

def buildConfigsReads (setting : Setting) :
    Nat → UsbDeviceImp → List UInt8 → Reading (UsbDeviceImp × List UInt8)
  | 0, device, bytes => return (device, bytes)
  | ncfg + 1, device, bytes => do
      let (device, left) ← buildConfigReads setting device bytes
      buildConfigsReads setting ncfg device left

def usbClassHub : UInt8 := 9

/-- `USBDEVFS_HUB_PORTINFO` is asked of hubs only. A field that the source reads
several times is read once. -/
def buildDeviceReads (setting : Setting) (bytes : List UInt8) :
    Reading (UsbDeviceImp × List UInt8) :=
  match getDescriptor setting.node bytes with
  | none => .fail
  | some (desc, left) => do
      let bDeviceClass ← readByte desc 4
      if bDeviceClass = usbClassHub ∧ setting.portInfo = false then .fail
      else if setting.connectInfo = false then .fail
      else do
        let devDesc ← readDevice desc
        let device := configureUsbDeviceImp .blank devDesc.bLength.toInt8
          devDesc.bDescriptorType.toInt8 devDesc.bDeviceClass.toInt8
          devDesc.bDeviceSubClass.toInt8 devDesc.bDeviceProtocol.toInt8
          devDesc.bMaxPacketSize0.toInt8 devDesc.iManufacturer.toInt8 devDesc.iProduct.toInt8
          devDesc.iSerialNumber.toInt8 devDesc.bNumConfigurations.toInt8 devDesc.idVendor.toInt16
          devDesc.idProduct.toInt16 devDesc.bcdDevice.toInt16 devDesc.bcdUSB.toInt16
          (if setting.node.slow then "1.5 Mbps" else "12 Mbps")
        buildConfigsReads setting devDesc.bNumConfigurations.toNat device left

/-! ### The structs -/

@[simp] theorem result_byte (buffer : Buffer) (offset : Nat) :
    (readByte buffer offset).result = some (buffer.byte offset) := rfl

@[simp] theorem result_word (buffer : Buffer) (offset : Nat) :
    (readWord buffer offset).result = some (buffer.word offset) := by
  simp [readWord, Buffer.word]

@[simp] theorem safe_byte_bind {α : Type} (buffer : Buffer) (offset : Nat)
    (next : UInt8 → Reading α) : (readByte buffer offset >>= next).Safe ↔
      offset < buffer.bytes.length ∧ (next (buffer.byte offset)).Safe :=
  Reading.safe_read_bind _ _ _ next

@[simp] theorem safe_word_bind {α : Type} (buffer : Buffer) (offset : Nat)
    (next : UInt16 → Reading α) : (readWord buffer offset >>= next).Safe ↔
      offset + 1 < buffer.bytes.length ∧ (next (buffer.word offset)).Safe := by
  rw [Reading.safe_bind_some (result_word buffer offset), readWord, safe_byte_bind, safe_byte_bind]
  simp only [Reading.safe_pure, and_true]
  constructor
  · exact fun inside => ⟨inside.1.2, inside.2⟩
  · exact fun inside => ⟨⟨by omega, inside.1⟩, inside.2⟩

theorem device_read (buffer : Buffer) : (readDevice buffer).result = some buffer.asDevice ∧
    ((readDevice buffer).Safe ↔ 18 ≤ buffer.bytes.length) := by
  constructor
  · simp [readDevice, Buffer.asDevice]
  · simp only [readDevice, safe_byte_bind, safe_word_bind, Reading.safe_pure, and_true]
    omega

theorem config_read (buffer : Buffer) : (readConfig buffer).result = some buffer.asConfig ∧
    ((readConfig buffer).Safe ↔ 9 ≤ buffer.bytes.length) := by
  constructor
  · simp [readConfig, Buffer.asConfig]
  · simp only [readConfig, safe_byte_bind, safe_word_bind, Reading.safe_pure, and_true]
    omega

theorem interface_read (buffer : Buffer) :
    (readInterface buffer).result = some buffer.asInterface ∧
      ((readInterface buffer).Safe ↔ 9 ≤ buffer.bytes.length) := by
  constructor
  · simp [readInterface, Buffer.asInterface]
  · simp only [readInterface, safe_byte_bind, Reading.safe_pure, and_true]
    omega

theorem endpoint_read (buffer : Buffer) :
    (readEndpoint buffer).result = some buffer.asEndpoint ∧
      ((readEndpoint buffer).Safe ↔ 7 ≤ buffer.bytes.length) := by
  constructor
  · simp [readEndpoint, Buffer.asEndpoint]
  · simp only [readEndpoint, safe_byte_bind, safe_word_bind, Reading.safe_pure, and_true]
    omega

theorem print_read (setting : Setting) (buffer : Buffer) (offset : Nat) :
    (printByte setting buffer offset).result = some () ∧
      ((printByte setting buffer offset).Safe ↔
        (setting.printing = true → offset < buffer.bytes.length)) := by
  unfold printByte
  split_ifs with printing <;> simp [printing]

/-! ### The results are those of the parser -/

theorem interface_result (setting : Setting) (left : List UInt8) (device : UsbDeviceImp)
    (config : Nat) (desc : Buffer) :
    (buildInterfaceReads setting left device config desc).result =
      some (buildInterface setting.node left device config desc.asInterface) := by
  simp [buildInterfaceReads, (print_read setting desc 2).1, (interface_read desc).1]

theorem endpoint_result (setting : Setting) (device : UsbDeviceImp) (iface : Option Nat)
    (desc : Buffer) :
    (buildEndpointReads setting device iface desc).result =
      some (buildEndpoint device iface desc.asEndpoint) := by
  cases iface with
  | none => simp [buildEndpointReads, (print_read setting desc 2).1, buildEndpoint]
  | some iface =>
      simp [buildEndpointReads, (print_read setting desc 2).1, (endpoint_read desc).1]

theorem type_result (setting : Setting) (left : List UInt8) (device : UsbDeviceImp)
    (config : Nat) (iface : Option Nat) (desc : Buffer) :
    (buildByTypeReads setting left device config iface desc).result =
      buildByType setting.node left device config iface desc := by
  simp only [buildByTypeReads, Reading.result_bind, result_byte, Option.bind_some, buildByType]
  split_ifs
  · rfl
  · rfl
  · simp [interface_result]
  · simp [endpoint_result]
  · rfl

theorem descriptors_reads_done (setting : Setting) (config : Nat) {total pos : Nat}
    (iface : Option Nat) (device : UsbDeviceImp) (bytes : List UInt8) (done : ¬ pos < total) :
    buildDescriptorsReads setting config total pos iface device bytes = pure (device, bytes) := by
  rw [buildDescriptorsReads, if_neg done]

theorem descriptors_reads_missing {setting : Setting} (config : Nat) {total pos : Nat}
    (iface : Option Nat) (device : UsbDeviceImp) {bytes : List UInt8} (more : pos < total)
    (missing : cut bytes = none) :
    buildDescriptorsReads setting config total pos iface device bytes = .fail := by
  rw [buildDescriptorsReads, if_pos more]
  split
  case h_1 => rfl
  case h_2 here =>
    rw [read_missing setting.node missing] at here
    contradiction

theorem descriptors_reads_found {setting : Setting} (config : Nat) {total pos : Nat}
    (iface : Option Nat) (device : UsbDeviceImp) {bytes desc left : List UInt8}
    (more : pos < total) (found : cut bytes = some (desc, left)) :
    buildDescriptorsReads setting config total pos iface device bytes = (do
      let len ← readByte ⟨desc, setting.node.stray left⟩ 0
      if len < 2 then .fail
      else do
        let (iface, device) ← buildByTypeReads setting left device config iface
          ⟨desc, setting.node.stray left⟩
        buildDescriptorsReads setting config total (pos + len.toNat) iface device left) := by
  rw [buildDescriptorsReads, if_pos more]
  have read := read_found setting.node found
  split
  case h_1 here =>
    rw [read] at here
    contradiction
  case h_2 here =>
    rw [read] at here
    cases here
    rfl

theorem descriptors_result (setting : Setting) (config total : Nat) (bytes : List UInt8) :
    ∀ pos iface device,
      (buildDescriptorsReads setting config total pos iface device bytes).result =
        buildDescriptors setting.node config total pos iface device bytes := by
  induction bytes using stream_induction with
  | step bytes ih =>
      intro pos iface device
      by_cases more : pos < total
      · cases found : cut bytes with
        | none =>
            rw [descriptors_reads_missing config iface device more found,
              build_descriptors_missing config iface device more (read_missing _ found)]
            rfl
        | some parts =>
            obtain ⟨desc, left⟩ := parts
            rw [descriptors_reads_found config iface device more found,
              build_descriptors_found config iface device more (read_found _ found)]
            simp only [Reading.result_bind, result_byte, Option.bind_some]
            split_ifs with short
            · rfl
            · rw [Reading.result_bind, type_result]
              apply congrArg
              funext built
              exact ih desc left found _ _ _
      · rw [descriptors_reads_done _ _ _ _ _ more, build_descriptors_done _ _ _ _ _ _ _ more]
        rfl

theorem config_result (setting : Setting) (device : UsbDeviceImp) (bytes : List UInt8) :
    (buildConfigReads setting device bytes).result =
      buildConfig setting.node device bytes := by
  unfold buildConfigReads buildConfig
  cases getDescriptor setting.node bytes with
  | none => rfl
  | some parts =>
      obtain ⟨desc, left⟩ := parts
      simp only [Reading.result_bind, (print_read setting desc 5).1, (config_read desc).1,
        Option.bind_some]
      exact descriptors_result setting _ _ left _ none _

theorem configs_result (setting : Setting) (ncfg : Nat) :
    ∀ device bytes, (buildConfigsReads setting ncfg device bytes).result =
      buildConfigs setting.node ncfg device bytes := by
  induction ncfg with
  | zero => exact fun device bytes => rfl
  | succ ncfg ih =>
      intro device bytes
      rw [buildConfigsReads, buildConfigs, Reading.result_bind, config_result]
      cases buildConfig setting.node device bytes with
      | none => rfl
      | some built => exact ih built.1 built.2

theorem device_result (setting : Setting) (portInfo : setting.portInfo = true)
    (connectInfo : setting.connectInfo = true) (bytes : List UInt8) :
    (buildDeviceReads setting bytes).result = buildDevice setting.node bytes := by
  unfold buildDeviceReads buildDevice
  cases getDescriptor setting.node bytes with
  | none => rfl
  | some parts =>
      obtain ⟨desc, left⟩ := parts
      simp only [portInfo, connectInfo, Bool.true_eq_false, and_false, if_false,
        Reading.result_bind, result_byte, (device_read desc).1, Option.bind_some]
      exact configs_result setting _ _ left

/-! ### How long the descriptors have to be -/

/-- The bytes that are needed of a descriptor inside a configuration; `seen` tells
whether an interface came before it. -/
def needed (printing seen : Bool) (desc : List UInt8) : Nat :=
  if desc[1]? = some usbDtInterface then 9
  else if desc[1]? = some usbDtEndpoint then (if seen then 7 else if printing then 3 else 0)
  else 0

def ItemsLong (printing : Bool) : Bool → List (List UInt8) → Prop
  | _, [] => True
  | seen, desc :: descs => needed printing seen desc ≤ desc.length ∧
      ItemsLong printing (seen || desc[1]? == some usbDtInterface) descs

def statedTotal (header : List UInt8) : Nat :=
  ((⟨header, fun _ => 0⟩ : Buffer).word 2).toNat

/-- The configurations: the first descriptor of each, and those of its loop. -/
def cutConfigs : Nat → List UInt8 → List (List UInt8 × List (List UInt8))
  | 0, _ => []
  | ncfg + 1, bytes =>
      match cut bytes with
      | none => []
      | some (header, left) =>
          let items := cutItems (statedTotal header) header.length left
          (header, items.1) :: match items.2 with
            | none => []
            | some rest => cutConfigs ncfg rest

def ConfigsLong (printing : Bool) (configs : List (List UInt8 × List (List UInt8))) : Prop :=
  ∀ config ∈ configs, 9 ≤ config.1.length ∧ ItemsLong printing false config.2

def endsEarly (setting : Setting) (desc : List UInt8) : Bool :=
  (desc[4]? == some usbClassHub && !setting.portInfo) || !setting.connectInfo

def LongEnough (setting : Setting) (bytes : List UInt8) : Prop :=
  ∀ desc left, cut bytes = some (desc, left) → 5 ≤ desc.length ∧
    (endsEarly setting desc = false → 18 ≤ desc.length ∧
      ∀ ncfg, desc[17]? = some ncfg →
        ConfigsLong setting.printing (cutConfigs ncfg.toNat left))

theorem interface_safe (setting : Setting) (left : List UInt8) (device : UsbDeviceImp)
    (config : Nat) (desc : Buffer) :
    (buildInterfaceReads setting left device config desc).Safe ↔ 9 ≤ desc.bytes.length := by
  rw [buildInterfaceReads, Reading.safe_bind_some (print_read setting desc 2).1,
    Reading.safe_bind_some (interface_read desc).1, (print_read setting desc 2).2,
    (interface_read desc).2]
  simp only [Reading.safe_pure, and_true]
  exact ⟨And.right, fun long => ⟨fun _ => by omega, long⟩⟩

theorem endpoint_safe (setting : Setting) (device : UsbDeviceImp) (iface : Option Nat)
    (desc : Buffer) : (buildEndpointReads setting device iface desc).Safe ↔
      (if iface.isSome then 7 else if setting.printing then 3 else 0) ≤ desc.bytes.length := by
  unfold buildEndpointReads
  rw [Reading.safe_bind_some (print_read setting desc 2).1, (print_read setting desc 2).2]
  cases iface with
  | none =>
      simp only [Reading.safe_pure, and_true, Option.isSome_none, Bool.false_eq_true, if_false]
      split_ifs with printing <;> simp [printing, Nat.succ_le_iff]
  | some iface =>
      simp only [Reading.safe_bind_some (endpoint_read desc).1, (endpoint_read desc).2,
        Reading.safe_pure, and_true, Option.isSome_some, if_true]
      exact ⟨And.right, fun long => ⟨fun _ => by omega, long⟩⟩

theorem type_safe (setting : Setting) (left : List UInt8) (device : UsbDeviceImp) (config : Nat)
    (iface : Option Nat) {desc : List UInt8} (past : Nat → UInt8) (long : 2 ≤ desc.length) :
    (buildByTypeReads setting left device config iface ⟨desc, past⟩).Safe ↔
      needed setting.printing iface.isSome desc ≤ desc.length := by
  match desc with
  | [] => simp at long
  | [_] => simp at long
  | len :: type :: payload =>
      have byte : (⟨len :: type :: payload, past⟩ : Buffer).byte 1 = type := rfl
      have second : (len :: type :: payload)[1]? = some type := rfl
      have inside : 1 < (len :: type :: payload).length := by simp
      simp only [buildByTypeReads, safe_byte_bind, byte, needed, second, Option.some.injEq,
        inside, true_and]
      by_cases interface : type = usbDtInterface
      · subst interface
        have notDevice : usbDtInterface ≠ usbDtDevice := by decide
        have notConfig : usbDtInterface ≠ usbDtConfig := by decide
        rw [if_neg notDevice, if_neg notConfig, if_pos rfl, if_pos rfl,
          Reading.safe_bind_some (interface_result setting left device config _), interface_safe]
        simp
      · by_cases endpoint : type = usbDtEndpoint
        · subst endpoint
          have notDevice : usbDtEndpoint ≠ usbDtDevice := by decide
          have notConfig : usbDtEndpoint ≠ usbDtConfig := by decide
          rw [if_neg notDevice, if_neg notConfig, if_neg interface, if_pos rfl, if_neg interface,
            if_pos rfl, Reading.safe_bind_some (endpoint_result setting device iface _),
            endpoint_safe]
          simp only [Reading.safe_pure, and_true]
        · rw [if_neg interface, if_neg endpoint, if_neg interface, if_neg endpoint]
          split_ifs <;> simp

theorem type_seen {node : Node} {left : List UInt8} {device after : UsbDeviceImp}
    {config : Nat} {iface next : Option Nat} {desc : List UInt8} {past : Nat → UInt8}
    (long : 2 ≤ desc.length)
    (built : buildByType node left device config iface ⟨desc, past⟩ = some (next, after)) :
    next.isSome = (iface.isSome || desc[1]? == some usbDtInterface) := by
  match desc with
  | [] => simp at long
  | [_] => simp at long
  | len :: type :: payload =>
      have byte : (⟨len :: type :: payload, past⟩ : Buffer).byte 1 = type := rfl
      simp only [buildByType, byte] at built
      split_ifs at built with device config interface endpoint <;> cases built
      · simp [interface]
      · simp [interface]
      · simp [interface]

/-- The loop reads inside its descriptors if and only if they are long enough. -/
theorem items_safe (setting : Setting) (config total pos : Nat) (bytes : List UInt8) :
    ∀ iface device, (buildDescriptorsReads setting config total pos iface device bytes).Safe ↔
      ItemsLong setting.printing iface.isSome (cutItems total pos bytes).1 := by
  induction pos, bytes using cut_induction total with
  | done pos bytes done =>
      intro iface device
      rw [descriptors_reads_done _ _ _ _ _ done, cut_items_done bytes done]
      simp [ItemsLong]
  | missing pos bytes more missing =>
      intro iface device
      rw [descriptors_reads_missing config iface device more missing,
        cut_items_none more missing]
      simp [ItemsLong]
  | stop pos bytes desc left more found stops =>
      intro iface device
      have framed := (cut_framed found).1
      rw [descriptors_reads_found config iface device more found,
        cut_items_stop more found stops, safe_byte_bind]
      simp only [byte_short framed, framed_positive framed, true_and, ItemsLong, and_true]
      split_ifs with short
      · have single : desc[1]? = none := by
          rw [List.getElem?_eq_none_iff]
          omega
        simp [needed, single]
      · have long : 2 ≤ desc.length := Nat.not_lt.mp short
        have fails := build_by_type_ordinary setting.node left device config iface
          (setting.node.stray left) long
        rw [stops, Option.isSome_eq_false_iff, Option.isNone_iff_eq_none] at fails
        rw [Reading.safe_bind, type_result, fails,
          type_safe setting left device config iface _ long]
        simp
  | next pos bytes desc left more found passes ih =>
      intro iface device
      have framed := (cut_framed found).1
      have long := ordinary_long passes
      obtain ⟨next, after, built⟩ := build_by_type_next setting.node left device config iface
        passes (setting.node.stray left)
      have result : (buildByTypeReads setting left device config iface
          ⟨desc, setting.node.stray left⟩).result = some (next, after) := by
        rw [type_result, built]
      rw [descriptors_reads_found config iface device more found,
        cut_items_next more found passes, safe_byte_bind]
      simp only [byte_short framed, framed_positive framed, true_and, ItemsLong,
        if_neg (Nat.not_lt.mpr long), Reading.safe_bind_some result, framed_length framed,
        type_safe setting left device config iface _ long, ih next after, type_seen long built]

/-! ### Configurations and the device -/

theorem byte_inside {desc : List UInt8} (past : Nat → UInt8) {offset : Nat}
    (inside : offset < desc.length) :
    desc[offset]? = some ((⟨desc, past⟩ : Buffer).byte offset) := by
  simp [Buffer.byte, inside]

theorem byte_past {desc : List UInt8} (past other : Nat → UInt8) {offset : Nat}
    (inside : offset < desc.length) :
    (⟨desc, past⟩ : Buffer).byte offset = (⟨desc, other⟩ : Buffer).byte offset :=
  Option.some.inj ((byte_inside past inside).symm.trans (byte_inside other inside))

theorem stated_total {header : List UInt8} (past : Nat → UInt8) (long : 9 ≤ header.length) :
    (Buffer.asConfig ⟨header, past⟩).wTotalLength.toNat = statedTotal header := by
  have low : 2 < header.length := by omega
  have high : 2 + 1 < header.length := by omega
  simp only [Buffer.asConfig, statedTotal, Buffer.word, byte_past past (fun _ => 0) low,
    byte_past past (fun _ => 0) high]

theorem config_safe (setting : Setting) (device : UsbDeviceImp) {bytes header left : List UInt8}
    (found : cut bytes = some (header, left)) :
    (buildConfigReads setting device bytes).Safe ↔ 9 ≤ header.length ∧
      ItemsLong setting.printing false (cutItems (statedTotal header) header.length left).1 := by
  have length : (Buffer.asConfig ⟨header, setting.node.stray left⟩).bLength.toNat =
      header.length := framed_length (cut_framed found).1 (setting.node.stray left)
  simp only [buildConfigReads, read_found setting.node found,
    Reading.safe_bind_some (print_read setting _ 5).1, (print_read setting _ 5).2,
    Reading.safe_bind_some (config_read _).1, (config_read _).2]
  rw [items_safe, length]
  constructor
  · rintro ⟨_, long, items⟩
    rw [stated_total _ long] at items
    exact ⟨long, items⟩
  · rintro ⟨long, items⟩
    rw [stated_total _ long]
    exact ⟨fun _ => by omega, long, items⟩

theorem configs_safe (setting : Setting) (ncfg : Nat) :
    ∀ device bytes, (buildConfigsReads setting ncfg device bytes).Safe ↔
      ConfigsLong setting.printing (cutConfigs ncfg bytes) := by
  induction ncfg with
  | zero =>
      intro device bytes
      simp [buildConfigsReads, cutConfigs, ConfigsLong]
  | succ ncfg ih =>
      intro device bytes
      rw [buildConfigsReads, Reading.safe_bind, config_result, cutConfigs]
      cases found : cut bytes with
      | none =>
          simp [buildConfigReads, buildConfig, read_missing setting.node found, ConfigsLong]
      | some parts =>
          obtain ⟨header, left⟩ := parts
          rw [config_safe setting device found]
          simp only [ConfigsLong, List.forall_mem_cons]
          apply and_congr_right
          intro first
          have total : totalLength setting.node bytes = statedTotal header := by
            simp only [totalLength, read_found setting.node found]
            exact stated_total _ first.1
          have ends := build_config_left setting.node device found
          rw [total] at ends
          cases items : (cutItems (statedTotal header) header.length left).2 with
          | none =>
              rw [items, Option.map_eq_none_iff] at ends
              simp [ends]
          | some rest =>
              rw [items] at ends
              obtain ⟨⟨after, other⟩, built, rfl⟩ := Option.map_eq_some_iff.mp ends
              rw [built]
              simp only [Option.some.injEq, forall_eq']
              exact ih after other

theorem device_safe (setting : Setting) {bytes desc left : List UInt8}
    (found : cut bytes = some (desc, left)) :
    (buildDeviceReads setting bytes).Safe ↔ 5 ≤ desc.length ∧
      (endsEarly setting desc = false → 18 ≤ desc.length ∧
        ∀ ncfg, desc[17]? = some ncfg →
          ConfigsLong setting.printing (cutConfigs ncfg.toNat left)) := by
  simp only [buildDeviceReads, read_found setting.node found, safe_byte_bind]
  apply and_congr_right
  intro long
  have early : endsEarly setting desc =
      ((Buffer.byte ⟨desc, setting.node.stray left⟩ 4 == usbClassHub && !setting.portInfo) ||
        !setting.connectInfo) := by
    rw [endsEarly, byte_inside (setting.node.stray left) long]
    simp
  by_cases noPorts : Buffer.byte ⟨desc, setting.node.stray left⟩ 4 = usbClassHub ∧
      setting.portInfo = false
  · rw [if_pos noPorts]
    simp [early, noPorts]
  · rw [if_neg noPorts]
    cases connection : setting.connectInfo with
    | false => simp [early, connection]
    | true =>
        have goesOn : endsEarly setting desc = false := by
          simpa [early, connection] using noPorts
        rw [if_neg (by simp), Reading.safe_bind_some (device_read _).1, (device_read _).2,
          configs_safe]
        simp only [goesOn, forall_const]
        apply and_congr_right
        intro whole
        have inside : 17 < desc.length := whole
        rw [byte_inside (setting.node.stray left) inside]
        simp only [Option.some.injEq, forall_eq']
        rfl

/-- Every access stays inside its descriptor if and only if each descriptor is
as long as the part of it that the code reads. -/
theorem fields_inside_iff (setting : Setting) (bytes : List UInt8) :
    (buildDeviceReads setting bytes).Safe ↔ LongEnough setting bytes := by
  cases found : cut bytes with
  | none => simp [buildDeviceReads, LongEnough, read_missing setting.node found, found]
  | some parts =>
      obtain ⟨desc, left⟩ := parts
      rw [device_safe setting found]
      constructor
      · intro long other rest here
        rw [found] at here
        cases here
        exact long
      · exact fun long => long desc left found

def shortInterface : List UInt8 :=
  [18, 1, 0, 1, 0, 0, 0, 8, 94, 4, 40, 0, 0, 1, 0, 0, 0, 1] ++
    ([9, 2, 11, 0, 1, 1, 0, 128, 50] ++ [2, 4])

theorem interface_read_past_end :
    ¬ (buildDeviceReads ⟨silentNode, true, true, false⟩ shortInterface).Safe := by
  have device : cut shortInterface = some (shortInterface.take 18, shortInterface.drop 18) := by
    decide
  rw [device_safe _ device]
  intro long
  have items : cutItems 11 9 [2, 4] = ([[2, 4]], some []) := by
    have interface : cut [2, 4] = some ([2, 4], []) := by decide
    rw [cut_items_next (by decide) interface (by decide), cut_items_done _ (by decide)]
  have configs := (long.2 (by decide)).2 1 (by decide)
  have first := (configs ([9, 2, 11, 0, 1, 1, 0, 128, 50], (cutItems 11 9 [2, 4]).1)
    List.mem_cons_self).2
  rw [items] at first
  exact absurd first.1 (by decide)

end JavaxUsbLinux.DescriptorBounds
