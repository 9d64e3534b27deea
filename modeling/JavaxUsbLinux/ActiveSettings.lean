import JavaxUsbLinux.DescriptorFraming

/-!
# Active settings and the active configuration

An interface setting is made active if its configuration is active when the
setting is created. A configuration that comes later may take that place. The
module says for which answers of the checks this leaves active settings in a
configuration that is not the active one.
-/

namespace JavaxUsbLinux.ActiveSettings

open JavaxUsbLinux.Descriptors
open JavaxUsbLinux.DescriptorFraming
open JavaxUsbLinux.DescriptorRoundTrip
open JavaxUsbLinux.DescriptorStream

set_option autoImplicit false

/-! ### Answers -/

/-- What the checks say about a configuration: whether it is active, and whether
one of its interface settings is. -/
structure ConfigAnswers where
  value : Int8
  active : Bool
  setting : Bool

/-- The active number after some configurations: the last active one decides. -/
def activeNumber : Int8 → List ConfigAnswers → Int8
  | number, [] => number
  | number, answers :: later =>
      activeNumber (if answers.active then answers.value else number) later

/-- No configuration that has an active setting is overtaken by a later one. -/
def NotOvertaken (configs : List ConfigAnswers) : Prop :=
  configs.Pairwise fun earlier later =>
    earlier.active = true → earlier.setting = true → later.active = false

theorem active_number_from (number : Int8) (configs : List ConfigAnswers) :
    activeNumber number configs = number ∨
      activeNumber number configs ∈ configs.map ConfigAnswers.value := by
  induction configs generalizing number with
  | nil => exact Or.inl rfl
  | cons answers later ih =>
      rw [activeNumber, List.map_cons, List.mem_cons]
      rcases ih (if answers.active then answers.value else number) with same | chosen
      · rw [same]
        split_ifs
        · exact Or.inr (Or.inl rfl)
        · exact Or.inl rfl
      · exact Or.inr (Or.inr chosen)

/-- Among different numbers the active one stays only if none takes its place. -/
theorem number_stays_iff {number : Int8} {configs : List ConfigAnswers}
    (distinct : (number :: configs.map ConfigAnswers.value).Nodup) :
    activeNumber number configs = number ↔ ∀ answers ∈ configs, answers.active = false := by
  induction configs with
  | nil => simp [activeNumber]
  | cons answers later ih =>
      rw [List.map_cons, List.nodup_cons, List.mem_cons, not_or] at distinct
      obtain ⟨⟨other, fresh⟩, tail⟩ := distinct
      rw [activeNumber, List.forall_mem_cons]
      cases active : answers.active with
      | true =>
          simp only [if_true, Bool.true_eq_false, false_and, iff_false]
          intro same
          rcases active_number_from answers.value later with kept | chosen
          · exact other (same.symm.trans kept)
          · exact fresh (same ▸ chosen)
      | false =>
          simp only [Bool.false_eq_true, if_false, true_and]
          exact ih (List.nodup_cons.mpr ⟨fresh, (List.nodup_cons.mp tail).2⟩)

theorem next_distinct {number : Int8} {answers : ConfigAnswers} {values : List Int8}
    (distinct : (number :: answers.value :: values).Nodup) :
    ((if answers.active then answers.value else number) :: values).Nodup := by
  rw [List.nodup_cons, List.mem_cons, not_or] at distinct
  obtain ⟨⟨_, fresh⟩, tail⟩ := distinct
  split_ifs
  · exact tail
  · exact List.nodup_cons.mpr ⟨fresh, (List.nodup_cons.mp tail).2⟩

theorem settings_active_iff {number : Int8} {configs : List ConfigAnswers}
    (distinct : (number :: configs.map ConfigAnswers.value).Nodup) :
    (∀ answers ∈ configs, answers.active = true → answers.setting = true →
      answers.value = activeNumber number configs) ↔ NotOvertaken configs := by
  induction configs generalizing number with
  | nil => simp [NotOvertaken]
  | cons answers later ih =>
      rw [List.map_cons] at distinct
      have tail := (List.nodup_cons.mp distinct).2
      unfold NotOvertaken at ih ⊢
      rw [List.pairwise_cons, List.forall_mem_cons, activeNumber, ih (next_distinct distinct)]
      refine and_congr_left fun _ => ?_
      cases active : answers.active with
      | true =>
          rw [if_pos rfl]
          constructor
          · intro stays other member _ setting
            exact (number_stays_iff tail).mp (stays rfl setting).symm other member
          · intro inactive _ setting
            exact ((number_stays_iff tail).mpr fun other member =>
              inactive other member rfl setting).symm
      | false => simp

/-! ### The answers along the stream -/

def reportedActive (node : Node) (left : List UInt8) (desc : Buffer) : Bool :=
  desc.byte 1 == usbDtInterface && isInterfaceSettingActive node left
    desc.asInterface.bInterfaceNumber desc.asInterface.bAlternateSetting

def settingReported (node : Node) : List (List UInt8) → List UInt8 → Bool
  | [], _ => false
  | desc :: descs, bytes =>
      let left := bytes.drop desc.length
      reportedActive node left ⟨desc, node.stray left⟩ || settingReported node descs left

def answersOf (node : Node) (cfgDesc : JusbConfigDescriptor) (items : List (List UInt8))
    (left : List UInt8) : ConfigAnswers where
  value := cfgDesc.bConfigurationValue.toInt8
  active := isConfigActive node left cfgDesc.bConfigurationValue
  setting := settingReported node items left

def configItems (desc : Buffer) (left : List UInt8) : List (List UInt8) × Option (List UInt8) :=
  cutItems desc.asConfig.wTotalLength.toNat desc.asConfig.bLength.toNat left

def configAnswers (node : Node) : Nat → List UInt8 → List ConfigAnswers
  | 0, _ => []
  | ncfg + 1, bytes =>
      match getDescriptor node bytes with
      | none => []
      | some (desc, left) =>
          let items := configItems desc left
          answersOf node desc.asConfig items.1 left ::
            match items.2 with
            | none => []
            | some rest => configAnswers node ncfg rest

def deviceAnswers (node : Node) (bytes : List UInt8) : List ConfigAnswers :=
  match getDescriptor node bytes with
  | none => []
  | some (desc, left) => configAnswers node desc.asDevice.bNumConfigurations.toNat left

/-! ### The settings of a device -/

def InConfig (device : UsbDeviceImp) (number : Int8) (setting : Nat × Int8) : Prop :=
  ∃ iface config, device.interfaces[setting.1]? = some iface ∧
    device.configs[iface.config]? = some config ∧ config.configValue = number

def SettingsIn (device : UsbDeviceImp) (number : Int8) : Prop :=
  ∀ setting ∈ device.activeSettings, InConfig device number setting

def OnlyActive (device : UsbDeviceImp) : Prop :=
  SettingsIn device device.activeConfigNumber

def Placed (device : UsbDeviceImp) : Prop :=
  ∀ setting ∈ device.activeSettings, ∃ number, InConfig device number setting

/-- What the loop of `build_config` does to the device: `reported` tells whether
one of the interface settings it has created is reported active. -/
structure Grows (before after : UsbDeviceImp) (config : Nat) (reported : Bool) : Prop where
  configs : after.configs = before.configs
  number : after.activeConfigNumber = before.activeConfigNumber
  interfaces : before.interfaces <+: after.interfaces
  settings : ∃ more, after.activeSettings = before.activeSettings ++ more ∧
    (∀ setting ∈ more, ∃ iface, after.interfaces[setting.1]? = some iface ∧
      iface.config = config) ∧
    (more ≠ [] ↔ before.isActive config = true ∧ reported = true)

theorem still_at {Element : Type} {before after : List Element} (grown : before <+: after)
    {index : Nat} {element : Element} (here : before[index]? = some element) :
    after[index]? = some element := by
  obtain ⟨more, rfl⟩ := grown
  obtain ⟨inside, _⟩ := List.getElem?_eq_some_iff.mp here
  rw [List.getElem?_append_left inside]
  exact here

namespace Grows

theorem nothing (device : UsbDeviceImp) (config : Nat) : Grows device device config false where
  configs := rfl
  number := rfl
  interfaces := List.prefix_refl _
  settings := ⟨[], (List.append_nil _).symm, by simp, by simp⟩

theorem still_active {before after : UsbDeviceImp} {config : Nat} {reported : Bool}
    (grows : Grows before after config reported) :
    after.isActive config = before.isActive config := by
  rw [UsbDeviceImp.isActive, UsbDeviceImp.isActive, grows.configs, grows.number]

theorem trans {first second third : UsbDeviceImp} {config : Nat} {reported later : Bool}
    (grows : Grows first second config reported) (more : Grows second third config later) :
    Grows first third config (reported || later) := by
  obtain ⟨added, addedIs, addedIn, addedIff⟩ := grows.settings
  obtain ⟨next, nextIs, nextIn, nextIff⟩ := more.settings
  constructor
  case configs => rw [more.configs, grows.configs]
  case number => rw [more.number, grows.number]
  case interfaces => exact grows.interfaces.trans more.interfaces
  case settings =>
    refine ⟨added ++ next, by rw [nextIs, addedIs, List.append_assoc], ?_, ?_⟩
    · intro setting member
      rcases List.mem_append.mp member with member | member
      · obtain ⟨iface, here, belongs⟩ := addedIn setting member
        exact ⟨iface, still_at more.interfaces here, belongs⟩
      · exact nextIn setting member
    · rw [grows.still_active] at nextIff
      rw [Ne, List.append_eq_nil_iff, not_and_or, ← Ne, ← Ne, addedIff, nextIff, ← and_or_left,
        Bool.or_eq_true]

theorem endpoint (device : UsbDeviceImp) (config : Nat) (iface : Option Nat)
    (epDesc : JusbEndpointDescriptor) :
    Grows device (buildEndpoint device iface epDesc) config false := by
  cases iface with
  | none => exact nothing device config
  | some iface =>
      exact ⟨rfl, rfl, List.prefix_refl _, (nothing device config).settings⟩

theorem interface (node : Node) (left : List UInt8) (device : UsbDeviceImp) (config : Nat)
    (ifDesc : JusbInterfaceDescriptor) :
    Grows device (buildInterface node left device config ifDesc).2 config
      (isInterfaceSettingActive node left ifDesc.bInterfaceNumber ifDesc.bAlternateSetting) := by
  constructor
  case configs => rfl
  case number => rfl
  case interfaces => exact List.prefix_append _ _
  case settings =>
    simp only [buildInterface, createUsbInterfaceImp]
    split_ifs with both
    · refine ⟨_, rfl, ?_, ?_⟩
      · intro setting member
        rw [List.mem_singleton] at member
        subst member
        exact ⟨_, List.getElem?_concat_length, rfl⟩
      · rw [Bool.and_eq_true] at both
        simpa using both
    · refine ⟨[], (List.append_nil _).symm, by simp, ?_⟩
      rw [Bool.and_eq_true] at both
      exact iff_of_false (by simp) both

/-- One descriptor adds at most its own setting. -/
theorem by_type {node : Node} {left : List UInt8} {device after : UsbDeviceImp} {config : Nat}
    {iface next : Option Nat} {desc : Buffer}
    (built : buildByType node left device config iface desc = some (next, after)) :
    Grows device after config (reportedActive node left desc) := by
  unfold buildByType at built
  unfold reportedActive
  by_cases type : desc.byte 1 = usbDtInterface
  · rw [type] at built ⊢
    simp only [usbDtInterface, usbDtDevice, usbDtConfig] at built
    cases built
    rw [beq_self_eq_true, Bool.true_and]
    exact interface node left device config desc.asInterface
  · rw [beq_false_of_ne type, Bool.false_and]
    rw [if_neg type] at built
    split_ifs at built
    · cases built
      exact endpoint device config iface desc.asEndpoint
    · cases built
      exact nothing device config

/-- The loop of `build_config` adds the settings of its configuration. -/
theorem loop (node : Node) (config total pos : Nat) (bytes : List UInt8) :
    ∀ iface device after rest,
      buildDescriptors node config total pos iface device bytes = some (after, rest) →
        Grows device after config (settingReported node (cutItems total pos bytes).1 bytes) := by
  induction pos, bytes using cut_induction total with
  | done pos bytes done =>
      intro iface device after rest built
      rw [build_descriptors_done _ _ _ _ _ _ _ done] at built
      cases built
      rw [cut_items_done bytes done]
      exact nothing device config
  | missing pos bytes more missing =>
      intro iface device after rest built
      rw [build_descriptors_missing config iface device more (read_missing node missing)] at built
      cases built
  | stop pos bytes desc left more found stops =>
      intro iface device after rest built
      have ends := build_descriptors_left node config total pos bytes iface device
      rw [built, cut_items_stop more found stops] at ends
      cases ends
  | next pos bytes desc left more found passes ih =>
      intro iface device after rest built
      have length := framed_length (cut_framed found).1 (node.stray left)
      obtain ⟨next, middle, step⟩ :=
        build_by_type_next node left device config iface passes (node.stray left)
      rw [build_descriptors_step more (read_found node found)
        (by rw [length]; exact ordinary_long passes) step, length] at built
      have left_is : bytes.drop desc.length = left := by
        rw [(cut_framed found).2, List.drop_left]
      rw [cut_items_next more found passes, settingReported, left_is]
      exact (by_type step).trans (ih next middle after rest built)

end Grows

theorem in_config_mono {before after : UsbDeviceImp}
    (interfaces : before.interfaces <+: after.interfaces)
    (configs : before.configs <+: after.configs)
    {number : Int8} {setting : Nat × Int8} (here : InConfig before number setting) :
    InConfig after number setting := by
  obtain ⟨iface, config, found, belongs, value⟩ := here
  exact ⟨iface, config, still_at interfaces found, still_at configs belongs, value⟩

theorem in_config_unique {device : UsbDeviceImp} {number other : Int8} {setting : Nat × Int8}
    (here : InConfig device number setting) (there : InConfig device other setting) :
    number = other := by
  obtain ⟨iface, config, found, belongs, rfl⟩ := here
  obtain ⟨iface', config', found', belongs', rfl⟩ := there
  rw [found] at found'
  cases found'
  rw [belongs] at belongs'
  cases belongs'
  rfl

/-! ### Configurations -/

structure ConfigBuilt (before after : UsbDeviceImp) (answers : ConfigAnswers) : Prop where
  number : after.activeConfigNumber =
    if answers.active then answers.value else before.activeConfigNumber
  configs : before.configs <+: after.configs
  interfaces : before.interfaces <+: after.interfaces
  settings : ∃ more, after.activeSettings = before.activeSettings ++ more ∧
    (∀ setting ∈ more, InConfig after answers.value setting) ∧
    (more ≠ [] ↔ answers.active = true ∧ answers.setting = true)

/-- The number of a configuration that is not active must not be the active one. -/
theorem config_built {node : Node} {device after : UsbDeviceImp} {bytes left rest : List UInt8}
    {desc : Buffer} (found : getDescriptor node bytes = some (desc, left))
    (built : buildConfig node device bytes = some (after, rest))
    (other : isConfigActive node left desc.asConfig.bConfigurationValue = false →
      desc.asConfig.bConfigurationValue.toInt8 ≠ device.activeConfigNumber) :
    ConfigBuilt device after (answersOf node desc.asConfig (configItems desc left).1 left) := by
  simp only [buildConfig, found] at built
  have grows := Grows.loop node _ _ _ left _ _ after rest built
  obtain ⟨more, is, belong, any⟩ := grows.settings
  have created : after.configs[device.configs.length]? = some {
      length := desc.asConfig.bLength.toInt8
      type := desc.asConfig.bDescriptorType.toInt8
      totalLen := desc.asConfig.wTotalLength.toInt16
      numInterfaces := desc.asConfig.bNumInterfaces.toInt8
      configValue := desc.asConfig.bConfigurationValue.toInt8
      configIndex := desc.asConfig.iConfiguration.toInt8
      attributes := desc.asConfig.bmAttributes.toInt8
      maxPowerNeeded := desc.asConfig.bMaxPower.toInt8 } := by
    rw [grows.configs]
    exact List.getElem?_concat_length
  constructor
  case number => exact grows.number
  case configs => exact grows.configs ▸ List.prefix_append _ _
  case interfaces => exact grows.interfaces
  case settings =>
    refine ⟨more, is, ?_, any.trans (and_congr_left fun _ => ?_)⟩
    · intro setting member
      obtain ⟨iface, here, config⟩ := belong setting member
      exact ⟨iface, _, here, (congrArg _ config).trans created, rfl⟩
    · simp only [UsbDeviceImp.isActive, createUsbConfigImp, List.getElem?_concat_length, answersOf]
      cases active : isConfigActive node left desc.asConfig.bConfigurationValue with
      | true => simp
      | false => simpa using other active

namespace ConfigBuilt

variable {before after : UsbDeviceImp} {answers : ConfigAnswers}

theorem placed (step : ConfigBuilt before after answers) (places : Placed before) :
    Placed after := by
  obtain ⟨more, is, belong, _⟩ := step.settings
  intro setting member
  rw [is] at member
  rcases List.mem_append.mp member with member | member
  · obtain ⟨number, here⟩ := places setting member
    exact ⟨number, in_config_mono step.interfaces step.configs here⟩
  · exact ⟨_, belong setting member⟩

theorem settings_in_iff (step : ConfigBuilt before after answers) (places : Placed before)
    (number : Int8) : SettingsIn after number ↔ SettingsIn before number ∧
      (answers.active = true → answers.setting = true → answers.value = number) := by
  obtain ⟨more, is, belong, any⟩ := step.settings
  unfold SettingsIn
  rw [is, List.forall_mem_append]
  refine and_congr ?_ ?_
  · refine forall₂_congr fun setting member => ?_
    constructor
    · intro now
      obtain ⟨number', here⟩ := places setting member
      rw [in_config_unique now (in_config_mono step.interfaces step.configs here)]
      exact here
    · exact in_config_mono step.interfaces step.configs
  · constructor
    · intro all active setting
      obtain ⟨first, rest, cons⟩ := List.exists_cons_of_ne_nil (any.mpr ⟨active, setting⟩)
      have member : first ∈ more := cons ▸ List.mem_cons_self
      exact in_config_unique (belong first member) (all first member)
    · intro same setting member
      have both := any.mp (List.ne_nil_of_mem member)
      exact same both.1 both.2 ▸ belong setting member

end ConfigBuilt

theorem config_answers_cons {node : Node} {device after : UsbDeviceImp} {bytes rest : List UInt8}
    (built : buildConfig node device bytes = some (after, rest)) (ncfg : Nat) :
    ∃ desc left, getDescriptor node bytes = some (desc, left) ∧
      configAnswers node (ncfg + 1) bytes =
        answersOf node desc.asConfig (configItems desc left).1 left ::
          configAnswers node ncfg rest := by
  cases found : getDescriptor node bytes with
  | none => simp [buildConfig, found] at built
  | some parts =>
      obtain ⟨desc, left⟩ := parts
      simp only [buildConfig, found] at built
      have ends := build_descriptors_left node device.configs.length
        desc.asConfig.wTotalLength.toNat desc.asConfig.bLength.toNat left none
      have items : (configItems desc left).2 = some rest := by
        rw [configItems, ← ends]
        exact congrArg (Option.map Prod.snd) built
      refine ⟨desc, left, rfl, ?_⟩
      simp only [configAnswers, found, items]

theorem configs_built (node : Node) (ncfg : Nat) : ∀ device bytes after rest,
    buildConfigs node ncfg device bytes = some (after, rest) → Placed device →
      (device.activeConfigNumber ::
        (configAnswers node ncfg bytes).map ConfigAnswers.value).Nodup →
      after.activeConfigNumber =
          activeNumber device.activeConfigNumber (configAnswers node ncfg bytes) ∧
        ∀ number, SettingsIn after number ↔ SettingsIn device number ∧
          ∀ answers ∈ configAnswers node ncfg bytes, answers.active = true →
            answers.setting = true → answers.value = number := by
  induction ncfg with
  | zero =>
      intro device bytes after rest built _ _
      cases built
      simp [configAnswers, activeNumber]
  | succ ncfg ih =>
      intro device bytes after rest built places distinct
      rw [buildConfigs] at built
      cases first : buildConfig node device bytes with
      | none =>
          rw [first] at built
          cases built
      | some parts =>
          obtain ⟨middle, left⟩ := parts
          rw [first] at built
          obtain ⟨desc, tail, found, cons⟩ := config_answers_cons first ncfg
          rw [cons, List.map_cons] at distinct
          have step := config_built found first fun _ same =>
            (List.nodup_cons.mp distinct).1 (same ▸ List.mem_cons_self)
          obtain ⟨number, settings⟩ := ih middle left after rest built (step.placed places) (by
            rw [step.number]
            exact next_distinct distinct)
          rw [cons, activeNumber, ← step.number]
          refine ⟨number, fun number => ?_⟩
          rw [settings number, step.settings_in_iff places, List.forall_mem_cons, and_assoc]

theorem device_built {node : Node} {bytes rest : List UInt8} {device : UsbDeviceImp}
    (built : buildDevice node bytes = some (device, rest))
    (distinct : (0 :: (deviceAnswers node bytes).map ConfigAnswers.value).Nodup) :
    OnlyActive device ↔ ∀ answers ∈ deviceAnswers node bytes, answers.active = true →
      answers.setting = true → answers.value = activeNumber 0 (deviceAnswers node bytes) := by
  unfold deviceAnswers at distinct ⊢
  cases found : getDescriptor node bytes with
  | none => simp [buildDevice, found] at built
  | some parts =>
      obtain ⟨desc, left⟩ := parts
      simp only [found] at distinct
      simp only [buildDevice, found] at built
      obtain ⟨number, settings⟩ := configs_built node _ _ left device rest built
        (fun setting member => by cases member) distinct
      rw [OnlyActive, number, settings]
      exact and_iff_right fun setting member => by cases member

/-- With different numbers other than 0, only settings of the active
configuration are active exactly if no configuration with an active setting is
overtaken. -/
theorem only_active_iff {node : Node} {bytes rest : List UInt8} {device : UsbDeviceImp}
    (built : buildDevice node bytes = some (device, rest))
    (distinct : (0 :: (deviceAnswers node bytes).map ConfigAnswers.value).Nodup) :
    OnlyActive device ↔ NotOvertaken (deviceAnswers node bytes) :=
  (device_built built distinct).trans (settings_active_iff distinct)

def oneSetting (configuration : Option Nat) : Node where
  checks := ⟨true, false, true, true⟩
  slow := false
  stray _ _ := 0
  getConfiguration _ := configuration
  devicesFile _ _ := none
  getInterface _ _ := some 0

def firstConfig : List UInt8 := [9, 2, 18, 0, 1, 1, 0, 128, 50]
def firstInterface : List UInt8 := [9, 4, 0, 0, 0, 255, 0, 0, 0]
def secondConfig : List UInt8 := [9, 2, 9, 0, 0, 2, 0, 128, 50]

def bothConfigs : List UInt8 := firstConfig ++ (firstInterface ++ secondConfig)

def twoConfigs : List UInt8 :=
  [18, 1, 0, 1, 0, 0, 0, 8, 94, 4, 40, 0, 0, 1, 0, 0, 0, 2] ++ bothConfigs

theorem first_items : cutItems 18 9 (firstInterface ++ secondConfig) =
    ([firstInterface], some secondConfig) := by
  have interface : cut (firstInterface ++ secondConfig) = some (firstInterface, secondConfig) := by
    decide
  rw [cut_items_next (by decide) interface (by decide), cut_items_done _ (by decide)]

theorem second_items : cutItems 9 9 [] = ([], some []) :=
  cut_items_done _ (by decide)

theorem two_configs_answers (configuration : Option Nat) :
    deviceAnswers (oneSetting configuration) twoConfigs =
      [⟨1, (configuration.map (· == 1)).getD true, true⟩,
        ⟨2, (configuration.map (· == 2)).getD true, false⟩] := by
  have first : getDescriptor (oneSetting configuration) bothConfigs =
      some (⟨firstConfig, fun _ => 0⟩, firstInterface ++ secondConfig) := rfl
  have second : getDescriptor (oneSetting configuration) secondConfig =
      some (⟨secondConfig, fun _ => 0⟩, []) := rfl
  have firstItems : configItems ⟨firstConfig, fun _ => 0⟩ (firstInterface ++ secondConfig) =
      ([firstInterface], some secondConfig) := first_items
  have secondItems : configItems ⟨secondConfig, fun _ => 0⟩ [] = ([], some []) := second_items
  have device : deviceAnswers (oneSetting configuration) twoConfigs =
      configAnswers (oneSetting configuration) 2 bothConfigs := rfl
  rw [device, configAnswers, first]
  simp only [firstItems]
  rw [configAnswers, second]
  simp only [secondItems]
  cases configuration <;> rfl

theorem config_read_to {node : Node} {bytes header left rest : List UInt8}
    (found : cut bytes = some (header, left))
    (items : (cutItems (totalLength node bytes) header.length left).2 = some rest)
    (device : UsbDeviceImp) : ∃ after, buildConfig node device bytes = some (after, rest) := by
  have ends := build_config_left node device found
  rw [items] at ends
  obtain ⟨⟨after, _⟩, built, rfl⟩ := Option.map_eq_some_iff.mp ends
  exact ⟨after, built⟩

theorem two_configs_built (configuration : Option Nat) :
    ∃ device, buildDevice (oneSetting configuration) twoConfigs = some (device, []) := by
  have first : cut bothConfigs = some (firstConfig, firstInterface ++ secondConfig) := by decide
  have second : cut secondConfig = some (secondConfig, []) := by decide
  have firstTotal : totalLength (oneSetting configuration) bothConfigs = 18 := rfl
  have secondTotal : totalLength (oneSetting configuration) secondConfig = 9 := rfl
  have configured : ∃ blank, buildDevice (oneSetting configuration) twoConfigs =
      buildConfigs (oneSetting configuration) 2 blank bothConfigs := ⟨_, rfl⟩
  obtain ⟨blank, start⟩ := configured
  obtain ⟨middle, firstBuilt⟩ := config_read_to first
    (by rw [firstTotal]; exact congrArg Prod.snd first_items) blank
  obtain ⟨device, secondBuilt⟩ := config_read_to second
    (by rw [secondTotal]; exact congrArg Prod.snd second_items) middle
  refine ⟨device, ?_⟩
  rw [start, buildConfigs, firstBuilt]
  simp only
  rw [buildConfigs, secondBuilt]
  rfl

theorem only_active_two_configs :
    ∃ device, buildDevice (oneSetting (some 1)) twoConfigs = some (device, []) ∧
      OnlyActive device := by
  obtain ⟨device, built⟩ := two_configs_built (some 1)
  refine ⟨device, built, (only_active_iff built ?_).mpr ?_⟩
  · rw [two_configs_answers]
    decide
  · rw [two_configs_answers]
    simp [NotOvertaken]

/-- Without an answer the checks take both configurations for active. -/
theorem setting_in_overtaken_config :
    ∃ device, buildDevice (oneSetting none) twoConfigs = some (device, []) ∧
      (0 :: (deviceAnswers (oneSetting none) twoConfigs).map ConfigAnswers.value).Nodup ∧
      ¬ OnlyActive device := by
  obtain ⟨device, built⟩ := two_configs_built none
  have distinct : (0 :: (deviceAnswers (oneSetting none) twoConfigs).map
      ConfigAnswers.value).Nodup := by
    rw [two_configs_answers]
    decide
  refine ⟨device, built, distinct, ?_⟩
  rw [device_built built distinct, two_configs_answers]
  intro all
  have first := all ⟨1, true, true⟩ List.mem_cons_self rfl rfl
  exact absurd first (by decide)

end JavaxUsbLinux.ActiveSettings
