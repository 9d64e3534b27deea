import JavaxUsbLinux.TextLines

/-!
# The devices file of usbdevfs

`config_use_devices_file` looks up a configuration in the text of
`/proc/bus/usb/devices`. It searches each line for the fields it wants, wherever
they stand in the line, and takes the length that `getline` returns for a
`size_t`, so that the end of the file does not end the loop.
-/

namespace JavaxUsbLinux.DevicesFile

open JavaxUsbLinux.TextLines

set_option autoImplicit false

/-! ### The scan -/

/-- A number with at least `width` places, filled up from the left. -/
def padded (fill : Char) (width : Nat) (number : UInt8) : Text :=
  let digits := Nat.toDigits 10 number.toNat
  List.replicate (width - digits.length) fill ++ digits

def busstr (bus : UInt8) : Text := ['B', 'u', 's', '='] ++ padded '0' 2 bus

def devstr (dev : UInt8) : Text := ['D', 'e', 'v', '#', '='] ++ padded ' ' 3 dev

def cfgstr (config : UInt8) : Text := ['C', 'f', 'g', '#', '='] ++ padded ' ' 2 config

def topologyMark : Text := ['T', ':']
def configMark : Text := ['C', ':']
def activeMark : Text := ['C', ':', '*']

structure Wanted where
  bus : UInt8
  dev : UInt8
  config : UInt8

def Wanted.section (wanted : Wanted) (line : Text) : Bool :=
  strstr line topologyMark && (strstr line (busstr wanted.bus) && strstr line (devstr wanted.dev))

/-- The tests on a line: the new `in_dev`, or the result. -/
def checkLine (wanted : Wanted) (inDev : Bool) (line : Text) : Bool ⊕ Int :=
  if strstr line topologyMark && inDev then .inr (-1)
  else if wanted.section line then .inl true
  else if inDev && strstr line (cfgstr wanted.config) then
    .inr (if strstr line activeMark then 0 else 1)
  else .inl inDev

structure Scan where
  file : Text
  inDev : Bool

/-- `SIZE_MAX`, which is what the -1 of `getline` is as a `size_t`. -/
def sizeMax : Nat := 4294967295

/-- One iteration of the loop. At the end of the file the line is the empty one
of `memset`. -/
def iteration (wanted : Wanted) (scan : Scan) : Scan ⊕ Int :=
  let (len, line, left) :=
    match getline scan.file with
    | none => (sizeMax, [], [])
    | some (line, left) => (line.length, line, left)
  if 0 > len then .inr (-1)
  else if len = 0 then .inr (-1)
  else
    match checkLine wanted scan.inDev line with
    | .inl inDev => .inl ⟨left, inDev⟩
    | .inr ret => .inr ret

def scanLoop (wanted : Wanted) : Nat → Scan → Option Int
  | 0, _ => none
  | iterations + 1, scan =>
      match iteration wanted scan with
      | .inl scan => scanLoop wanted iterations scan
      | .inr ret => some ret

/-- Whether `malloc` gives the line, and the text of the file if `fopen` opens it. -/
structure World where
  line : Bool
  file : Option Text

def configUseDevicesFile (world : World) (wanted : Wanted) (iterations : Nat) : Option Int :=
  if world.line then
    match world.file with
    | none => some (-1)
    | some file => scanLoop wanted iterations ⟨file, false⟩
  else some (-1)

/-! ### The text -/

/-- A configuration line; its number ends before `after`. -/
structure ConfigLine where
  active : Bool
  number : UInt8
  before : Text
  after : Text
  plain : Plain (before ++ after)
  ends : after.head?.any Char.isDigit = false

def ConfigLine.text (line : ConfigLine) : Text :=
  configMark ++ [if line.active then '*' else ' '] ++ line.before ++ cfgstr line.number ++
    line.after

inductive SectionLine where
  | config (line : ConfigLine)
  | other (text : Text) (plain : Plain text) (noTopology : ¬ topologyMark <+: text)
      (noConfig : ¬ configMark <+: text)

namespace SectionLine

def text : SectionLine → Text
  | config line => line.text
  | other text _ _ _ => text

def configLine : SectionLine → Option ConfigLine
  | config line => some line
  | other _ _ _ _ => none

end SectionLine

/-- The section of a device: the parts of its topology line, and the lines after it. -/
structure DeviceSection where
  bus : UInt8
  dev : UInt8
  before : Text
  between : Text
  after : Text
  plain : Plain (before ++ between ++ after)
  busEnds : between.head?.any Char.isDigit = false
  devEnds : after.head?.any Char.isDigit = false
  lines : List SectionLine

namespace DeviceSection

def topologyLine (device : DeviceSection) : Text :=
  topologyMark ++ device.before ++ busstr device.bus ++ device.between ++ devstr device.dev ++
    device.after

def texts (device : DeviceSection) : List Text :=
  device.topologyLine :: device.lines.map SectionLine.text

end DeviceSection

def linesOf (devices : List DeviceSection) : List Text :=
  devices.flatMap DeviceSection.texts

/-- The configuration line that is wanted, if its device has a section with it. -/
def wantedLine (devices : List DeviceSection) (wanted : Wanted) : Option ConfigLine :=
  (devices.find? fun device => device.bus == wanted.bus && device.dev == wanted.dev).bind
    fun device => (device.lines.filterMap SectionLine.configLine).find?
      fun line => line.number == wanted.config

/-- What the function is to return. -/
def answer : Option ConfigLine → Int
  | none => -1
  | some line => if line.active then 0 else 1

def LookedUp (devices : List DeviceSection) (wanted : Wanted) : Prop :=
  ∃ iterations, configUseDevicesFile ⟨true, some (textOf (linesOf devices))⟩ wanted iterations =
    some (answer (wantedLine devices wanted))

/-! ### Lines -/

theorem plain_padded {fill : Char} (fills : Plain [fill]) (width : Nat) (number : UInt8) :
    Plain (padded fill width number) := by
  have digits : Plain (Nat.toDigits 10 number.toNat) := by
    constructor
    · intro member
      exact absurd (Nat.isDigit_of_mem_toDigits (by decide) (by decide) member) (by decide)
    · intro member
      exact absurd (Nat.isDigit_of_mem_toDigits (by decide) (by decide) member) (by decide)
  refine plain_append.mpr ⟨⟨?_, ?_⟩, digits⟩
  · intro member
    exact fills.1 (List.mem_singleton.mpr (List.eq_of_mem_replicate member))
  · intro member
    exact fills.2 (List.mem_singleton.mpr (List.eq_of_mem_replicate member))

theorem plain_busstr (bus : UInt8) : Plain (busstr bus) :=
  plain_append.mpr ⟨⟨by decide, by decide⟩, plain_padded ⟨by decide, by decide⟩ 2 bus⟩

theorem plain_devstr (dev : UInt8) : Plain (devstr dev) :=
  plain_append.mpr ⟨⟨by decide, by decide⟩, plain_padded ⟨by decide, by decide⟩ 3 dev⟩

theorem plain_cfgstr (config : UInt8) : Plain (cfgstr config) :=
  plain_append.mpr ⟨⟨by decide, by decide⟩, plain_padded ⟨by decide, by decide⟩ 2 config⟩

theorem plain_section_line (line : SectionLine) : Plain line.text := by
  cases line with
  | config line =>
      obtain ⟨before, after⟩ := plain_append.mp line.plain
      have mark : Plain (configMark ++ [if line.active then '*' else ' ']) := by
        cases line.active <;> exact ⟨by decide, by decide⟩
      simp only [SectionLine.text, ConfigLine.text, plain_append]
      exact ⟨⟨⟨plain_append.mp mark, before⟩, plain_cfgstr line.number⟩, after⟩
  | other text plain _ _ => exact plain

theorem plain_lines (devices : List DeviceSection) : ∀ line ∈ linesOf devices, Plain line := by
  intro line member
  obtain ⟨device, _, member⟩ := List.mem_flatMap.mp member
  rcases List.mem_cons.mp member with rfl | member
  · obtain ⟨front, after⟩ := plain_append.mp device.plain
    obtain ⟨before, between⟩ := plain_append.mp front
    simp only [DeviceSection.topologyLine, plain_append]
    exact ⟨⟨⟨⟨⟨⟨by decide, by decide⟩, before⟩, plain_busstr device.bus⟩, between⟩,
      plain_devstr device.dev⟩, after⟩
  · obtain ⟨line, _, rfl⟩ := List.mem_map.mp member
    exact plain_section_line line

/-! ### The scan line by line -/

/-- The result on lines; `none` if the scan comes to their end. -/
def verdict (wanted : Wanted) : Bool → List Text → Option Int
  | _, [] => none
  | inDev, line :: lines =>
      match checkLine wanted inDev line with
      | .inl inDev => verdict wanted inDev lines
      | .inr ret => some ret

theorem check_line_end (wanted : Wanted) (inDev : Bool) {line : Text} (plain : Plain line) :
    checkLine wanted inDev (line ++ ['\n']) = checkLine wanted inDev line := by
  unfold checkLine Wanted.section
  rw [strstr_line plain (show '\n' ∉ topologyMark by decide),
    strstr_line plain (show '\n' ∉ activeMark by decide),
    strstr_line plain (plain_busstr wanted.bus).1, strstr_line plain (plain_devstr wanted.dev).1,
    strstr_line plain (plain_cfgstr wanted.config).1]

theorem iteration_line (wanted : Wanted) (inDev : Bool) {line : Text} (plain : Plain line)
    (lines : List Text) :
    iteration wanted ⟨textOf (line :: lines), inDev⟩ =
      (checkLine wanted inDev line).map (fun inDev => ⟨textOf lines, inDev⟩) id := by
  have read : getline (textOf (line :: lines)) = some (line ++ ['\n'], textOf lines) :=
    getline_line plain (textOf lines)
  have long : (line ++ ['\n']).length ≠ 0 := by simp
  simp only [iteration, read, check_line_end wanted inDev plain]
  rw [if_neg (Nat.not_lt_zero _), if_neg long]
  cases checkLine wanted inDev line <;> rfl

theorem iteration_end (wanted : Wanted) (inDev : Bool) :
    iteration wanted ⟨[], inDev⟩ = .inl ⟨[], inDev⟩ := by
  have none : checkLine wanted inDev [] = .inl inDev := by
    have noCfg : strstr [] (cfgstr wanted.config) = false := by
      simp [strstr, cString, cfgstr]
    simp only [checkLine, Wanted.section, noCfg, show strstr [] topologyMark = false from rfl,
      Bool.false_and, Bool.and_false, Bool.false_eq_true, if_false]
  simp only [iteration, getline, none]
  rfl

theorem scan_at_end (wanted : Wanted) (inDev : Bool) (iterations : Nat) :
    scanLoop wanted iterations ⟨[], inDev⟩ = none := by
  induction iterations with
  | zero => rfl
  | succ iterations ih =>
      rw [scanLoop, iteration_end]
      exact ih

theorem scan_returns_iff (wanted : Wanted) {lines : List Text} (inDev : Bool) (ret : Int)
    (plain : ∀ line ∈ lines, Plain line) :
    (∃ iterations, scanLoop wanted iterations ⟨textOf lines, inDev⟩ = some ret) ↔
      verdict wanted inDev lines = some ret := by
  induction lines generalizing inDev with
  | nil =>
      constructor
      · rintro ⟨iterations, returned⟩
        have none := scan_at_end wanted inDev iterations
        exact absurd (none.symm.trans returned) (by simp)
      · intro returned
        cases returned
  | cons line lines ih =>
      rw [List.forall_mem_cons] at plain
      have step := iteration_line wanted inDev plain.1 lines
      rw [verdict]
      cases check : checkLine wanted inDev line with
      | inl next =>
          rw [check] at step
          rw [← ih next plain.2]
          constructor
          · rintro ⟨iterations, returned⟩
            cases iterations with
            | zero => cases returned
            | succ iterations =>
                rw [scanLoop, step] at returned
                exact ⟨iterations, returned⟩
          · rintro ⟨iterations, returned⟩
            refine ⟨iterations + 1, ?_⟩
            rw [scanLoop, step]
            exact returned
      | inr result =>
          rw [check] at step
          constructor
          · rintro ⟨iterations, returned⟩
            cases iterations with
            | zero => cases returned
            | succ iterations =>
                rw [scanLoop, step] at returned
                exact returned
          · intro returned
            refine ⟨1, ?_⟩
            rw [scanLoop, step]
            exact returned

/-! ### The lines that matter -/

def Wanted.ends (wanted : Wanted) (line : Text) : Bool :=
  strstr line topologyMark || strstr line (cfgstr wanted.config)

/-- The first such line after the first one that has the marks of the section. -/
def decisiveLine (wanted : Wanted) (lines : List Text) : Option Text :=
  ((lines.dropWhile fun line => !wanted.section line).drop 1).find? wanted.ends

/-- The line says the same as the entry of the device and the configuration. -/
def Agrees (line : Text) : Option ConfigLine → Prop
  | none => strstr line topologyMark = true
  | some entry => strstr line topologyMark = false ∧ strstr line activeMark = entry.active

/-- The result on the decisive line. -/
def lineAnswer (line : Text) : Int :=
  if strstr line topologyMark then -1 else if strstr line activeMark then 0 else 1

theorem line_answer_iff (line : Text) (entry : Option ConfigLine) :
    lineAnswer line = answer entry ↔ Agrees line entry := by
  unfold lineAnswer
  cases entry with
  | none =>
      simp only [answer, Agrees]
      split_ifs with topology active <;> simp [topology]
  | some entry =>
      simp only [answer, Agrees]
      cases strstr line topologyMark <;> cases strstr line activeMark <;>
        cases entry.active <;> decide

theorem verdict_inside (wanted : Wanted) (lines : List Text) :
    verdict wanted true lines = (lines.find? wanted.ends).map lineAnswer := by
  induction lines with
  | nil => rfl
  | cons line lines ih =>
      rw [verdict, List.find?_cons, checkLine, Wanted.section, Wanted.ends]
      cases topology : strstr line topologyMark with
      | true => simp [lineAnswer, topology]
      | false =>
          cases config : strstr line (cfgstr wanted.config) with
          | true => simp [lineAnswer, topology]
          | false => simpa using ih

theorem verdict_outside (wanted : Wanted) (lines : List Text) :
    verdict wanted false lines = (decisiveLine wanted lines).map lineAnswer := by
  induction lines with
  | nil => rfl
  | cons line lines ih =>
      rw [decisiveLine] at ih ⊢
      rw [verdict, checkLine, List.dropWhile_cons]
      cases found : wanted.section line with
      | true => simpa [found] using verdict_inside wanted lines
      | false => simpa [found] using ih

/-- The lookup ends with the right answer exactly if there is a decisive line and
this agrees with the entry. -/
theorem looked_up_iff (devices : List DeviceSection) (wanted : Wanted) :
    LookedUp devices wanted ↔ ∃ line, decisiveLine wanted (linesOf devices) = some line ∧
      Agrees line (wantedLine devices wanted) := by
  have returns := scan_returns_iff wanted false (answer (wantedLine devices wanted))
    (plain_lines devices)
  have run : LookedUp devices wanted ↔
      verdict wanted false (linesOf devices) = some (answer (wantedLine devices wanted)) := returns
  rw [run, verdict_outside, Option.map_eq_some_iff]
  exact exists_congr fun line => and_congr_right fun _ => line_answer_iff line _

def rootHub : DeviceSection where
  bus := 1
  dev := 1
  before := [' ', ' ']
  between := [' ', 'L', 'e', 'v', '=', '0', '0', ' ']
  after := [' ', 'S', 'p', 'd', '=', '1', '2']
  plain := ⟨by decide, by decide⟩
  busEnds := by decide
  devEnds := by decide
  lines := [.config {
    active := true
    number := 1
    before := [' ', '#', 'I', 'f', 's', '=', ' ', '1', ' ']
    after := [' ', 'A', 't', 'r', '=', '4', '0']
    plain := ⟨by decide, by decide⟩
    ends := by decide }]

example : configUseDevicesFile ⟨true, some (textOf (linesOf [rootHub]))⟩ ⟨1, 1, 1⟩ 2 = some 0 := by
  decide

theorem missing_device_not_looked_up : ¬ LookedUp [rootHub] ⟨1, 2, 1⟩ := by
  intro found
  have returned := (scan_returns_iff ⟨1, 2, 1⟩ false _ (plain_lines [rootHub])).mp found
  rw [verdict_outside, show decisiveLine ⟨1, 2, 1⟩ (linesOf [rootHub]) = none by decide] at returned
  cases returned

end JavaxUsbLinux.DevicesFile
