import Mathlib.Data.List.Sort
import JavaxUsbLinux.BusGraph

/-!
# The names of buses and device nodes

`scandir` selects the entries of a directory whose names are numbers, and sorts them by
name. The numbers are those that `atoi` reads, and `build_device` makes a name of three
digits from a number again. A character of a name is a byte.
-/

namespace JavaxUsbLinux.NodeNames

open JavaxUsbLinux.BusDirectories
open JavaxUsbLinux.BusGraph
open JavaxUsbLinux.NodeKeys

set_option autoImplicit false

abbrev Name := List Char

/-- An entry of a directory. `stMode` is the mode that is in `stbuf` after `stat`. -/
structure Dirent where
  dName : Name
  stMode : Nat

/-! ### Reading a number -/

def isspace (char : Char) : Bool :=
  char == ' ' || ('\t'.toNat ≤ char.toNat && char.toNat ≤ '\r'.toNat)

def digitsFrom (value : Nat) : Name → Nat
  | [] => value
  | char :: rest =>
      if char.isDigit then digitsFrom (10 * value + (char.toNat - '0'.toNat)) rest else value

/-- `strtol(name, NULL, 10)`, for names that are short. -/
def strtol (name : Name) : Int :=
  match name.dropWhile isspace with
  | '-' :: rest => -(digitsFrom 0 rest : Int)
  | '+' :: rest => digitsFrom 0 rest
  | rest => digitsFrom 0 rest

def Dirent.number (entry : Dirent) : Nat :=
  (strtol entry.dName).toNat

/-! ### Selecting and sorting entries -/

def sIfDir : Nat := 0x4000
def sIfReg : Nat := 0x8000

def selectDirent (type : Nat) (entry : Dirent) : Bool :=
  entry.dName.length == 3 && type &&& entry.stMode != 0 &&
    decide (1 ≤ strtol entry.dName ∧ strtol entry.dName ≤ 127)

def selectDirentDir : Dirent → Bool := selectDirent sIfDir

def selectDirentReg : Dirent → Bool := selectDirent sIfReg

def precedes : Name → Name → Bool
  | [], _ => true
  | _ :: _, [] => false
  | char :: name, other :: rest =>
      if char.toNat < other.toNat then true
      else if other.toNat < char.toNat then false
      else precedes name rest

def alphasort (first second : Dirent) : Prop :=
  precedes first.dName second.dName = true

instance : DecidableRel alphasort :=
  fun first second => inferInstanceAs (Decidable (precedes first.dName second.dName = true))

/-- No two entries of a directory have the same name, so it does not matter that `qsort`
may exchange equal ones. -/
def scandir (select : Dirent → Bool) (entries : List Dirent) : List Dirent :=
  (entries.filter select).insertionSort alphasort

/-! ### Names of three digits -/

def Decimal (name : Name) : Prop :=
  name.length = 3 ∧ ∀ char ∈ name, char.isDigit = true

theorem is_digit_iff (char : Char) : char.isDigit = true ↔ 48 ≤ char.toNat ∧ char.toNat ≤ 57 := by
  simp only [Char.isDigit, UInt32.le_iff_toNat_le, ge_iff_le, Bool.and_eq_true, decide_eq_true_eq]
  rfl

theorem digit_is_digit (value : Nat) : (digit value).isDigit = true := by
  rw [is_digit_iff, digit_to_nat]
  omega

theorem digit_congr {value other : Nat} (same : value % 10 = other % 10) :
    digit value = digit other := by
  rw [digit, digit, same]

theorem exists_digit {char : Char} (decimal : char.isDigit = true) :
    ∃ value < 10, char = digit value := by
  rw [is_digit_iff] at decimal
  refine ⟨char.toNat - 48, by omega, ?_⟩
  rw [← Char.toNat_inj, digit_to_nat]
  omega

theorem decimal_iff (name : Name) :
    Decimal name ↔ ∃ dev < 1000, name = (threeDigits dev).toList := by
  constructor
  · rintro ⟨length, decimal⟩
    match name with
    | [hundreds, tens, ones] =>
        obtain ⟨first, _, rfl⟩ := exists_digit (decimal hundreds (by simp))
        obtain ⟨second, _, rfl⟩ := exists_digit (decimal tens (by simp))
        obtain ⟨third, _, rfl⟩ := exists_digit (decimal ones (by simp))
        refine ⟨100 * first + 10 * second + third, by omega, ?_⟩
        simp only [threeDigits, String.toList_ofList, List.cons.injEq, and_true]
        exact ⟨digit_congr (by omega), digit_congr (by omega), digit_congr (by omega)⟩
  · rintro ⟨dev, _, rfl⟩
    simp [Decimal, threeDigits, digit_is_digit]

theorem digits_from_digit (value dev : Nat) (rest : Name) :
    digitsFrom value (digit dev :: rest) = digitsFrom (10 * value + dev % 10) rest := by
  rw [digitsFrom, if_pos (digit_is_digit dev), digit_to_nat]
  congr 2
  have zero : '0'.toNat = 48 := rfl
  omega

theorem digit_ne (dev : Nat) {char : Char} (less : char.toNat < 48) : digit dev ≠ char := by
  rintro rfl
  rw [digit_to_nat] at less
  omega

theorem strtol_digit (dev : Nat) (rest : Name) :
    strtol (digit dev :: rest) = digitsFrom 0 (digit dev :: rest) := by
  have blank : isspace (digit dev) = false := by
    have range : ¬ (digit dev).toNat ≤ '\r'.toNat := by
      rw [digit_to_nat]
      exact Nat.not_le.mpr (Nat.lt_add_right _ (by decide))
    rw [isspace, beq_false_of_ne (digit_ne dev (by decide)), decide_eq_false range]
    simp
  rw [strtol, List.dropWhile_cons_of_neg (by simp [blank])]
  split
  · rename_i same
    exact absurd (List.cons.inj same).1 (digit_ne dev (by decide))
  · rename_i same
    exact absurd (List.cons.inj same).1 (digit_ne dev (by decide))
  · rfl

theorem strtol_three_digits {dev : Nat} (small : dev < 1000) :
    strtol (threeDigits dev).toList = dev := by
  rw [threeDigits, String.toList_ofList, strtol_digit, digits_from_digit, digits_from_digit,
    digits_from_digit, digitsFrom]
  omega

theorem three_digits_precede {dev other : Nat} (small : dev < 1000) (otherSmall : other < 1000) :
    precedes (threeDigits dev).toList (threeDigits other).toList = true ↔ dev ≤ other := by
  simp only [threeDigits, String.toList_ofList, precedes, digit_to_nat, Bool.if_true_left,
    Bool.if_false_left, Bool.or_eq_true, Bool.and_eq_true, Bool.not_eq_true', decide_eq_true_eq,
    decide_eq_false_iff_not, and_true]
  omega

/-! ### The listings -/

section

variable {type : Nat} {entries : List Dirent}

theorem selected_iff (entry : Dirent) : selectDirent type entry = true ↔
    entry.dName.length = 3 ∧ type &&& entry.stMode ≠ 0 ∧ 1 ≤ strtol entry.dName ∧
      strtol entry.dName ≤ 127 := by
  simp [selectDirent, and_assoc]

theorem selected_number {entry : Dirent} (selected : selectDirent type entry = true) :
    (entry.number : Int) = strtol entry.dName ∧ 1 ≤ entry.number ∧ entry.number ≤ 127 := by
  obtain ⟨_, _, positive, small⟩ := (selected_iff entry).mp selected
  rw [Dirent.number]
  omega

theorem reopened_iff {entry : Dirent} (selected : selectDirent type entry = true) :
    (threeDigits entry.number).toList = entry.dName ↔ Decimal entry.dName := by
  obtain ⟨number, _, small⟩ := selected_number selected
  rw [decimal_iff]
  constructor
  · intro same
    exact ⟨entry.number, by omega, same.symm⟩
  · rintro ⟨dev, bound, name⟩
    rw [name, strtol_three_digits bound] at number
    rw [name, Int.ofNat_inj.mp number]

variable (decimal : ∀ entry ∈ entries, selectDirent type entry = true → Decimal entry.dName)

include decimal

theorem alphasort_iff {first second : Dirent}
    (member : first ∈ entries.filter (selectDirent type))
    (other : second ∈ entries.filter (selectDirent type)) :
    alphasort first second ↔ first.number ≤ second.number := by
  rw [List.mem_filter] at member other
  have firstName := (reopened_iff member.2).mpr (decimal first member.1 member.2)
  have secondName := (reopened_iff other.2).mpr (decimal second other.1 other.2)
  have firstSmall := (selected_number member.2).2.2
  have secondSmall := (selected_number other.2).2.2
  rw [alphasort, ← firstName, ← secondName, three_digits_precede (by omega) (by omega)]

theorem scan_numbers : (scandir (selectDirent type) entries).map Dirent.number =
    ((entries.filter (selectDirent type)).map Dirent.number).insertionSort (· ≤ ·) :=
  List.map_insertionSort _ _ _ _ fun _ member _ other => alphasort_iff decimal member other

theorem listed_iff (number : Nat) :
    number ∈ (scandir (selectDirent type) entries).map Dirent.number ↔
      ∃ entry ∈ entries, selectDirent type entry = true ∧ entry.number = number := by
  rw [scan_numbers decimal, List.mem_insertionSort, List.mem_map]
  simp only [List.mem_filter, and_assoc]

theorem listing_sorted :
    ((scandir (selectDirent type) entries).map Dirent.number).Pairwise (· ≤ ·) := by
  rw [scan_numbers decimal]
  exact List.pairwise_insertionSort _ _

/-- What `scandir` lists are the numbers from 1 to 127 whose names of three digits are in
the directory and of the right type, in increasing order. -/
theorem listing_exact (distinct : (entries.map Dirent.dName).Nodup) :
    ((scandir (selectDirent type) entries).map Dirent.number).Pairwise (· < ·) ∧
      ∀ number, number ∈ (scandir (selectDirent type) entries).map Dirent.number ↔
        1 ≤ number ∧ number ≤ 127 ∧ ∃ entry ∈ entries,
          entry.dName = (threeDigits number).toList ∧ type &&& entry.stMode ≠ 0 := by
  constructor
  · have different : ((scandir (selectDirent type) entries).map Dirent.number).Nodup := by
      rw [scan_numbers decimal, (List.perm_insertionSort _ _).nodup_iff]
      refine List.Nodup.map_on ?_ (distinct.of_map.filter _)
      intro first member second other same
      rw [List.mem_filter] at member other
      refine List.inj_on_of_nodup_map distinct member.1 other.1 ?_
      rw [← (reopened_iff member.2).mpr (decimal first member.1 member.2), same]
      exact (reopened_iff other.2).mpr (decimal second other.1 other.2)
    exact ((listing_sorted decimal).and different).imp fun less => lt_of_le_of_ne less.1 less.2
  · intro number
    rw [listed_iff decimal]
    constructor
    · rintro ⟨entry, member, selected, rfl⟩
      obtain ⟨_, positive, small⟩ := selected_number selected
      exact ⟨positive, small, entry, member,
        ((reopened_iff selected).mpr (decimal entry member selected)).symm,
        ((selected_iff entry).mp selected).2.1⟩
    · rintro ⟨positive, small, entry, member, name, mode⟩
      have value := strtol_three_digits (show number < 1000 by omega)
      refine ⟨entry, member, (selected_iff entry).mpr ?_, ?_⟩
      · rw [name, value]
        exact ⟨by simp [threeDigits], mode, by omega, by omega⟩
      · rw [Dirent.number, name, value]
        rfl

end

def twoNodes : List Dirent :=
  [⟨['.'], 0x41ed⟩, ⟨['0', '0', '2'], 0x81a4⟩, ⟨['0', '0', '1'], 0x81a4⟩,
    ⟨['0', '0', '1', '2'], 0x81a4⟩]

theorem two_nodes_decimal :
    ∀ node ∈ twoNodes, selectDirentReg node = true → Decimal node.dName := by
  intro node member selected
  simp only [twoNodes, List.mem_cons, List.not_mem_nil, or_false] at member
  rcases member with rfl | rfl | rfl | rfl
  · exact absurd selected (by decide)
  · exact ⟨rfl, List.all_eq_true.mp rfl⟩
  · exact ⟨rfl, List.all_eq_true.mp rfl⟩
  · exact absurd selected (by decide)

theorem listing_exact_two_nodes :
    (scandir selectDirentReg twoNodes).map Dirent.number = [1, 2] ∧
      ((scandir selectDirentReg twoNodes).map Dirent.number).Pairwise (· < ·) :=
  ⟨by decide, (listing_exact two_nodes_decimal (by decide)).1⟩

/-- Where the selected names are of digits, as usbdevfs writes them, the host controller of
a bus has the lowest address of its device nodes, and the node that `build_device` opens
for it is the one that was listed. -/
theorem host_controller_lowest {nodes : List Dirent}
    (decimal : ∀ node ∈ nodes, selectDirentReg node = true → Decimal node.dName) {bus : Bus}
    (entered : bus.entered = true)
    (listed : bus.devlist = some ((scandir selectDirentReg nodes).map Dirent.number)) :
    (bus.found = none ∧ ∀ node ∈ nodes, selectDirentReg node = false) ∨
      ∃ host ∈ nodes, selectDirentReg host = true ∧
        (∀ other ∈ nodes, selectDirentReg other = true → host.number ≤ other.number) ∧
        (threeDigits host.number).toList = host.dName ∧ bus.found = bus.build host.number := by
  have sorted := listing_sorted decimal
  have members := listed_iff decimal
  rw [Bus.found, if_pos entered, listed]
  cases numbers : (scandir selectDirentReg nodes).map Dirent.number with
  | nil =>
      refine Or.inl ⟨rfl, fun node member => Bool.eq_false_iff.mpr fun selected => ?_⟩
      have inside := (members node.number).mpr ⟨node, member, selected, rfl⟩
      rw [selectDirentReg] at numbers
      rw [numbers] at inside
      cases inside
  | cons hcAddress later =>
      rw [selectDirentReg] at numbers
      rw [numbers] at sorted members
      obtain ⟨host, member, selected, address⟩ := (members hcAddress).mp List.mem_cons_self
      refine Or.inr ⟨host, member, selected, ?_, (reopened_iff selected).mpr
        (decimal host member selected), by rw [address]⟩
      intro other listedOther also
      rcases List.mem_cons.mp ((members other.number).mpr ⟨other, listedOther, also, rfl⟩) with
        same | inside
      · rw [address, same]
      · rw [address]
        exact List.rel_of_pairwise_cons sorted inside

def twoNodesBus : Bus where
  dName := "001"
  entered := true
  devlist := some [1, 2]
  build address := some (address, .done)
  returned := true

theorem host_controller_lowest_two_nodes :
    ∃ host ∈ twoNodes, (threeDigits host.number).toList = host.dName ∧
      twoNodesBus.found = some (host.number, .done) ∧
      ∀ other ∈ twoNodes, selectDirentReg other = true → host.number ≤ other.number := by
  have listed : twoNodesBus.devlist =
      some ((scandir selectDirentReg twoNodes).map Dirent.number) := by decide
  rcases host_controller_lowest two_nodes_decimal rfl listed with
    ⟨nothing, _⟩ | ⟨host, member, _, least, name, found⟩
  · cases nothing
  · exact ⟨host, member, name, found, least⟩

end JavaxUsbLinux.NodeNames
