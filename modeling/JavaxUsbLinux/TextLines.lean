import Mathlib.Data.List.Infix
import Mathlib.Data.List.TakeWhile

/-!
# Lines of text

Texts are lists of characters. `getline` reads a line with its line end, and
`strstr` searches the string up to the terminating zero. On a text that is made
of lines, both can be taken line by line.
-/

namespace JavaxUsbLinux.TextLines

set_option autoImplicit false

abbrev Text := List Char

def getline : Text → Option (Text × Text)
  | [] => none
  | char :: file =>
      if char = '\n' then some ([char], file)
      else
        match getline file with
        | none => some ([char], [])
        | some (line, left) => some (char :: line, left)

def cString (buffer : Text) : Text :=
  buffer.takeWhile fun char => char != '\x00'

def strstr (buffer needle : Text) : Bool :=
  decide (needle <:+: cString buffer)

def Plain (text : Text) : Prop :=
  '\n' ∉ text ∧ '\x00' ∉ text

theorem plain_append {front back : Text} : Plain (front ++ back) ↔ Plain front ∧ Plain back := by
  simp only [Plain, List.mem_append, not_or]
  tauto

def textOf (lines : List Text) : Text :=
  lines.flatMap (· ++ ['\n'])

theorem getline_line {line : Text} (plain : Plain line) (left : Text) :
    getline (line ++ ['\n'] ++ left) = some (line ++ ['\n'], left) := by
  have noEnd := plain.1
  clear plain
  induction line with
  | nil => rfl
  | cons char line ih =>
      rw [List.mem_cons, not_or] at noEnd
      rw [List.cons_append, List.cons_append, getline, if_neg (Ne.symm noEnd.1), ih noEnd.2]

theorem c_string_line {line : Text} (plain : Plain line) :
    cString (line ++ ['\n']) = line ++ ['\n'] ∧ cString line = line := by
  have ends : ∀ text : Text, '\x00' ∉ text → cString text = text := by
    intro text noZero
    apply List.takeWhile_eq_self_iff.mpr
    intro char member
    rw [bne_iff_ne]
    rintro rfl
    exact noZero member
  refine ⟨ends _ ?_, ends line plain.2⟩
  rw [List.mem_append, not_or]
  exact ⟨plain.2, by decide⟩

theorem strstr_line {line needle : Text} (plain : Plain line) (noEnd : '\n' ∉ needle) :
    strstr (line ++ ['\n']) needle = strstr line needle := by
  obtain ⟨withEnd, without⟩ := c_string_line plain
  rw [strstr, strstr, withEnd, without, decide_eq_decide, List.infix_concat_iff]
  constructor
  · rintro (atEnd | inside)
    · rcases List.suffix_concat_iff.mp atEnd with rfl | ⟨front, rfl, _⟩
      · exact List.nil_infix
      · exact absurd (List.mem_append_right front List.mem_cons_self) noEnd
    · exact inside
  · exact Or.inr

end JavaxUsbLinux.TextLines
