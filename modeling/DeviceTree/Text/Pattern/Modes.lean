/-
How a pattern is read.

A group may turn modes on and off.  They decide what its characters stand for, and whether blanks
and notes between them count: a note goes from a number sign to the end of the line.

* **`Modes.length_skip_le`** -- passing over blanks and notes never makes the text longer, so that
  a reader that goes on after them comes to an end.
-/
import DeviceTree.Text.Blank

namespace DeviceTree.Text.Pattern

/-- How the rest of a group is read. -/
structure Modes where
  /-- Characters stand for themselves, and not for bytes. -/
  unicode : Bool
  /-- Case is ignored. -/
  folding : Bool
  /-- Blanks and notes count as nothing. -/
  spaced : Bool
  deriving DecidableEq, Repr

/-- What follows blanks and notes, where the text starts inside a note or not. -/
def afterNotes : (inNote : Bool) → List Char → List Char
  | _, [] => []
  | true, c :: cs => afterNotes (c != '\n') cs
  | false, c :: cs =>
    if isBlank c then afterNotes false cs
    else if c = '#' then afterNotes true cs
    else c :: cs

theorem length_afterNotes_le (inNote : Bool) (cs : List Char) :
    (afterNotes inNote cs).length ≤ cs.length := by
  fun_induction afterNotes inNote cs with
  | case1 => simp
  | case2 c cs ih => exact Nat.le_succ_of_le ih
  | case3 c cs _ ih => exact Nat.le_succ_of_le ih
  | case4 cs _ ih => exact Nat.le_succ_of_le ih
  | case5 => exact Nat.le_refl _

namespace Modes

/-- The modes in which a pattern starts. -/
def initial : Modes :=
  ⟨true, false, false⟩

/-- Turns a mode on or off; the letters of the others change only what is matched. -/
def set (m : Modes) (letter : Char) (on : Bool) : Modes :=
  if letter = 'i' then { m with folding := on }
  else if letter = 'u' then { m with unicode := on }
  else if letter = 'x' then { m with spaced := on }
  else m

/-- The text from the next character that counts. -/
def skip (m : Modes) (cs : List Char) : List Char :=
  if m.spaced then afterNotes false cs else cs

theorem length_skip_le (m : Modes) (cs : List Char) : (m.skip cs).length ≤ cs.length := by
  unfold skip
  split
  · exact length_afterNotes_le false cs
  · exact Nat.le_refl _

/-- The character that is expected next.  The sign of a note is passed over like a blank, but not
the note. -/
def peek (m : Modes) (cs : List Char) : Option Char :=
  if m.spaced then
    match cs.dropWhile isBlank with
    | '#' :: note => (note.dropWhile isBlank).head?
    | rest => rest.head?
  else cs.head?

end Modes

end DeviceTree.Text.Pattern
