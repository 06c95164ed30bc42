/-
The atoms of a pattern: characters, kinds of characters and places in the text.

Without tables of characters there is nothing that depends on them: no kinds of characters, no
word boundaries and no ignoring of case, unless characters stand for bytes.  Where they do, only
ASCII characters may be told apart from others.
-/
import DeviceTree.Text.Numeral
import DeviceTree.Text.Pattern.Modes

namespace DeviceTree.Text.Pattern

/-- What a plain character or an escape stands for. -/
inductive Atom where
  | char (c : Char)
  /-- A character beyond ASCII that is written as one byte. -/
  | byte (c : Char)
  /-- A kind of characters, such as the digits, or all others. -/
  | kind (negated : Bool)
  | property
  /-- The start or the end of the text. -/
  | edge
  | wordEdge
  deriving DecidableEq, Repr

namespace Atom

/-- The character that the atom stands for. -/
def char? : Atom → Option Char
  | char c | byte c => some c
  | _ => none

/-- The atom may stand outside of classes. -/
def fitsOutside (m : Modes) : Atom → Bool
  | char _ => !(m.unicode && m.folding)
  | byte _ => m.unicode && !m.folding
  | kind negated => !m.unicode && !negated
  | property => false
  | edge => true
  | wordEdge => !m.unicode

/-- The atom may stand inside a class. -/
def fitsInside (m : Modes) : Atom → Bool
  | char c => if m.unicode then !m.folding else c.toNat < 0x80
  | byte _ => m.unicode && !m.folding
  | kind negated => !m.unicode && !negated
  | property | edge | wordEdge => false

end Atom

/-- The control that a letter after a backslash stands for. -/
def control? (letter : Char) : Option Char :=
  [('a', '\x07'), ('f', '\x0c'), ('t', '\t'), ('n', '\n'), ('r', '\r'), ('v', '\x0b')].lookup letter

/-- Reads `count` hexadecimal digits. -/
def hexDigitsOf (m : Modes) : (count : Nat) → List Char → Option (List Char × List Char)
  | 0, cs => some ([], cs)
  | count + 1, cs =>
    match m.skip cs with
    | [] => none
    | c :: rest =>
      if isHexDigit c then (hexDigitsOf m count rest).map fun (ds, rest) => (c :: ds, rest)
      else none

/-- The atom that is written as `count` hexadecimal digits. -/
def hexAtom (m : Modes) (count : Nat) (cs : List Char) : Option (Atom × List Char) := do
  let (digits, rest) ← hexDigitsOf m count cs
  let n := numberIn 16 digits
  if h : n.isValidChar then
    let c := Char.ofNatAux n h
    return (if count = 2 && 0x80 ≤ n then .byte c else .char c, rest)
  else failure

/-- The atom that is written after a backslash. -/
def escape (m : Modes) : List Char → Option (Atom × List Char)
  | [] => none
  | c :: rest =>
    match control? c with
    | some meant => some (.char meant, rest)
    | none =>
      if c = 'x' then hexAtom m 2 rest
      else if c = 'u' then hexAtom m 4 rest
      else if c = 'U' then hexAtom m 8 rest
      else if c = 'd' ∨ c = 's' ∨ c = 'w' then some (.kind false, rest)
      else if c = 'D' ∨ c = 'S' ∨ c = 'W' then some (.kind true, rest)
      else if c = 'p' ∨ c = 'P' then some (.property, rest)
      else if c = 'A' ∨ c = 'z' then some (.edge, rest)
      else if c = 'b' ∨ c = 'B' ∨ c = '<' ∨ c = '>' then some (.wordEdge, rest)
      else if c.toNat < 0x80 && !c.isAlphanum then some (.char c, rest)
      else none

/-- The atom at the front. -/
def atom (m : Modes) : List Char → Option (Atom × List Char)
  | [] => none
  | '\x5c' :: rest => escape m rest
  | c :: rest => some (.char c, rest)

end DeviceTree.Text.Pattern
