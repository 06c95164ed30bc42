/-
Identifiers: the names of nodes and of the references between them.

An identifier is a non-empty text of ASCII letters, digits, `-`, `[` and `]`.  The spelling is
kept, but names are compared without regard to ASCII case:

* **`Identifier.ofString_text`** -- an identifier is read back from its own text;
* **`Identifier.text_of_ofString`** -- reading keeps the spelling;
* **`Identifier.sameName_iff`** -- two identifiers name the same thing exactly when their texts
  have the same fold.
-/
import DeviceTree.Text.Blank
import DeviceTree.Text.Fold
import DeviceTree.Text.Quoted

namespace DeviceTree

open Text

/-- The character may stand in an identifier. -/
def isNameChar (c : Char) : Bool :=
  c.isAlphanum || c == '-' || c == '[' || c == ']'

/-- The text is an identifier. -/
def isIdentifier (s : String) : Bool :=
  !s.toList.isEmpty && s.toList.all isNameChar

/-- A name in the tree, in the spelling in which it was given. -/
structure Identifier where
  text : String
  valid : isIdentifier text = true
  deriving DecidableEq, Repr

/-- Why a text is no identifier. -/
inductive IdentifierFault where
  /-- The text has no character. -/
  | empty
  /-- The first character of `raw` that no identifier holds is `bad`. -/
  | badChar (raw : String) (bad : Char)
  deriving DecidableEq, Repr

namespace IdentifierFault

/-- What is wrong with the character. -/
def reason (bad : Char) : String :=
  if bad = '/' ∨ bad = '\x5c' then "must not contain path separators"
  else if isBlank bad then "must not contain whitespace"
  else "contains an unsupported character"

/-- The fault in words. -/
def text : IdentifierFault → String
  | empty => "identifier is empty"
  | badChar raw bad =>
    "identifier " ++ quote raw ++ " " ++ reason bad ++ " (" ++ quoteChar bad ++ ")"

/-- The fault of a text that is no identifier. -/
def ofString (raw : String) : IdentifierFault :=
  match raw.toList.find? (fun c => !isNameChar c) with
  | some bad => badChar raw bad
  | none => empty

end IdentifierFault

namespace Identifier

/-- The identifier spelled `raw`. -/
def ofString (raw : String) : Except IdentifierFault Identifier :=
  if h : isIdentifier raw then .ok ⟨raw, h⟩ else .error (.ofString raw)

/-- The identifier is spelled `other`, up to ASCII case. -/
def isNamed (i : Identifier) (other : String) : Bool :=
  sameFold i.text other

/-- The two identifiers name the same thing. -/
def sameName (i j : Identifier) : Bool :=
  i.isNamed j.text

/-- The identifiers that name nothing that was named before, in order. -/
def firstSpellings : List Identifier → List Identifier
  | [] => []
  | i :: rest => i :: (firstSpellings rest).filter fun j => !i.sameName j

theorem ofString_text (i : Identifier) : ofString i.text = .ok i := by
  simp [ofString, i.valid]

theorem text_of_ofString {raw : String} {i : Identifier} (h : ofString raw = .ok i) :
    i.text = raw := by
  unfold ofString at h
  split at h
  · cases h; rfl
  · cases h

theorem sameName_iff {i j : Identifier} : i.sameName j = true ↔ fold i.text = fold j.text :=
  sameFold_iff

theorem isNamed_text (i : Identifier) : i.isNamed i.text = true :=
  sameFold_refl i.text

end Identifier

end DeviceTree
