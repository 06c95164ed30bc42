/-
Groups of a pattern: what stands behind an opening parenthesis.

A group may have a name, which no other group of the pattern has, or it may be read in other
modes.  Modes without a group hold for the rest of the group around them.
-/
import DeviceTree.Text.Figure
import DeviceTree.Text.Pattern.Modes

namespace DeviceTree.Text.Pattern

/-- Reads the letters of modes up to a colon or the end of the group; `seen` are those before,
last first. -/
def readModes (seen : List Char) (m : Modes) : List Char → Option (Modes × List Char)
  | [] => none
  | c :: rest =>
    if c = ':' ∨ c = ')' then if seen.head? = some '-' then none else some (m, c :: rest)
    else if ['-', 'i', 'm', 's', 'U', 'u', 'x', 'R'].contains c && !seen.contains c then
      readModes (c :: seen) (m.set c (!seen.contains '-')) rest
    else none

/-- The text may be the name of a group. -/
def isGroupName : List Char → Bool
  | [] => false
  | c :: rest =>
    (c == '_' || isLetter c) &&
      rest.all fun c => isAlphanumeric c || ['_', '.', '[', ']'].contains c

/-- Reads the name of a group, up to the bracket that ends it. -/
def groupName (cs : List Char) : Option (List Char × List Char) :=
  match cs.dropWhile (· != '>') with
  | '>' :: rest =>
    let name := cs.takeWhile (· != '>')
    if isGroupName name then some (name, rest) else none
  | _ => none

/-- How an opening parenthesis goes on. -/
inductive Opening where
  | group (name : Option (List Char)) (m : Modes) (rest : List Char)
  /-- No group at all, but other modes from here on. -/
  | modes (m : Modes) (rest : List Char)

/-- Reads what follows an opening parenthesis. -/
def openGroup (m : Modes) (cs : List Char) : Option Opening :=
  match m.skip cs with
  | '?' :: 'P' :: '<' :: rest | '?' :: '<' :: rest =>
    (groupName rest).map fun (name, rest) => .group (some name) m rest
  | '?' :: ')' :: _ => none
  | '?' :: rest =>
    match readModes [] m rest with
    | some (m, ':' :: rest) => some (.group none m rest)
    | some (m, ')' :: rest) => some (.modes m rest)
    | _ => none
  | rest => some (.group none m rest)

end DeviceTree.Text.Pattern
