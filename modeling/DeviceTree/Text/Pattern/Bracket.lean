/-
Bracketed classes: sets of characters.

A class has items side by side, which are characters, ranges, kinds of characters, named classes
and classes in brackets, and operators between them.  Where characters stand for bytes a class may
not have any beyond ASCII, so that it is not negated; where case is ignored it has no items.
-/
import DeviceTree.Text.Pattern.Atom
import DeviceTree.Text.Pattern.Nesting

namespace DeviceTree.Text.Pattern

/-- The names of classes that stand between `[:` and `:]`. -/
def classNames : List String :=
  ["alnum", "alpha", "ascii", "blank", "cntrl", "digit", "graph", "lower", "print", "punct",
    "space", "upper", "word", "xdigit"]

/-- Reads a named class whose opening bracket was read: whether it is negated, and what follows. -/
def namedClass (cs : List Char) : Option (Bool × List Char) :=
  match cs with
  | ':' :: rest =>
    let negated := rest.head? = some '^'
    let rest := if negated then rest.tail else rest
    match rest.dropWhile (· != ':') with
    | ':' :: ']' :: after =>
      if classNames.contains (String.ofList (rest.takeWhile (· != ':'))) then some (negated, after)
      else none
    | _ => none
  | _ => none

/-- A named class, negated or not, may stand inside a class. -/
def namedFits (m : Modes) (negated : Bool) : Bool :=
  if m.unicode then !m.folding else !negated

/-- Reads the hyphens at the front of a class, which stand for themselves, and counts them. -/
def leadingHyphens (m : Modes) (cs : List Char) : Nat × List Char :=
  match cs with
  | '-' :: rest =>
    let (n, rest) := leadingHyphens m (m.skip rest)
    (n + 1, rest)
  | _ => (0, cs)
termination_by cs.length
decreasing_by
  have := m.length_skip_le rest
  simp only [List.length_cons]
  omega

/-- Reads the start of a class whose opening bracket was read: yields the items that stand for
themselves because they come first, which are hyphens or a bracket, and what follows. -/
def openClass (m : Modes) (cs : List Char) : Option (Parts × List Char) :=
  let cs := m.skip cs
  let negated := cs.head? = some '^'
  let cs := if negated then m.skip cs.tail else cs
  let (hyphens, cs) := leadingHyphens m cs
  let (count, cs) :=
    match hyphens, cs with
    | 0, ']' :: rest => (1, rest)
    | n, cs => (n, cs)
  if negated && !m.unicode || 0 < count && !(Atom.char '-').fitsInside m then none
  else some (⟨count, 0⟩, cs)

/-- What follows an item of a class: a character, a kind of characters, or a range. -/
def afterItem (m : Modes) (cs : List Char) : Option (List Char) := do
  let (first, rest) ← atom m cs
  if !first.fitsInside m then failure
  match m.skip rest with
  | '-' :: more =>
    if m.peek more = some ']' || m.peek more = some '-' then return '-' :: more
    let (last, rest) ← atom m (m.skip more)
    let low ← first.char?
    let high ← last.char?
    if last.fitsInside m && low ≤ high then return rest else failure
  | rest => return rest

/-- How deep a set is nested, if it has these items after the operator that follows `left`. -/
def joined (left : Option Nat) (items : Parts) : Nat :=
  match left with
  | none => items.nesting
  | some depth => max depth items.nesting + 1

/-- Reads the rest of a class: yields how deep its set is nested, and what follows the class.
What was read of it is `items`, and in front of the last operator `left`. -/
def readSet (m : Modes) : (fuel : Nat) → (left : Option Nat) → (items : Parts) → List Char →
    Option (Nat × List Char)
  | 0, _, _, _ => none
  | fuel + 1, left, items, cs =>
    match m.skip cs with
    | [] => none
    | ']' :: rest => some (joined left items, rest)
    | '[' :: rest =>
      match namedClass rest with
      | some (negated, rest) =>
        if namedFits m negated then readSet m fuel left (items.add 0) rest else none
      | none => do
        let (first, rest) ← openClass m rest
        let (depth, rest) ← readSet m fuel none first rest
        readSet m fuel left (items.add (depth + 1)) rest
    | '&' :: '&' :: rest | '-' :: '-' :: rest | '~' :: '~' :: rest =>
      readSet m fuel (some (joined left items)) .none rest
    | cs => (afterItem m cs).bind (readSet m fuel left (items.add 0))

/-- Reads a class whose opening bracket was read: yields how deep it is nested, and what follows. -/
def bracket (m : Modes) (cs : List Char) : Option (Nat × List Char) := do
  let (first, rest) ← openClass m cs
  let (depth, rest) ← readSet m (rest.length + 1) none first rest
  return (depth + 1, rest)

end DeviceTree.Text.Pattern
