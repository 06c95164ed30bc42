/-
How deep a pattern is nested.

A group, a repetition, a bracketed class and an operator between classes are each a level above
what they are made of.  So are parts side by side, if there are at least two of them.
-/

namespace DeviceTree.Text.Pattern

/-- Parts side by side. -/
structure Parts where
  count : Nat
  /-- How deep the deepest of them is nested. -/
  depth : Nat
  deriving DecidableEq, Repr

namespace Parts

/-- No parts. -/
def none : Parts :=
  ⟨0, 0⟩

/-- Adds a part that is nested so deep. -/
def add (p : Parts) (depth : Nat) : Parts :=
  ⟨p.count + 1, max p.depth depth⟩

/-- How deep the parts are nested as a whole. -/
def nesting (p : Parts) : Nat :=
  if p.count < 2 then p.depth else p.depth + 1

end Parts

/-- How deep a pattern may be nested. -/
def maxNesting : Nat := 250

end DeviceTree.Text.Pattern
