/-
Ranges of code points.

A class of characters may be kept as a list of closed ranges.  A list is `Range.sorted` when every
range is non-empty and ends before the next one starts, so that a code point lies in at most one
of them.
-/

namespace DeviceTree.Text

/-- A closed range of code points. -/
structure Range where
  first : Nat
  last : Nat
  deriving DecidableEq, Repr

namespace Range

/-- The code point `n` lies in the range. -/
def holds (r : Range) (n : Nat) : Bool :=
  r.first ≤ n && n ≤ r.last

/-- The code point `n` lies in one of the ranges. -/
def anyHolds (ranges : List Range) (n : Nat) : Bool :=
  ranges.any fun r => r.holds n

/-- Every range is non-empty and ends before the next one starts. -/
def sorted : List Range → Bool
  | [] => true
  | [r] => r.first ≤ r.last
  | r :: s :: rest => r.first ≤ r.last && r.last < s.first && sorted (s :: rest)

end Range

end DeviceTree.Text
