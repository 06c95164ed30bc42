/-
How alike two texts are.

Two texts have a character in common if it stands in both at nearly the same place, no further
apart than half the longer text.  The likeness of two texts is the mean of three fractions: how
much of the one they have in common, how much of the other, and how much of that is in the same
order.  It lies between zero and one.
-/

namespace DeviceTree.Text

/-- A character, and whether it was found in the other text. -/
abbrev Marked : Type :=
  Char × Bool

/-- Marks the first unmarked `c` among the first `count` characters, if there is one. -/
def mark (c : Char) : (count : Nat) → List Marked → Option (List Marked)
  | 0, _ | _, [] => none
  | count + 1, (d, marked) :: rest =>
    if c = d && !marked then some ((d, true) :: rest)
    else (mark c count rest).map ((d, marked) :: ·)

/-- Marks `c`, which stands at a place of the other text, if it is no further away than `reach`. -/
def markNear (c : Char) (place reach : Nat) (ds : List Marked) : Option (List Marked) :=
  let first := place - reach
  (mark c (place + reach + 1 - first) (ds.drop first)).map (ds.take first ++ ·)

/-- The characters of `cs` that the other text has near their place, and the marks in that text. -/
def common (reach : Nat) : (place : Nat) → (cs : List Char) → (ds : List Marked) →
    List Char × List Marked
  | _, [], ds => ([], ds)
  | place, c :: cs, ds =>
    match markNear c place reach ds with
    | none => common reach (place + 1) cs ds
    | some ds =>
      let (found, ds) := common reach (place + 1) cs ds
      (c :: found, ds)

/-- How alike two texts are. -/
def likeness (cs ds : List Char) : Rat :=
  let reach := max cs.length ds.length / 2 - 1
  let (found, marks) := common reach 0 cs (ds.map fun d => (d, false))
  let moved := (found.zip (marks.filterMap fun (d, marked) => if marked then some d else none)).countP
    fun (c, d) => c != d
  let n := found.length
  if n = 0 then 0
  else ((n : Rat) / cs.length + n / ds.length + (n - moved / 2 : Nat) / n) / 3

end DeviceTree.Text
