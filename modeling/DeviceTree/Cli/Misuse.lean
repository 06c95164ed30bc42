/-
What can be wrong with a command line.

Messages quote an argument as it was given, and name the place for which it was meant.
-/
import DeviceTree.Text.Likeness

namespace DeviceTree.Cli

/-- What is wrong with a command line. -/
inductive Misuse where
  /-- There is no command of that name. -/
  | unknownCommand (name : String)
  /-- Nothing more is expected. -/
  | surplus (argument : String)
  /-- There is no such option.  There may be one that is similar; if not, the argument may have
  been meant as a plain one, where there are any. -/
  | unknownOption (option : String) (similar : Option String) (plain : Bool)
  | badValue (place value : String)
  | noValue (place : String)
  /-- An option that takes no value has one. -/
  | idleValue (option value : String)
  | repeated (option : String)
  /-- Plain arguments are missing at these places. -/
  | missing (places : List String)
  | noCommand
  deriving DecidableEq, Repr

namespace Misuse

/-- The text between single quotes. -/
def quoted (s : String) : String :=
  "'" ++ s ++ "'"

/-- A piece of advice. -/
def tip (advice : String) : List String :=
  ["", "  tip: " ++ advice]

/-- What is wrong, in lines. -/
def lines : Misuse → List String
  | unknownCommand name => ["unrecognized subcommand " ++ quoted name]
  | surplus argument => ["unexpected argument " ++ quoted argument ++ " found"]
  | unknownOption option similar plain =>
    ("unexpected argument " ++ quoted option ++ " found") ::
      match similar with
      | some known => tip ("a similar argument exists: " ++ quoted known)
      | none =>
        if plain then
          tip ("to pass " ++ quoted option ++ " as a value, use " ++ quoted ("-- " ++ option))
        else []
  | badValue place value => ["invalid value " ++ quoted value ++ " for " ++ quoted place]
  | noValue place => ["a value is required for " ++ quoted place ++ " but none was supplied"]
  | idleValue option value =>
    ["unexpected value " ++ quoted value ++ " for " ++ quoted option ++
      " found; no more were expected"]
  | repeated option => ["the argument " ++ quoted option ++ " cannot be used multiple times"]
  | missing places =>
    "the following required arguments were not provided:" :: places.map ("  " ++ ·)
  | noCommand => ["'devtree' requires a subcommand but one was not provided"]

/-- How alike two names have to be to be confused. -/
def confusable : Rat :=
  7 / 10

/-- The name that is most like the given one, if there is one that could be confused with it. -/
def mostSimilar (name : String) (known : List String) : Option String :=
  let scored := known.map fun k => (k, Text.likeness name.toList k.toList)
  let best := scored.foldl (fun best s =>
    match best with
    | none => if confusable < s.2 then some s else none
    | some b => if b.2 < s.2 then some s else some b) none
  best.map Prod.fst

end Misuse

end DeviceTree.Cli
