/-
The arguments of the command line.

Options may stand before the command and after it, but at each of the two places only once.  What
stands after the command comes first, and what the environment says comes last.  Reading stops at
the first thing that is wrong, or that asks for the version or for help; but what is wrong with an
argument that is a value by itself shows only if the argument after it is one that is known.
-/
import DeviceTree.Cli.Misuse
import DeviceTree.Cli.Ui

namespace DeviceTree.Cli

/-- How results are written. -/
inductive Format where
  | text
  | json
  deriving DecidableEq, Repr

/-- The format of that name. -/
def Format.ofName? : String → Option Format
  | "text" => some .text
  | "json" => some .json
  | _ => none

/-- The name is that of a shell for which completions can be made. -/
def isShell (name : String) : Bool :=
  ["bash", "elvish", "fish", "powershell", "zsh"].contains name

/-- What the command line asks for. -/
inductive Command where
  | outline (manifest : String)
  | resolve (manifest : String) (addresses : List String)
  | verify (manifest : String)
  | completions (shell : String)
  deriving DecidableEq, Repr

/-- What kind of thing the command line asks for. -/
inductive Task where
  | outline
  | resolve
  | verify
  | completions
  deriving DecidableEq, Repr

namespace Task

/-- The task that a command of that name carries out. -/
def ofName? : String → Option Task
  | "show" => some outline
  | "resolve" => some resolve
  | "verify" => some verify
  | "completions" => some completions
  | _ => none

/-- The places for plain arguments, of which the last may be taken more than once. -/
def places : Task → List String
  | outline | verify => ["<MANIFEST>"]
  | resolve => ["<MANIFEST>", "<ADDRESS>..."]
  | completions => ["<SHELL>"]

/-- There is a place for a plain argument after `count` others. -/
def hasPlace : Task → (count : Nat) → Bool
  | resolve, _ => true
  | _, count => count = 0

/-- What is wrong with a plain argument after `count` others.  A manifest has a path, which is not
empty, while an address may be any text. -/
def flaw : Task → (count : Nat) → String → Option Misuse
  | completions, _, shell => if isShell shell then none else some (.badValue "<SHELL>" shell)
  | _, 0, manifest => if manifest.isEmpty then some (.noValue "<MANIFEST>") else none
  | _, _ + 1, _ => none

/-- The command with these plain arguments, if they are enough. -/
def command : Task → List String → Option Command
  | outline, [manifest] => some (.outline manifest)
  | resolve, manifest :: address :: more => some (.resolve manifest (address :: more))
  | verify, [manifest] => some (.verify manifest)
  | completions, [shell] => some (.completions shell)
  | _, _ => none

end Task

/-- Why no command is carried out. -/
inductive Stop where
  | version
  | help
  /-- Nothing at all was asked for. -/
  | synopsis
  /-- The arguments make no sense. -/
  | misuse (m : Misuse)
  deriving DecidableEq, Repr

/-- What an option sets. -/
inductive Setting where
  | config
  | logLevel
  | format
  | theme
  deriving DecidableEq, Repr

namespace Setting

/-- The setting of that name. -/
def ofName? : String → Option Setting
  | "config" => some config
  | "log-level" => some logLevel
  | "format" => some format
  | "theme" => some theme
  | _ => none

/-- The option and what it takes. -/
def place : Setting → String
  | config => "--config <PATH>"
  | logLevel => "--log-level <FILTER>"
  | format => "--format <FORMAT>"
  | theme => "--theme <THEME>"

end Setting

/-- The options that were given at one place. -/
structure Given where
  config : Option String
  logLevel : Option String
  format : Option Format
  theme : Option Theme
  deriving DecidableEq, Repr

namespace Given

/-- No options. -/
def none : Given :=
  ⟨.none, .none, .none, .none⟩

/-- Some option was given. -/
def any (g : Given) : Bool :=
  g.config.isSome || g.logLevel.isSome || g.format.isSome || g.theme.isSome

/-- Adds a setting; none may be given twice. -/
def add (g : Given) (s : Setting) (value : String) : Except Misuse Given :=
  let bad := if value.isEmpty then .noValue s.place else .badValue s.place value
  match s with
  | .config =>
    if g.config.isSome then .error (.repeated s.place)
    else if value.isEmpty then .error bad
    else .ok { g with config := value }
  | .logLevel =>
    if g.logLevel.isSome then .error (.repeated s.place) else .ok { g with logLevel := value }
  | .format =>
    if g.format.isSome then .error (.repeated s.place)
    else match Format.ofName? value with
      | .none => .error bad
      | some format => .ok { g with format }
  | .theme =>
    if g.theme.isSome then .error (.repeated s.place)
    else match Theme.ofName? value with
      | .none => .error bad
      | some theme => .ok { g with theme }

end Given

/-- An argument, as it looks by itself. -/
inductive Shape where
  | plain (text : String)
  /-- Two hyphens alone: all that follows is plain. -/
  | escape
  /-- An option by its name, with a value if one is attached to it. -/
  | long (name : String) (value : Option String)
  /-- An option by one letter. -/
  | short (letter : Char)

/-- How an argument looks. -/
def Shape.ofString (argument : String) : Shape :=
  match argument.toList with
  | ['-', '-'] => .escape
  | '-' :: '-' :: rest =>
    let name := String.ofList (rest.takeWhile (· != '='))
    match rest.dropWhile (· != '=') with
    | [] => .long name none
    | _ :: value => .long name (some (String.ofList value))
  | '-' :: letter :: _ => .short letter
  | _ => .plain argument

/-- Where an option stands. -/
inductive Side where
  | beforeCommand
  | afterCommand
  deriving DecidableEq, Repr

namespace Side

/-- The options that set nothing. -/
def requests : Side → List String
  | beforeCommand => ["help", "version"]
  | afterCommand => ["help"]

/-- The fault of an option that is not known.  After a command it may have been meant as a plain
argument. -/
def unknown (side : Side) (name : String) : Misuse :=
  let known := ["config", "log-level", "format", "theme"] ++ side.requests
  let similar := (Misuse.mostSimilar name known).map ("--" ++ ·)
  .unknownOption ("--" ++ name) similar (side = .afterCommand)

/-- The fault of an option by one letter that is not known. -/
def unknownLetter (side : Side) (letter : Char) : Misuse :=
  .unknownOption (String.ofList ['-', letter]) none (side = .afterCommand)

end Side

/-- What the argument that was read last leaves open. -/
inductive Pending where
  | nothing
  /-- It is a value that is wrong. -/
  | flawed (m : Misuse)
  /-- It is an option that has no value yet. -/
  | awaiting (s : Setting)
  deriving DecidableEq, Repr

/-- What is wrong if nothing that belongs to it comes next. -/
def Pending.misuse? : Pending → Option Misuse
  | nothing => none
  | flawed m => some m
  | awaiting s => some (.noValue s.place)

/-- What was read at one place. -/
structure Reading where
  given : Given
  plain : List String
  pending : Pending

namespace Reading

/-- Nothing was read. -/
def empty : Reading :=
  ⟨.none, [], .nothing⟩

/-- The reading, if the argument that was read last is complete and not wrong. -/
def settled (r : Reading) : Except Stop Reading :=
  match r.pending.misuse? with
  | none => .ok { r with pending := .nothing }
  | some m => .error (.misuse m)

/-- Adds a plain argument, if there is a place for it. -/
def addPlain (task : Task) (r : Reading) (text : String) : Except Stop Reading :=
  if task.hasPlace r.plain.length then do
    let r ← r.settled
    let pending := (task.flaw r.plain.length text).elim .nothing Pending.flawed
    return { r with plain := r.plain ++ [text], pending }
  else .error (.misuse (.surplus text))

/-- Adds an option, perhaps with a value attached to it. -/
def addOption (r : Reading) (s : Setting) (value : Option String) : Except Stop Reading := do
  let r ← r.settled
  match value with
  | none => return { r with pending := .awaiting s }
  | some value =>
    match r.given.add s value with
    | .ok given => return { r with given }
    | .error m => throw (.misuse m)

/-- Adds the value of the option in front of it. -/
def addValue (r : Reading) (s : Setting) (value : String) : Reading :=
  match r.given.add s value with
  | .ok given => { r with given, pending := .nothing }
  | .error m => { r with pending := .flawed m }

/-- What an option leads to that sets nothing. -/
def request (r : Reading) (side : Side) (name : String) (value : Option String) : Stop :=
  if !side.requests.contains name then .misuse (side.unknown name)
  else match value, r.pending.misuse? with
    | some value, _ => .misuse (.idleValue ("--" ++ name) value)
    | none, some m => .misuse m
    | none, none => if name = "help" then .help else .version

/-- What an option by one letter leads to. -/
def requestLetter (r : Reading) (side : Side) (letter : Char) : Stop :=
  if letter = 'h' then r.request side "help" none
  else if letter = 'V' && side = .beforeCommand then r.request side "version" none
  else .misuse (side.unknownLetter letter)

end Reading

/-- Reads the arguments after the command. -/
def readAfter (task : Task) : List String → Reading → Except Stop Reading
  | [], r => r.settled
  | argument :: rest, r =>
    match Shape.ofString argument, r.pending with
    | .plain text, .awaiting s => readAfter task rest (r.addValue s text)
    | .plain text, _ => do readAfter task rest (← r.addPlain task text)
    | .escape, _ => do (← rest.foldlM (Reading.addPlain task) r).settled
    | .long name value, _ =>
      match Setting.ofName? name with
      | none => .error (r.request .afterCommand name value)
      | some s => do readAfter task rest (← r.addOption s value)
    | .short letter, _ => .error (r.requestLetter .afterCommand letter)

/-- Reads the arguments before the command: yields what was read, the name of the command and the
arguments after it, if there is a command. -/
def readBefore : List String → Reading → Except Stop (Reading × Option (String × List String))
  | [], r => do return (← r.settled, none)
  | argument :: rest, r =>
    match Shape.ofString argument, r.pending with
    | .plain text, .awaiting s => readBefore rest (r.addValue s text)
    | .plain text, _ => .ok (r, some (text, rest))
    | .escape, _ =>
      match rest with
      | [] => do return (← r.settled, none)
      | text :: _ => .error (.misuse (.unknownCommand text))
    | .long name value, _ =>
      match Setting.ofName? name with
      | none => .error (r.request .beforeCommand name value)
      | some s => do readBefore rest (← r.addOption s value)
    | .short letter, _ => .error (r.requestLetter .beforeCommand letter)

/-- What the environment says about options, and where output is shown. -/
structure Environment where
  config : Option String
  logLevel : Option String
  /-- Where configuration files are kept. -/
  configHome : Option String
  home : Option String
  /-- The inks of the terminal, if output goes to one. -/
  terminal : Option Inks := none

/-- An invocation that makes sense. -/
structure Invocation where
  config : Option String
  logLevel : Option String
  format : Format
  theme : Theme
  command : Command
  deriving DecidableEq, Repr

/-- The environment names no configuration file by an empty text, unless it is not asked. -/
def environmentFits (env : Environment) (g : Given) : Bool :=
  g.config.isSome || env.config != some ""

/-- What the arguments ask for. -/
def readArguments (arguments : List String) (env : Environment) : Except Stop Invocation := do
  let (before, command) ← readBefore arguments .empty
  match command with
  | none =>
    if before.given.any || env.config.isSome || env.logLevel.isSome then
      throw (.misuse .noCommand)
    else throw .synopsis
  | some (name, rest) =>
    match Task.ofName? name with
    | none => throw (.misuse (.unknownCommand name))
    | some task =>
      let after ← readAfter task rest .empty
      match task.command after.plain with
      | none => throw (.misuse (.missing (task.places.drop after.plain.length)))
      | some command =>
        let before ← before.settled
        if !environmentFits env before.given || !environmentFits env after.given then
          throw (.misuse (.noValue Setting.config.place))
        return {
          config := after.given.config.or (before.given.config.or env.config)
          logLevel := after.given.logLevel.or (before.given.logLevel.or env.logLevel)
          format := (after.given.format.or before.given.format).getD .text
          theme := (after.given.theme.or before.given.theme).getD .auto
          command }

end DeviceTree.Cli
