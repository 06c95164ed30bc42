/-
The command line: what it asks of files, and what it prints.

A program is a value: it either asks for a file and goes on with what there is, or it is done.
Whoever runs it brings the files.
-/
import DeviceTree.Cli.Arguments
import DeviceTree.Cli.LogFilter
import DeviceTree.Config
import DeviceTree.Manifest
import DeviceTree.Outline
import DeviceTree.Store.Ask

namespace DeviceTree.Cli

/-- What is printed, and the code with which the command ends. -/
structure Output where
  exitCode : Nat
  stdout : String
  /-- The lines of the other stream. -/
  stderr : List String
  deriving DecidableEq, Repr

/-- A program that may ask for files. -/
inductive Program where
  | done (output : Output)
  | read (path : String) (next : Contents → Program)

/-- What the program prints, given what there is under each path. -/
def Program.run (files : String → Contents) : Program → Output
  | done output => output
  | read path next => (next (files path)).run files

/-- Lines, each with its end. -/
def unlines (lines : List String) : String :=
  String.join (lines.map fun line => line ++ "\n")

/-- The output of a command that was refused. -/
def refusal (e : Error) : Output :=
  ⟨1, "", ["error: " ++ e.message]⟩

/-- How many bytes of a directive are shown in reports. -/
def shownBytes : Nat :=
  256

/-- The output of a command that broke off, because a directive of the log filter would have been
cut inside a character. -/
def brokenOff (directive : List Char) : Output :=
  let shown := Text.within shownBytes directive
  let dots := if shown.length < directive.length then "[...]" else ""
  ⟨101, "", ["cut inside a character of \x60" ++ String.ofList shown ++ "\x60" ++ dots]⟩

/-- What a short description of the command line says. -/
def summary : List String :=
  ["Inspect device trees described by TOML manifests",
    "",
    "Usage: devtree [OPTIONS] <COMMAND>",
    "",
    "Commands:",
    "  show         Print the tree with addresses and links",
    "  resolve      Resolve addresses against the tree",
    "  verify       Check structural invariants of the tree",
    "  completions  Generate shell completions"]

/-- The report of a misuse. -/
def misuseLines (m : Misuse) : List String :=
  ("error: " ++ "\n".intercalate m.lines) :: ["", "For more information, try '--help'."]

/-- The output of a command line that asks for no command. -/
def stopped : Stop → Output
  | .version => ⟨0, "devtree 0.1.0\n", []⟩
  | .help => ⟨0, unlines summary, []⟩
  | .synopsis => ⟨2, "", summary⟩
  | .misuse m => ⟨2, "", misuseLines m⟩

/-- A row of an outline, as it is printed. -/
def rowLine (ui : Ui) : Row → String
  | .element depth identifier kind address =>
    ui.element depth identifier.text ("[" ++ kind.name ++ "] " ++ address)
  | .link depth identifier target => ui.link depth identifier.text target

/-- The output of `show`. -/
def outlineOutput (ui : Ui) (format : Format) (s : Store) : Output :=
  match format with
  | .text => ⟨0, unlines (s.arena.outline.map (rowLine ui)), []⟩
  | .json =>
    let report : Json :=
      .object [("root", .text s.rootIdentifier.text),
        ("nodes", .array (s.arena.attached.map Snapshot.toJson))]
    ⟨0, unlines [report.pretty], []⟩

/-- Resolves one address. -/
def resolution (s : Store) (address : String) : Resolution × Store :=
  let (found, s) := s.resolve address
  let snapshot := found.bind fun id => (s.arena.get? id).map (Snapshot.mk id)
  (⟨address, snapshot⟩, s)

/-- Resolves addresses, one after the other. -/
def resolutions : List String → Store → List Resolution
  | [], _ => []
  | address :: rest, s =>
    let (r, s) := resolution s address
    r :: resolutions rest s

/-- The line of an address that was resolved. -/
def foundLine (ui : Ui) (r : Resolution) : Option String :=
  r.found.map fun s =>
    ui.success (r.address ++ " => " ++ s.node.address ++ " (" ++ s.id.text ++ ", " ++
      s.node.kind.name ++ ")")

/-- The line of an address that was not resolved. -/
def missingLine (ui : Ui) (r : Resolution) : Option String :=
  if r.found.isSome then none else some (ui.warning (r.address ++ " not found"))

/-- The output of `resolve`. -/
def resolveOutput (ui : Ui) (format : Format) (rs : List Resolution) : Output :=
  let code := if rs.all fun r => r.found.isSome then 0 else 2
  match format with
  | .text => ⟨code, unlines (rs.filterMap (foundLine ui)), rs.filterMap (missingLine ui)⟩
  | .json => ⟨code, unlines [(Json.array (rs.map Resolution.toJson)).pretty], []⟩

/-- The lines of a verification. -/
def verifyLines (ui : Ui) (r : Verdict) : List String :=
  let counts := ui.keyed "Verify"
    [("success", if r.success then "true" else "false"),
      ("nodes", toString r.counts.nodes),
      ("child edges", toString r.counts.childEdges),
      ("link edges", toString r.counts.linkEdges),
      ("detached", toString r.counts.detachedRoots)]
  counts ++ ui.listed "Findings" (r.findings.map fun f => f.node.text ++ ": " ++ f.problem.text)

/-- The output of `verify`. -/
def verifyOutput (ui : Ui) (format : Format) (r : Verdict) : Output :=
  let code := if r.success then 0 else 2
  match format with
  | .text =>
    ⟨code, unlines (verifyLines ui r),
      if r.truncated then [ui.warning "findings truncated"] else []⟩
  | .json => ⟨code, unlines [r.toJson.pretty], []⟩

/-- The tree of a manifest, and then what is printed of it. -/
def onTree (config : Config) (manifest : String) (output : Store → Output) : Program :=
  .read manifest fun contents =>
    let built := do
      let m ← Manifest.ofFile ⟨manifest, contents⟩
      m.build config.options
    match built with
    | .error e => .done (refusal e)
    | .ok s => .done (output s)

/-- Carries out a command. -/
def runCommand (ui : Ui) (i : Invocation) (config : Config) : Program :=
  match i.command with
  | .outline manifest => onTree config manifest (outlineOutput ui i.format)
  | .resolve manifest addresses =>
    onTree config manifest fun s => resolveOutput ui i.format (resolutions addresses s)
  | .verify manifest =>
    onTree config manifest fun s =>
      match s.verify.1 with
      | .error e => refusal e
      | .ok report => verifyOutput ui i.format report
  | .completions _ => .done ⟨0, "", []⟩

/-- The path of a file in a directory. -/
def pathIn (directory file : String) : String :=
  if directory.endsWith "/" then directory ++ file else directory ++ "/" ++ file

/-- Where configurations are kept if nobody says so.  What the environment says counts only if it
starts at the root; else they are kept in a directory of the home. -/
def configDirectory (env : Environment) : Option String :=
  match env.configHome.filter (·.startsWith "/") with
  | some path => some path
  | none => (env.home.filter (!·.isEmpty)).map (pathIn · ".config")

/-- Where the configuration is kept if nobody says so. -/
def standardConfigPath (env : Environment) : Option String :=
  (configDirectory env).map (pathIn · "devtree/config.toml")

/-- Goes on with the configuration, once the log has been set up. -/
def withConfig (ui : Ui) (i : Invocation) (config : Except Error Config) : Program :=
  match config with
  | .error e => .done (refusal e)
  | .ok config =>
    match LogFilter.read (i.logLevel.getD config.logLevel) with
    | .ok _ => runCommand ui i config
    | .error .malformed => .done (refusal .badLogLevel)
    | .error (.torn directive) => .done (brokenOff directive)

/-- The program of a command line. -/
def program (arguments : List String) (env : Environment) : Program :=
  match readArguments arguments env with
  | .error stop => .done (stopped stop)
  | .ok i =>
    let ui := Ui.ofTheme i.theme env.terminal
    match i.command, i.config.or (standardConfigPath env) with
    | .completions _, _ => .done ⟨0, "", []⟩
    | _, none => withConfig ui i (.ok .standard)
    | _, some path => .read path fun contents => withConfig ui i (Config.load ⟨path, contents⟩)

end DeviceTree.Cli
