/-
The command `devtree`.
-/
import DeviceTree.Cli.Program

namespace DeviceTree.Cli

/-- The code of the system for an attempt to read a directory. -/
def directoryCode : UInt32 := 21

/-- What there is under a path. -/
def readContents (path : String) : IO Contents := do
  try
    return .bytes (← IO.FS.readBinFile path)
  catch
    | .noFileOrDirectory .. => return .none .notFound
    | .inappropriateType _ code _ =>
      return .none (if code == directoryCode then .directory else .noDirectory)
    | _ => return .none .directory

/-- Runs a program on the files of this machine. -/
def Program.runHere : Program → IO Output
  | .done output => return output
  | .read path next => do
    let contents ← readContents path
    (next contents).runHere

/-- What the environment says about options, and whether output goes to a terminal. -/
def readEnvironment : IO Environment := do
  let shown ← (← IO.getStdout).isTty
  return {
    config := ← IO.getEnv "DEVTREE_CONFIG"
    logLevel := ← IO.getEnv "DEVTREE_LOG"
    configHome := ← IO.getEnv "XDG_CONFIG_HOME"
    home := ← IO.getEnv "HOME"
    terminal := if shown then some .ansi else none }

end DeviceTree.Cli

/-- Runs the command with the given arguments. -/
def main (arguments : List String) : IO UInt32 := do
  let output ← (DeviceTree.Cli.program arguments (← DeviceTree.Cli.readEnvironment)).runHere
  IO.print output.stdout
  for line in output.stderr do
    IO.eprintln line
  return UInt32.ofNat output.exitCode
