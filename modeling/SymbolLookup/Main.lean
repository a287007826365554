import SymbolLookup.Bundle.Document
import SymbolLookup.Console.Run
/-!
# The command line

Runs a command of the console on the files of this machine: looks up what stands at the paths that
the command names, runs the command, writes the bundles that it made, and prints what it wrote.
-/

namespace SymbolLookup.Machine

/-- The node that some bytes of a file make. -/
def nodeOf (bytes : ByteArray) : Node :=
  match (String.fromUTF8? bytes).bind Bundle.read? with
  | some content => .bundle content
  | none => .document bytes.toList

/-- What stands at a path that a text writes. -/
def look (text : String) : IO (Option Node) := do
  let path := (← IO.currentDir) / text
  if ← path.isDir then return some .directory
  else if ← path.pathExists then return some (nodeOf (← IO.FS.readBinFile text))
  else return none

/-- The files that lie on the way to a path, and what lies in the directory there. -/
def gather (files : Files) (path : Path) : IO Files := do
  let mut files := files
  for names in Path.stations path.names do
    if let some node ← look { names : Path }.text then
      if names ≠ [] then files := Keyed.put names node files
  if files.hasDirectory path then
    for entry in ← ((← IO.currentDir) / path.text).readDir do
      if let some node ← look (path.child entry.fileName).text then
        files := Keyed.put (path.child entry.fileName).names node files
  return files

/-- The paths that a command names. -/
def pathsOf (here : Path) (command : Console.Command) : List Path :=
  let target := Path.ofText here command.bundle
  let targets := if command.bundle = "" then [] else [target, target.withEnding draftEnding]
  match Address.parse command.subject.source with
  | .ok (.folder path) | .ok (.bundle path) => Path.ofText here path :: targets
  | _ => targets

/-- Writes the bundles that are new among some files. -/
def keep (before after : Files) : IO Unit := do
  for (names, node) in after do
    if let .bundle content := node then
      if before.node? names ≠ some node then
        IO.FS.createDirAll { names := names.dropLast : Path }.text
        IO.FS.writeFile { names : Path }.text content.write

/-- What surrounds a command on this machine. -/
def surroundings (settings : Settings) (words : List String) : IO Console.Surroundings := do
  let here := Path.ofText {} (← IO.currentDir).toString
  let noColours := (← IO.getEnv "NO_COLOR").getD ""
  let isTerminal ← (← IO.getStdout).isTty
  match Console.Command.parse settings words with
  | .error _ => return { settings, here, noColours, isTerminal, output := .utf8 }
  | .ok command =>
    let input ← if command.takesLines then (← IO.getStdin).readToEnd else pure ""
    let files ← (pathsOf here command).foldlM gather []
    return { settings, here, noColours, isTerminal, input, files, output := .utf8 }

/-- The variables that settings are made of, with what they are set to. -/
def environment : IO (List (String × String)) :=
  variableNames.filterMapM fun name => do
    return (← IO.getEnv (variableStart ++ name)).map fun value => (variableStart ++ name, value)

/-- Prints how a command ended, and tells its number. -/
def close : Console.Finish → IO UInt32
  | .done => return 0
  | .refused refusal => return refusal.code.toUInt32
  | .failed fault => do
    IO.eprintln fault.message
    return 1

/-- Runs a command under some settings. -/
def run (settings : Settings) (words : List String) : IO UInt32 := do
  let surroundings ← surroundings settings words
  let report := Console.run words surroundings
  keep surroundings.files report.files
  IO.print report.out
  IO.eprint report.err
  close report.finish

end SymbolLookup.Machine

/-- Runs the command that the words ask for. -/
def main (words : List String) : IO UInt32 := do
  match SymbolLookup.Settings.ofEnvironment (← SymbolLookup.Machine.environment) with
  | .error fault =>
    IO.eprintln fault.message
    return 1
  | .ok settings => SymbolLookup.Machine.run settings words
