import LeakScan.Command.Run

/-!
# The program

Runs a command line on the files that it names and the file of its configuration. Folders are not
listed here, nor is there a connection to a host of repositories or a web server: of a folder only
the files that are named are there, and a host is out of reach.
-/

set_option autoImplicit false

namespace LeakScan

/-- The names of files that an argument may hold. -/
def fileNames (argument : String) : List String :=
  argument :: (Command.attached? argument.toList).toList

/-- A tree with the file of a name, if there is one. -/
def readInto (t : FileTree) (name : String) : IO FileTree := do
  try return t.having (.ofText name) (.file (← IO.FS.readBinFile name) true)
  catch
    | .permissionDenied .. => return t.having (.ofText name) (.file .empty false)
    | _ => return t

/-- The variables of the environment that count. -/
def readEnvironment : IO Environment := do
  let names := "HOME" :: "XDG_CONFIG_HOME" :: Config.environmentSettings.map (·.1)
  return (← names.mapM fun name => return (← IO.getEnv name).map (name, ·)).filterMap id

/-- The name of the file that a configuration has if none is named, where it is known. -/
def standardConfig (env : Environment) : List String :=
  match Config.folderOf env with
  | .ok folder => [(folder.child "config.yaml").text]
  | .error _ => []

/-- Writes the files of a tree that another has not, or not with the same content. -/
def writeChanges (new old : FileTree) : IO Unit := do
  for (path, content) in new.files do
    unless old.files.contains (path, content) do
      IO.FS.writeBinFile path.text content

end LeakScan

open LeakScan in
/-- Runs a command line. -/
def main (arguments : List String) : IO UInt32 := do
  let environment ← readEnvironment
  let here := FilePath.ofText (← IO.currentDir).toString
  let names := standardConfig environment ++ arguments.flatMap fileNames
  let tree ← names.foldlM readInto ⟨FileTree.place (.folder []) here.parts [], here.parts⟩
  let surroundings : Command.Surroundings :=
    { tree := tree
      environment := environment
      host := fun _ _ => .unreachable "No connection"
      now := .ofDecimal false (← IO.monoMsNow) (-3)
      listings := 0
      servesWeb := false
      onTerminal := ← (← IO.getStdout).isTty }
  let outcome := Command.run surroundings arguments
  IO.print outcome.effects.output
  IO.eprint outcome.effects.messages
  for l in outcome.effects.logs do
    IO.eprintln l
  if let some crash := outcome.crash then
    IO.eprintln crash.message
  writeChanges outcome.effects.tree tree
  return UInt32.ofNat outcome.code
