import RouteAtlas.Command.Run

/-!
The command line. It reads the files that a command may look at, runs the command on them, and puts
down what has changed.
-/

namespace RouteAtlas

/-- The files that the program may look at: the settings and the document to extend. -/
def Invocation.inputs : Invocation → List FilePath
  | .version | .help => []
  | .command shared c =>
    (shared.config.map fun p => [p]).getD (Config.fileNames.map FilePath.ofString) ++ match c with
      | .build r => r.mergeInto.toList
      | .inspect _ => []

/-- The variables of the environment that matter. -/
def variableNames : List String :=
  Config.settingVariables.map (·.1) ++ ["NO_COLOR", "TERM", "COLUMNS"]

def readVariables : IO (List (String × String)) :=
  variableNames.filterMapM fun n => do return (← IO.getEnv n).map fun v => (n, v)

/-- The files among the paths that are there. -/
def readFiles (paths : List FilePath) : IO FileTree :=
  paths.foldlM (fun t p => do
    try return t.withFile p (← IO.FS.readBinFile p.toString).toList
    catch _ => return t) FileTree.empty

/-- A place as the system names it. -/
def placeText : List String → String
  | "/" :: names => "/" ++ Text.join "/" names
  | names => Text.join "/" names

/-- Puts down the entries that are new or not what they were. -/
def writeFiles (before after : FileTree) : IO Unit :=
  after.entries.forM fun e => do
    if before.entries.lookup e.1 ≠ some e.2 then
      let path := placeText e.1
      match e.2 with
      | .directory => IO.FS.createDirAll path
      | .file content =>
        let temporary := path ++ ".tmp"
        IO.FS.writeBinFile temporary (ByteArray.mk content.toArray)
        IO.FS.rename temporary path

/-- Runs the program for the route actions that the modules expose. -/
def runProgram (modules : Modules) (classes : Registry) (words : List String) : IO UInt32 := do
  let stderr ← IO.getStderr
  match Invocation.read words with
  | .error f =>
    stderr.putStrLn ("Error: " ++ f.message)
    return UInt32.ofNat ExitCode.usage.number
  | .ok invocation =>
    let environment ← readVariables
    let files ← readFiles invocation.inputs
    let terminal : Terminal := {
      interactive := ← (← IO.getStdout).isTty, environment := environment
      width := ((environment.lookup "COLUMNS").bind String.toNat?).getD 80 }
    let surroundings : Surroundings :=
      { modules, classes, files, root := (← IO.currentDir).toString, terminal }
    let o := invocation.run surroundings
    writeFiles files o.transcript.files
    (← IO.getStdout).putStr o.transcript.stdout
    stderr.putStr o.transcript.stderr
    if let some f := o.untold then stderr.putStrLn f.message
    return UInt32.ofNat o.exit

end RouteAtlas

/-- The program without modules of its own. -/
def main (words : List String) : IO UInt32 := RouteAtlas.runProgram [] ∅ words
