import TableLineage.CommandLine.Run

/-!
# The program

The files that a command may read are read first; the run itself is pure.  The
calls of the system take paths as text.
-/

namespace TableLineage.Main

open CommandLine

def systemMessage : IO.Error → String
  | .noFileOrDirectory _ code details => s!"{details} (os error {code})"
  | .permissionDenied _ code details => s!"{details} (os error {code})"
  | .resourceExhausted _ code details => s!"{details} (os error {code})"
  | .inappropriateType _ code details => s!"{details} (os error {code})"
  | .noSuchThing _ code details => s!"{details} (os error {code})"
  | error => error.toString

def entryNames (path : Path) : IO (Except String (List Path)) := do
  try
    let entries ← (IO.FS.DirEntry.root ⟨path.shown, ""⟩).readDir
    return .ok (entries.toList.map fun entry => (entry.fileName : Path))
  catch error => return .error (systemMessage error)

def content? (path : Path) : IO (Option ByteArray) := do
  try return some (← IO.FS.readBinFile path.shown)
  catch _ => return none

def filesAround (options : InputOptions) : IO Files := do
  let isDirectory ← (IO.FS.DirEntry.root ⟨options.input.shown, ""⟩).isDir
  let names ← if isDirectory then entryNames options.input else pure (.ok [])
  let directory : Files := {
    isDirectory := fun path => path = options.input && isDirectory
    entryNames := fun _ => names
    content? := fun _ => none }
  let inputs := (inputPaths directory options.kind options.input).toOption.getD []
  let contents ← (options.config.toList.map Path.ofString ++ inputs).mapM fun path =>
    return (path, ← content? path)
  return { directory with content? := fun path => (contents.lookup path).join }

def workingDirectory : IO (Except String Path) := do
  try return .ok ((← IO.currentDir).toString : Path)
  catch error => return .error (systemMessage error)

def save (path : Path) (text : String) : IO Finish := do
  try
    IO.FS.writeFile path.shown text
    return { exitCode := 0 }
  catch _ => return .ofFailure (unwritableMessage path)

def perform (command : Command) : IO Finish := do
  let files ← filesAround command.options
  match run { files, workingDirectory := ← workingDirectory } command with
  | .error abort => return .ofAbort abort
  | .ok (.printed text) => return { exitCode := 0, output := text }
  | .ok (.saved path text) => save path text

def start (arguments : List String) : IO UInt32 := do
  let finish ← match Command.ofArguments arguments with
    | .ok command => perform command
    | .error refusal => pure (.ofRefusal refusal)
  (← IO.getStdout).putStr finish.output
  (← IO.getStderr).putStr finish.error
  return finish.exitCode.toUInt32

end TableLineage.Main

def main (arguments : List String) : IO UInt32 := TableLineage.Main.start arguments
