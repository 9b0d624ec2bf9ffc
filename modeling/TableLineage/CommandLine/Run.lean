import TableLineage.CommandLine.Command
import TableLineage.CommandLine.Config
import TableLineage.CommandLine.Files
import TableLineage.Export.Csv
import TableLineage.Lineage.Format
import TableLineage.Lineage.Resolution
import TableLineage.Lineage.Template

/-!
# Running a command

A run reads files and says what is to be printed or written.  What goes wrong
with an input file stays with this file: `extract` shows it in the place of
the records, `export-tables` leaves the file out.  A configuration that cannot
be read, a directory that cannot be listed and an output file that cannot be
written fail the run.  An input that the reading breaks down at takes the whole
run with it.
-/

namespace TableLineage.CommandLine

open Lineage

structure Environment where
  files : Files
  /-- Where relative paths start, or why this cannot be told. -/
  workingDirectory : Except String Path
  /-- In which order the records of an input are resolved that are not resolved one by one. -/
  schedule : Path → Schedule := fun _ => .inOrder

namespace Environment

def root (env : Environment) (path : Path) : Except String Path :=
  match path.root? with
  | some root => .ok root
  | none => env.workingDirectory

def absolute (env : Environment) (path : Path) : Except String Path :=
  (env.root path).map path.below

end Environment

inductive Abort
  | failed (message : String)
  /-- Nothing is printed or written. -/
  | brokenDown
deriving DecidableEq, Repr

inductive InputKind
  | template | schema
deriving DecidableEq, Repr

def InputKind.noun : InputKind → String
  | template => "template"
  | schema => "schema"

/-- The extension by which an input is found in a directory. -/
def InputKind.extension : InputKind → String
  | template => "pbit"
  | schema => "json"

def InputOptions.kind (options : InputOptions) : InputKind :=
  if options.schemaJson then .schema else .template

structure Settings where
  kind : InputKind := .template
  dialect : Sql.Dialect := .tsql
  resolve : Bool := true
  parallel : Bool := true
  pretty : Bool := false
deriving DecidableEq, Repr

def settingsOf (options : InputOptions) (noResolve pretty : Bool) (config : Config) :
    Settings where
  kind := options.kind
  dialect := (options.dialect <|> config.dialect).getD .tsql
  resolve := !noResolve && config.resolve.getD true
  parallel := !options.sequential && config.parallel.getD true
  pretty := pretty || config.pretty.getD false

def configOf (files : Files) : Option String → Except Abort Config
  | none => .ok {}
  | some path =>
      match files.text? path with
      | none => .error (.failed (Config.unreadableMessage path))
      | some text =>
          (Config.ofText text.toList).mapError fun reason =>
            .failed (Config.malformedMessage path reason)

def hasExtension (kind : InputKind) (name : Path) : Bool :=
  name.extension? = some (kind.extension : Path)

/-- The names of the inputs among the entries of a directory, directories included. -/
def inputNames (kind : InputKind) (names : List Path) : List Path :=
  (names.filter (hasExtension kind)).mergeSort (· ≤ ·)

def directoryInputs (files : Files) (kind : InputKind) (directory : Path) :
    Except Abort (List Path) :=
  match files.entryNames directory with
  | .error message => .error (.failed message)
  | .ok names => .ok ((inputNames kind names).map directory.join)

def inputPaths (files : Files) (kind : InputKind) (input : Path) : Except Abort (List Path) :=
  if files.isDirectory input then directoryInputs files kind input else .ok [input]

inductive InputFailure
  | unreadable (kind : InputKind) (path : Path)
  | malformed (error : InputError)
deriving DecidableEq, Repr

def InputFailure.message : InputFailure → String
  | .unreadable kind path => s!"Failed to read {kind.noun} file {path.shown}"
  | .malformed error => error.message

def InputFailure.breaksDown : InputFailure → Bool
  | .unreadable .. => false
  | .malformed error => error.breaksDown

def readDocument (files : Files) (path : Path) : Except InputFailure Extraction :=
  match files.content? path >>= String.fromUTF8? with
  | none => .error (.unreadable .schema path)
  | some text => (extractText text.toList).mapError fun error => .malformed (.document error)

def readTemplate (files : Files) (path : Path) : Except InputFailure Extraction :=
  match files.content? path with
  | none => .error (.unreadable .template path)
  | some archive => (extractTemplate archive).mapError .malformed

def readRecords (files : Files) (kind : InputKind) (path : Path) :
    Except InputFailure (List Record) :=
  let extraction := match kind with
    | .template => readTemplate files path
    | .schema => readDocument files path
  extraction.map Extraction.records

/-- The records of an input or why there are none, unless the reading breaks down. -/
def readInput (files : Files) (kind : InputKind) (path : Path) :
    Except Abort (Except InputFailure (List Record)) :=
  match readRecords files kind path with
  | .ok records => .ok (.ok records)
  | .error failure => if failure.breaksDown then .error .brokenDown else .ok (.error failure)

def resolveInput (env : Environment) (settings : Settings) (path : Path) (records : List Record) :
    Except Abort (List ResolvedRecord) :=
  if resolutionBreaksDown settings.dialect records then .error .brokenDown
  else
    let resolver := sqlResolver settings.dialect
    if settings.parallel then .ok (resolveSideBySide (env.schedule path) resolver records)
    else .ok (resolveAll resolver records)

inductive Report
  | resolved (records : List ResolvedRecord)
  | unresolved (records : List Record)
  | failed (message : String)
deriving DecidableEq, Repr

def Report.toValue : Report → Json.Value
  | .resolved records => .array (records.map (·.toValue))
  | .unresolved records => .array (records.map (·.toValue))
  | .failed message => .object [("error", .string message)]

def failureText (path : Path) (failure : InputFailure) : String :=
  s!"Could not extract lineage from file {path.shown} due to error: {failure.message}"

def reportOn (env : Environment) (settings : Settings) (path : Path) : Except Abort Report := do
  match ← readInput env.files settings.kind path with
  | .error failure => .ok (.failed (failureText path failure))
  | .ok records =>
      if settings.resolve then .ok (.resolved (← resolveInput env settings path records))
      else .ok (.unresolved records)

def extractMember (env : Environment) (settings : Settings) (path : Path) :
    Except Abort (String × Json.Value) := do
  let report ← reportOn env settings path
  let whole ← (env.absolute path).mapError .failed
  .ok (whole.shown, report.toValue)

/-- A directory is shown as an object with a member for every input in it.  Of inputs whose paths
are shown alike the last one counts. -/
def extractValue (env : Environment) (settings : Settings) (input : Path) :
    Except Abort Json.Value := do
  if env.files.isDirectory input then
    let inputs ← directoryInputs env.files settings.kind input
    let members ← inputs.mapM (extractMember env settings)
    .ok (.object (Ordered.ofEntries members))
  else
    let report ← reportOn env settings input
    .ok report.toValue

def printedValue (pretty : Bool) (value : Json.Value) : String :=
  if pretty then value.indentedText else value.compactText

def exportedRecords (env : Environment) (settings : Settings) (path : Path) :
    Except Abort (List ResolvedRecord) := do
  match ← readInput env.files settings.kind path with
  | .ok records => resolveInput env settings path records
  | .error _ => .ok []

def exportText (env : Environment) (settings : Settings) (input : Path) :
    Except Abort String := do
  let inputs ← inputPaths env.files settings.kind input
  let records ← inputs.mapM (exportedRecords env settings)
  .ok (Export.usedTables records.flatten).csv

inductive Output
  | printed (text : String)
  | saved (path : Path) (text : String)
deriving DecidableEq, Repr

def unwritableMessage (path : Path) : String := s!"Failed to create output file {path.shown}"

def run (env : Environment) (command : Command) : Except Abort Output := do
  let config ← configOf env.files command.options.config
  match command with
  | .extract options noResolve pretty =>
      let settings := settingsOf options noResolve pretty config
      let value ← extractValue env settings options.input
      .ok (.printed (printedValue settings.pretty value ++ "\n"))
  | .exportTables options output =>
      let text ← exportText env (settingsOf options false false config) options.input
      match output with
      | some path => .ok (.saved path text)
      | none => .ok (.printed text)

/-! ## What is seen of a run -/

structure Finish where
  exitCode : UInt8
  output : String := ""
  error : String := ""
deriving DecidableEq, Repr

def Finish.ofFailure (message : String) : Finish :=
  { exitCode := 1, error := "Error: " ++ message ++ "\n" }

def Finish.ofAbort : Abort → Finish
  | .failed message => .ofFailure message
  | .brokenDown => { exitCode := 101 }

/-- What is wrong with arguments is told in words that are left out here. -/
def Finish.ofRefusal : Command.Refusal → Finish
  | .help page => { exitCode := 0, output := page.text }
  | .nothing => { exitCode := 2, error := Command.programPage.text }
  | .misuse => { exitCode := 2 }

def FileTree.environment (tree : FileTree) (workingDirectory : Path) : Environment where
  files := tree.files
  workingDirectory := .ok workingDirectory

/-- Runs a command on files in memory. -/
def FileTree.run (tree : FileTree) (workingDirectory : Path) (arguments : List String) :
    Finish × FileTree :=
  match Command.ofArguments arguments with
  | .error refusal => (.ofRefusal refusal, tree)
  | .ok command =>
      match CommandLine.run (tree.environment workingDirectory) command with
      | .error abort => (.ofAbort abort, tree)
      | .ok (.printed text) => ({ exitCode := 0, output := text }, tree)
      | .ok (.saved path text) =>
          match tree.write? path text.toUTF8 with
          | some tree => ({ exitCode := 0 }, tree)
          | none => (.ofFailure (unwritableMessage path), tree)

end TableLineage.CommandLine
