import TableLineage.CommandLine.Help
import TableLineage.CommandLine.Path
import TableLineage.Sql.Dialect

/-!
# Commands

There are two commands, and both work on one input, a file or a directory.  No
switch may be given twice.
-/

namespace TableLineage.CommandLine

/-- What both commands are told about their input. -/
structure InputOptions where
  input : Path
  /-- The input is a schema document and not a template. -/
  schemaJson : Bool := false
  dialect : Option Sql.Dialect := none
  sequential : Bool := false
  /-- The path of a configuration file. -/
  config : Option String := none
deriving DecidableEq, Repr

inductive Command
  | extract (options : InputOptions) (noResolve pretty : Bool)
  | exportTables (options : InputOptions) (output : Option Path)
deriving DecidableEq, Repr

def Command.options : Command → InputOptions
  | .extract options .. => options
  | .exportTables options _ => options

namespace Command

structure Draft where
  input : Option Path := none
  schemaJson : Bool := false
  dialect : Option Sql.Dialect := none
  sequential : Bool := false
  config : Option String := none
  noResolve : Bool := false
  pretty : Bool := false
  output : Option Path := none

def Draft.options? (draft : Draft) : Option InputOptions :=
  draft.input.map fun input => {
    input
    schemaJson := draft.schemaJson
    dialect := draft.dialect
    sequential := draft.sequential
    config := draft.config }

def setOnce (old : Bool) (set : Draft) : Option Draft := if old then none else some set

def fillOnce (old : Option α) (value : Option β) (fill : β → Draft) : Option Draft :=
  if old.isSome then none else value.map fill

def pathText? (text : String) : Option String := if text = "" then none else some text

def enterInput : Entry Draft := fun text draft =>
  fillOnce draft.input (pathText? text) fun path => { draft with input := some (path : Path) }

def inputSwitches : List (Switch Draft) := [
  { long := "schema-json"
    about := "Inputs are extracted schema JSON files instead of templates"
    effect := .flag fun draft => setOnce draft.schemaJson { draft with schemaJson := true } },
  { long := "dialect"
    about := "SQL dialect used to resolve tables [default: tsql]"
    effect := .value fun text draft =>
      fillOnce draft.dialect (Sql.Dialect.ofTag? text) fun dialect =>
        { draft with dialect := some dialect } },
  { long := "sequential"
    about := "Resolve tables one record at a time"
    effect := .flag fun draft => setOnce draft.sequential { draft with sequential := true } },
  { long := "config"
    about := "Path to a TOML file with default options"
    effect := .value fun text draft =>
      fillOnce draft.config (pathText? text) fun path => { draft with config := some path } }]

def extractSwitches : List (Switch Draft) := inputSwitches ++ [
  { long := "no-resolve"
    about := "Do not resolve the tables read by each query"
    effect := .flag fun draft => setOnce draft.noResolve { draft with noResolve := true } },
  { long := "pretty"
    about := "Pretty-print the output lineage"
    effect := .flag fun draft => setOnce draft.pretty { draft with pretty := true } }]

def exportSwitches : List (Switch Draft) := inputSwitches ++ [
  { long := "output", short := some 'o'
    about := "Path of the CSV file to write, stdout when omitted"
    effect := .value fun text draft =>
      fillOnce draft.output (pathText? text) fun path =>
        { draft with output := some (path : Path) } }]

def programName : String := "pbit-lineage"

def extractLine : HelpLine := ⟨"extract", "Extract lineage from one or more template files"⟩

def exportLine : HelpLine :=
  ⟨"export-tables", "Export the tables used by one or more template files as CSV"⟩

def helpLine : HelpLine :=
  ⟨Usage.helpName, "Print this message or the help of the given subcommand(s)"⟩

def programPage : HelpPage where
  about := "Power BI template lineage extractor"
  usage := s!"{programName} <COMMAND>"
  lists := [⟨"Commands", [extractLine, exportLine, helpLine]⟩, ⟨"Options", [helpSwitchLine]⟩]

def inputName : String := "<PBIT_[FILE|DIR]>"

def inputPage (command : HelpLine) (switches : List (Switch Draft)) : HelpPage where
  about := command.about
  usage := s!"{programName} {command.name} [OPTIONS] {inputName}"
  lists := [
    ⟨"Arguments",
      [⟨inputName, "Path to the template file or directory containing template files"⟩]⟩,
    ⟨"Options", switches.map Switch.helpLine ++ [helpSwitchLine]⟩]

def extractPage : HelpPage := inputPage extractLine extractSwitches

def exportPage : HelpPage := inputPage exportLine exportSwitches

def helpPage : HelpPage where
  about := helpLine.about
  usage := s!"{programName} {helpLine.name} [COMMAND]..."
  lists := [⟨"Arguments", [⟨"[COMMAND]...", "Print help for the subcommand(s)"⟩]⟩]

/-! ## Reading -/

inductive Refusal
  | help (page : HelpPage)
  /-- Nothing is asked for. -/
  | nothing
  | misuse
deriving DecidableEq, Repr

def Refusal.ofStop (page : HelpPage) : Stop → Refusal
  | .help => .help page
  | .misuse => .misuse

/-- What is told to a command with these switches; an input is needed. -/
def readDraft (page : HelpPage) (switches : List (Switch Draft)) (arguments : List String) :
    Except Refusal (Draft × InputOptions) := do
  let draft ← (Usage.fill ⟨switches, enterInput⟩ {} arguments).mapError (.ofStop page)
  match draft.options? with
  | some options => .ok (draft, options)
  | none => .error .misuse

def readExtract (arguments : List String) : Except Refusal Command := do
  let (draft, options) ← readDraft extractPage extractSwitches arguments
  .ok (.extract options draft.noResolve draft.pretty)

def readExportTables (arguments : List String) : Except Refusal Command := do
  let (draft, options) ← readDraft exportPage exportSwitches arguments
  .ok (.exportTables options draft.output)

def pages : List (String × HelpPage) := [
  (extractLine.name, extractPage),
  (exportLine.name, exportPage),
  (helpLine.name, helpPage)]

def helpAbout : List String → Refusal
  | [] => .help programPage
  | [name] => (pages.lookup name).elim .misuse .help
  | _ => .misuse

def ofArguments : List String → Except Refusal Command
  | [] => .error .nothing
  | name :: arguments =>
      if name = extractLine.name then readExtract arguments
      else if name = exportLine.name then readExportTables arguments
      else if name = helpLine.name then .error (helpAbout arguments)
      else
        match Word.ofArgument name with
        | .long name none =>
            .error (if name = Usage.helpName then .help programPage else .misuse)
        | .short letter _ =>
            .error (if letter = Usage.helpLetter then .help programPage else .misuse)
        | _ => .error .misuse

end Command

end TableLineage.CommandLine
