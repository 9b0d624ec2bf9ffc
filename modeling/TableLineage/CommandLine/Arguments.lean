import TableLineage.Text.Split

/-!
# Arguments

An argument is a switch with a long or a short name, the value of the switch
before it, or an operand.  A value may also stand in the same argument as its
switch.  After two hyphens everything is an operand.

What the arguments mean is collected in a draft.  Arguments are read from left
to right, and reading ends with the first that is refused or that asks for
help.
-/

namespace TableLineage.CommandLine

/-- Why arguments name nothing to do. -/
inductive Stop
  | help
  | misuse
deriving DecidableEq, Repr

inductive Word
  | divider
  | long (name : String) (value : Option String)
  | short (first : Char) (rest : List Char)
  | operand (text : String)
deriving DecidableEq, Repr

def Word.ofArgument (argument : String) : Word :=
  match argument.toList with
  | ['-', '-'] => .divider
  | '-' :: '-' :: text =>
      match Text.splitOnce '=' text with
      | some (name, value) => .long (String.ofList name) (some (String.ofList value))
      | none => .long (String.ofList text) none
  | '-' :: first :: rest => .short first rest
  | _ => .operand argument

/-- Enters a text into a draft; `none` refuses it. -/
abbrev Entry (δ : Type) := String → δ → Option δ

inductive Effect (δ : Type)
  | flag (set : δ → Option δ)
  | value (enter : Entry δ)

structure Switch (δ : Type) where
  long : String
  short : Option Char := none
  about : String
  effect : Effect δ

structure Usage (δ : Type) where
  switches : List (Switch δ)
  operand : Entry δ

namespace Usage

structure Reading (δ : Type) where
  draft : δ
  /-- The switch before, if its value is still to come. -/
  awaiting : Option (Entry δ) := none
  operandsOnly : Bool := false

variable {δ : Type}

def accept (reading : Reading δ) : Option δ → Except Stop (Reading δ)
  | some draft => .ok { reading with draft, awaiting := none }
  | none => .error .misuse

def enter (reading : Reading δ) (entry : Entry δ) (text : String) : Except Stop (Reading δ) :=
  accept reading (entry text reading.draft)

def longEffect? (usage : Usage δ) (name : String) : Option (Effect δ) :=
  (usage.switches.find? fun switch => switch.long = name).map (·.effect)

def shortEffect? (usage : Usage δ) (letter : Char) : Option (Effect δ) :=
  (usage.switches.find? fun switch => switch.short = some letter).map (·.effect)

def helpName : String := "help"

def helpLetter : Char := 'h'

def readLong (usage : Usage δ) (reading : Reading δ) (name : String) (value : Option String) :
    Except Stop (Reading δ) :=
  if name = helpName then .error (if value.isNone then .help else .misuse)
  else
    match usage.longEffect? name, value with
    | some (.flag set), none => accept reading (set reading.draft)
    | some (.value entry), some text => enter reading entry text
    | some (.value entry), none => .ok { reading with awaiting := some entry }
    | some (.flag _), some _ | none, _ => .error .misuse

/-- Letters may share a hyphen; behind one that takes a value stands the value. -/
def readShort (usage : Usage δ) (reading : Reading δ) (first : Char) (rest : List Char) :
    Except Stop (Reading δ) :=
  if first = helpLetter then .error .help
  else
    match usage.shortEffect? first, rest with
    | some (.value entry), [] => .ok { reading with awaiting := some entry }
    | some (.value entry), '=' :: text => enter reading entry (String.ofList text)
    | some (.value entry), text => enter reading entry (String.ofList text)
    | some (.flag set), [] => accept reading (set reading.draft)
    | some (.flag set), next :: others => do
        readShort usage (← accept reading (set reading.draft)) next others
    | none, _ => .error .misuse

def readArgument (usage : Usage δ) (reading : Reading δ) (argument : String) :
    Except Stop (Reading δ) :=
  if reading.operandsOnly then enter reading usage.operand argument
  else
    match Word.ofArgument argument, reading.awaiting with
    | .operand text, some entry => enter reading entry text
    | _, some _ => .error .misuse
    | .operand text, none => enter reading usage.operand text
    | .divider, none => .ok { reading with operandsOnly := true }
    | .long name value, none => readLong usage reading name value
    | .short first rest, none => readShort usage reading first rest

def fill (usage : Usage δ) (draft : δ) (arguments : List String) : Except Stop δ := do
  let reading ← arguments.foldlM usage.readArgument { draft }
  if reading.awaiting.isSome then .error .misuse else .ok reading.draft

end Usage

end TableLineage.CommandLine
