import TableLineage.Sql.Grammar.Block
import TableLineage.Sql.Grammar.Column

/-!
# Routines

Functions, procedures, triggers and macros.  They mention what the defaults of
their parameters and their bodies mention.
-/

namespace TableLineage.Sql

open Sql.Parser

namespace Routine

def modeWord? : Parser Unit := quietly (anyKeyword? ["IN", "OUT", "INOUT"])

def defaultAfter (mark : Parser Bool) (r : Rules) : Parser Mentions := given mark r.exprMentions

def namedParameter (r : Rules) : Parser Mentions := do
  skipIdentifier
  let type ← r.wholeType
  pure (type ++ (← defaultAfter (symbol? "=") r))

def lastIsWord (read : List Lexeme) : Bool :=
  match read.getLast? with
  | some ⟨.word _, _⟩ => true
  | _ => false

/-- A parameter whose name may be left out: what looks like a type is its name when another
type follows. -/
def typedParameter (r : Rules) : Parser Mentions := do
  modeWord?
  let before ← ahead
  let first ← r.wholeType
  let after ← ahead
  let second ← attempt do
    require !(← atKeyword "DEFAULT")
    r.wholeType
  require (second.isNone || lastIsWord (before.take (before.length - after.length)))
  pure (second.getD first ++ (← defaultAfter (anyOf [keyword? "DEFAULT", symbol? "="]) r))

def signature (r : Rules) : Parser Mentions := do
  anyName r
  given (symbol? "(") do
    let parameters ← mentionsOf (separatedOrNone (atSymbol ")") (typedParameter r))
    expectSymbol ")"
    pure parameters

def namedParameters (r : Rules) : Parser Mentions :=
  parenthesized (mentionsOf (separatedOrNone (atSymbol ")") (namedParameter r)))

/-- The attributes of a function that have been told, each of which may come once. -/
structure Attributes where
  language : Bool
  behavior : Bool
  onNull : Bool
  parallel : Bool
  body : Option Mentions

def bodyText : Parser Unit := do
  match ← ahead with
  | ⟨.string (.dollar _) _, _⟩ :: rest => resume rest
  | _ => stringLiteral

def attributeStep (r : Rules) (told : Attributes) : Parser (Attributes × Bool) := do
  if ← keyword? "AS" then
    require told.body.isNone
    bodyText
    pure ({ told with body := some [] }, true)
  else if ← keyword? "LANGUAGE" then
    require !told.language
    skipIdentifier
    pure ({ told with language := true }, true)
  else if ← oneKeyword? ["IMMUTABLE", "STABLE", "VOLATILE"] then
    require !told.behavior
    pure ({ told with behavior := true }, true)
  else if ← anyPhrase? [["CALLED", "ON", "NULL", "INPUT"],
      ["RETURNS", "NULL", "ON", "NULL", "INPUT"], ["STRICT"]] then
    require !told.onNull
    pure ({ told with onNull := true }, true)
  else if ← keyword? "PARALLEL" then
    require !told.parallel
    let _ ← expectAnyKeyword ["UNSAFE", "RESTRICTED", "SAFE"]
    pure ({ told with parallel := true }, true)
  else if ← keyword? "RETURN" then
    require told.body.isNone
    pure ({ told with body := some (← r.exprMentions) }, true)
  else pure (told, false)

def attributeFunction (r : Rules) : Parser Mentions := do
  anyName r
  let parameters ← parenthesized
    (mentionsOf (separatedOrNone (atSymbol ")") (typedParameter r)))
  let result ← afterKeyword "RETURNS" r.wholeType
  let told ← loop (attributeStep r) ⟨false, false, false, false, none⟩
  pure (parameters ++ result ++ told.body.getD [])

def atOptions : Parser Bool := atKeyword "OPTIONS"

/-- A function that may run elsewhere, with options before its body or after it. -/
def remoteFunction (r : Rules) : Parser Mentions := do
  let _ ← ifNotExists?
  anyName r
  let parameters ← namedParameters r
  let result ← afterKeyword "RETURNS" r.wholeType
  let _ ← anyPhrase? [["DETERMINISTIC"], ["NOT", "DETERMINISTIC"]]
  ifNext (keyword? "LANGUAGE") skipIdentifier
  let isRemote ← keywords? ["REMOTE", "WITH", "CONNECTION"]
  ifNext (pure isRemote) (anyName r)
  let early ← atOptions
  let before ← options r "OPTIONS"
  let body ←
    if isRemote then pure []
    else
      expectKeyword "AS"
      r.exprMentions
  let after ← given (onlyIf (!isRemote && !early) atOptions) (options r "OPTIONS")
  pure (parameters ++ result ++ body ++ before ++ after)

def returnedTable (r : Rules) : Parser Mentions := do
  skipIdentifier
  require ((← atKeyword "TABLE") && isSymbol "(" (← peekAt 1))
  r.wholeType

def blockResult (r : Rules) : Parser Mentions := do
  match ← attempt (returnedTable r) with
  | some columns => pure columns
  | none => r.wholeType

def blockBody (r : Rules) : Parser Mentions := do
  if ← atKeyword "BEGIN" then Block.body r ["END"]
  else
    expectKeyword "RETURN"
    if ← atSymbol "(" then r.exprMentions
    else
      require (← atKeyword "SELECT")
      Select.parse r

def blockFunction (r : Rules) : Parser Mentions := do
  anyName r
  let parameters ← namedParameters r
  expectKeyword "RETURNS"
  let result ← blockResult r
  let _ ← keyword? "AS"
  pure (parameters ++ result ++ (← blockBody r))

def createFunction (r : Rules) : Parser Mentions := do
  match (← dialect).functionStyle? with
  | some .attributes => attributeFunction r
  | some .determinism => remoteFunction r
  | some .block => blockFunction r
  | none => fail

def macroParameter (r : Rules) : Parser Mentions := do
  skipIdentifier
  defaultAfter (anyOf [symbol? ":=", symbol? "=>"]) r

def createMacro (r : Rules) : Parser Mentions := do
  require (← has Dialect.macros)
  anyName r
  let parameters ← parenthesized
    (mentionsOf (separatedOrNone (atSymbol ")") (macroParameter r)))
  expectKeyword "AS"
  pure (parameters ++ (← if ← keyword? "TABLE" then r.query else r.exprMentions))

def procedureParameter (r : Rules) : Parser Mentions := do
  modeWord?
  namedParameter r

/-- Parameters in parentheses, absent when none is open; a comma may also stand at the end. -/
def procedureParameters? (r : Rules) : Parser Mentions := do
  if !(← symbol? "(") then pure []
  else if ← symbol? ")" then pure []
  else
    loop (fun read => do
      let parameter ←
        match ← peek with
        | some (.word _) => procedureParameter r
        | _ => pure []
      let comma ← symbol? ","
      if ← symbol? ")" then pure (read ++ parameter, false)
      else
        require comma
        pure (read ++ parameter, true)) []

def createProcedure (r : Rules) : Parser Mentions := do
  anyName r
  let parameters ← procedureParameters? r
  ifNext (keyword? "LANGUAGE") skipIdentifier
  expectKeyword "AS"
  pure (parameters ++ (← Block.body r ["END"]))

/-! ## Triggers -/

def triggerPeriod : Parser Unit :=
  expectPhrase [["FOR"], ["BEFORE"], ["AFTER"], ["INSTEAD", "OF"]]

def triggerEvent : Parser Unit := do
  if ← keyword? "UPDATE" then ifNext (keyword? "OF") identifiers
  else quietly (expectAnyKeyword ["INSERT", "DELETE", "TRUNCATE"])

def blockTrigger (r : Rules) : Parser Mentions := do
  anyName r
  expectKeyword "ON"
  anyName r
  triggerPeriod
  let _ ← separated triggerEvent
  expectKeyword "AS"
  Block.body r ["END"]

def transitionTable (r : Rules) : Parser Bool := do
  if ← oneKeyword? ["OLD", "NEW"] then
    if ← keyword? "TABLE" then
      let _ ← keyword? "AS"
      anyName r
      pure true
    else pure false
  else pure false

/-- A trigger that names its events first, and calls a routine or has a body of its own. -/
def eventTrigger (r : Rules) : Parser Mentions := do
  anyName r
  quietly (attempt triggerPeriod)
  repeatedly do
    triggerEvent
    keyword? "OR"
  expectKeyword "ON"
  anyName r
  ifNext (keyword? "FROM") (quietly (looseName r true))
  Column.traits?
  ifNext (keyword? "REFERENCING") (repeatedly (transitionTable r))
  ifNext (keyword? "FOR") do
    let _ ← keyword? "EACH"
    quietly (expectAnyKeyword ["ROW", "STATEMENT"])
  let guard ← afterKeyword "WHEN" r.exprMentions
  let action ←
    if ← keyword? "EXECUTE" then
      let _ ← expectAnyKeyword ["FUNCTION", "PROCEDURE"]
      signature r
    else Block.body r ["END"]
  pure (guard ++ action)

def createTrigger (r : Rules) : Parser Mentions := do
  require (← has Dialect.triggers)
  eventTrigger r

end Routine

end TableLineage.Sql
