import TableLineage.Sql.Grammar.Literal
import TableLineage.Sql.Grammar.Options
import TableLineage.Sql.Vocabulary

/-!
# Type names

A type is a word that is known as one, with the arguments that it takes, or any
dotted name with a list of modifiers.
-/

namespace TableLineage.Sql

open Sql.Parser

namespace TypeName

def builtin : TypeName := ⟨.builtin, false, []⟩

def mentioning (mentions : Mentions) : TypeName := ⟨.builtin, false, mentions⟩

def precision? : Parser Unit :=
  ifNext (symbolAs? .tight "(") do
    wholeNumber
    expectSymbol ")"

def signedInteger : Parser Unit := do
  let negative ← unwritten (symbol? "-")
  if negative then pure () else quietly (unwritten (symbol? "+"))
  let size ← unwritten (wholeNumberBelow Number.signedLimit)
  writeText (toString (if negative then -(size : Int) else size))

def precisionAndScale? : Parser Unit :=
  ifNext (symbolAs? .tight "(") do
    wholeNumber
    ifNext (symbolAs? .tight ",") signedInteger
    expectSymbol ")"

def characterLength? : Parser Unit :=
  ifNext (symbolAs? .tight "(") do
    if ← keyword? "MAX" then pure ()
    else
      wholeNumber
      quietly (anyKeyword? ["CHARACTERS", "OCTETS"])
    expectSymbol ")"

def byteLength? : Parser Unit :=
  ifNext (symbolAs? .tight "(") do
    if ← keyword? "MAX" then pure () else wholeNumber
    expectSymbol ")"

def characterArguments : Parser Unit := do
  if ← keyword? "VARYING" then characterLength?
  else if ← keywords? ["LARGE", "OBJECT"] then precision?
  else characterLength?

def unsigned? : Parser Unit := quietly (keyword? "UNSIGNED")

def signSuffix : Parser Unit := do
  if ← keyword? "UNSIGNED" then pure ()
  else if ← has Dialect.signedSuffix then quietly (unwritten (keyword? "SIGNED"))
  else pure ()

def timeZone? : Parser Unit :=
  ifNext (oneKeyword? ["WITH", "WITHOUT"]) (expectKeywords ["TIME", "ZONE"])

def label : Parser Unit := do
  stringLiteral
  ifNext (symbol? "=") do
    if ← symbolAs? .opening "+" then pure () else quietly (symbolAs? .opening "-")
    numberValue

/-- The modifiers of a type that is not built in; commas between them may be left out. -/
def modifiers? : Parser Unit :=
  ifNext (unwritten (symbol? "(")) do
    let modifiers ← loop (fun modifiers => do
      match ← next with
      | some (.word word) => pure (word.ident.wording :: modifiers, true)
      | some (.number text _) | some (.string .single text) => pure (text :: modifiers, true)
      | some (.symbol text) =>
          if text == "," then pure (modifiers, true)
          else if text == ")" then pure (modifiers, false)
          else fail
      | _ => fail) []
    if modifiers.isEmpty then pure ()
    else write (.closing ("(" ++ ", ".intercalate modifiers.reverse ++ ")"))

def lastFields (first : String) : List String :=
  match first with
  | "YEAR" => ["MONTH"]
  | "DAY" => ["HOUR", "MINUTE", "SECOND"]
  | "HOUR" => ["MINUTE", "SECOND"]
  | "MINUTE" => ["SECOND"]
  | _ => []

def intervalFields? : Parser Unit := do
  match ← anyKeyword? ["YEAR", "DAY", "HOUR", "MINUTE", "MONTH", "SECOND"] with
  | some first =>
      match lastFields first with
      | [] => pure ()
      | fields => ifNext (keyword? "TO") (quietly (expectAnyKeyword fields))
  | none => pure ()

def closeAngle (closed : Bool) : Parser Bool := do
  if closed then pure false
  else if ← symbol? ">" then pure false
  else if ← symbol? ">>" then pure true
  else fail

/-- A field of a structured type: a type, with a name before it or without. -/
def field (r : Rules) : Parser TypeName := do
  match ← ahead with
  | ⟨.word _, _⟩ :: ⟨.word type, spaced⟩ :: rest => resume (⟨.word type, spaced⟩ :: rest)
  | ⟨.word _, _⟩ :: ⟨.symbol ":", _⟩ :: rest => resume rest
  | _ => pure ()
  let type ← r.typeName
  pure { type with mentions := type.mentions ++ (← options r "OPTIONS") }

def structFields? (r : Rules) : Parser TypeName := do
  if ← symbol? "<" then
    let (closed, mentions) ← loop (fun (_, read) => do
      let f ← field r
      let read := read ++ f.mentions
      if f.closes then pure ((true, read), false)
      else pure ((false, read), ← symbol? ",")) (false, [])
    pure ⟨.builtin, ← closeAngle closed, mentions⟩
  else pure builtin

/-! ## Types -/

def geometricTypes : List String :=
  ["POINT", "LINE", "LSEG", "BOX", "PATH", "POLYGON", "CIRCLE"]

def customType (r : Rules) : Parser TypeName := do
  let named ← objectName r false
  modifiers?
  pure ⟨.custom, false, named.inside⟩

/-- The arguments of a type that only reads words and numbers; nothing if the word is none. -/
def simpleArguments? (d : Dialect) (keyword : String) : Option (Parser Unit) :=
  if plainTypes.contains keyword then some (pure ())
  else if integerTypes.contains keyword then some (precision? *> signSuffix)
  else if shortIntegerTypes.contains keyword then some (precision? *> unsigned?)
  else if precisionTypes.contains keyword then some precision?
  else if exactTypes.contains keyword then some precisionAndScale?
  else if unsignableTypes.contains keyword then some (precisionAndScale? *> unsigned?)
  else
    match keyword with
    | "REAL" => some unsigned?
    | "DOUBLE" => some do
        if ← keyword? "PRECISION" then pure () else precisionAndScale?
        unsigned?
    | "VARCHAR" | "NVARCHAR" => some characterLength?
    | "VARBINARY" => some byteLength?
    | "CHARACTER" | "CHAR" => some characterArguments
    | "BIT" => some do
        quietly (keyword? "VARYING")
        precision?
    | "TIMESTAMP" | "TIME" => some (precision? *> timeZone?)
    | "DATETIME64" => some (tightParens do
        wholeNumber
        ifNext (symbol? ",") stringLiteral)
    | "FIXEDSTRING" => some (tightParens wholeNumber)
    | "ENUM" | "ENUM8" | "ENUM16" => some (quietly (tightParens (separated label)))
    | "SET" => some (quietly (tightParens (separated singleString)))
    | "SIGNED" | "UNSIGNED" => some (quietly (keyword? "INTEGER"))
    | "TSVECTOR" | "TSQUERY" => if d.textSearchTypes then some (pure ()) else none
    | _ => none

def columns (r : Rules) : Parser TypeName := do
  pure (mentioning (← tightParens (mentionsOf (separated r.column))))

/-- The arguments of a type made of others; nothing if the word is none. -/
def compoundArguments? (r : Rules) (d : Dialect) (keyword : String) : Option (Parser TypeName) :=
  match keyword with
  | "INTERVAL" => some do
      if d.intervalOptions then
        intervalFields?
        precision?
      else pure ()
      pure ⟨.interval, false, []⟩
  | "TABLE" => some do
      if ← atSymbol "(" then columns r else pure builtin
  | "ARRAY" => some do
      if d.bareArrayType then pure builtin
      else
        expectSymbol "<"
        let inner ← r.typeName
        pure ⟨.builtin, ← closeAngle inner.closes, inner.mentions⟩
  | "STRUCT" => if d.structTypes then some (structFields? r) else none
  | "UNION" => if d.wrapperTypes then some do
      pure (mentioning (← tightParens (mentionsOf (separated do
        skipIdentifier
        r.wholeType)))) else none
  | "NULLABLE" | "LOWCARDINALITY" => if d.wrapperTypes then some do
      pure (mentioning (← tightParens r.wholeType)) else none
  | "MAP" => if d.wrapperTypes then some do
      pure (mentioning (← tightParens do
        let key ← r.wholeType
        expectSymbol ","
        pure (key ++ (← r.wholeType)))) else none
  | "NESTED" => if d.wrapperTypes then some (columns r) else none
  | "TUPLE" => if d.wrapperTypes then some do
      pure (mentioning (← tightParens (mentionsOf (separated do pure (← field r).mentions))))
      else none
  | _ => none

/-- The arguments of a built-in type whose word has been read; nothing if the word is none. -/
def arguments? (r : Rules) (d : Dialect) (keyword : String) : Option (Parser TypeName) :=
  match simpleArguments? d keyword with
  | some arguments => some (arguments *> pure builtin)
  | none => compoundArguments? r d keyword

def arraySuffix (type : TypeName) : Parser TypeName := do
  if ← has Dialect.bracketArrayTypes then
    loop (fun type => do
      if ← symbolAs? .tight "[" then
        let _ ← attempt wholeNumber
        expectSymbol "]"
        pure ({ type with form := .builtin }, true)
      else pure (type, false)) type
  else pure type

def spelling (keyword : String) : String :=
  match keyword with
  | "DATE32" => "Date32"
  | "DATETIME64" => "DateTime64"
  | "FIXEDSTRING" => "FixedString"
  | "FLOAT32" => "Float32"
  | "INT16" => "Int16"
  | "INT32" => "Int32"
  | "INT128" => "Int128"
  | "INT256" => "Int256"
  | "UINT8" => "UInt8"
  | "UINT16" => "UInt16"
  | "UINT32" => "UInt32"
  | "UINT64" => "UInt64"
  | "UINT128" => "UInt128"
  | "UINT256" => "UInt256"
  | _ => keyword

def parse (r : Rules) : Parser TypeName := do
  let d ← dialect
  match ← peek with
  | some (.word word) =>
      match arguments? r d word.keyword with
      | some rest =>
          let _ ← next
          writeText (spelling word.keyword)
          arraySuffix (← rest)
      | none =>
          if ← keywords? ["ANY", "TYPE"] then arraySuffix builtin
          else arraySuffix (← customType r)
  | _ => fail

end TypeName

end TableLineage.Sql
