import TableLineage.Sql.Grammar.Rules

/-!
# Identifiers, dotted names and aliases

Any word serves as an identifier where one is required, keywords included, and
so does a string literal.  An alias without `AS` has to be a word that the
dialect does not reserve at that place.
-/

namespace TableLineage.Sql

open Sql.Parser

def Word.ident (word : Word) : Ident := ⟨word.text, word.quote⟩

def Token.ident? : Token → Option Ident
  | .word w => some w.ident
  | .string .single text => some ⟨text, some '\''⟩
  | .string .double text => some ⟨text, some '"'⟩
  | _ => none

def identifier : Parser Ident := do
  match ← next with
  | some token =>
      match token.ident? with
      | some ident =>
          writeIdent ident
          pure ident
      | none => fail
  | none => fail

def skipIdentifier : Parser Unit := quietly identifier

def identifiers : Parser Unit := quietly (separated identifier)

def columnList (allowEmpty : Bool) : Parser Unit := do
  expectSymbol "("
  if allowEmpty && (← atSymbol ")") then pure () else identifiers
  expectSymbol ")"

def columnList? (allowEmpty : Bool) : Parser Unit :=
  ifNext (atSymbol "(") (columnList allowEmpty)

/-- What was read of a hyphenated identifier, whether a period was read with it, and the rest. -/
abbrev HyphenRead := Option (String × Bool × List Lexeme)

def wholeDigits? (text : String) : Option String :=
  let digits := text.toList.takeWhile (· != '.')
  if !digits.isEmpty && digits.all Text.isAsciiDigit then some (String.ofList digits) else none

def hyphenTail (text : String) (endsInNumber : Bool) : List Lexeme → HyphenRead
  | ⟨.symbol "-", false⟩ :: ⟨.word word, false⟩ :: rest =>
      if word.quote.isNone then hyphenTail (text ++ "-" ++ word.text) false rest else none
  | ⟨.symbol "-", false⟩ :: ⟨.number digits false, false⟩ :: rest =>
      if digits.endsWith "." then
        (wholeDigits? digits).map fun whole => (text ++ "-" ++ whole, true, rest)
      else hyphenTail (text ++ "-" ++ digits) (!isSymbol "." (headToken rest)) rest
  | ⟨.symbol "-", false⟩ :: _ => none
  | rest => if endsInNumber && !rest.isEmpty then none else some (text, false, rest)

def hyphenated : Parser (Ident × Bool) := do
  match ← peek with
  | some (.word word) =>
      let _ ← next
      if word.quote.isSome then
        writeIdent word.ident
        pure (word.ident, false)
      else
        match hyphenTail word.text false (← ahead) with
        | some (text, period, rest) =>
            resume rest
            writeText text
            pure (⟨text, none⟩, period)
        | none => fail
  | _ => pure (← identifier, false)

structure Named where
  name : ObjectName
  inside : Mentions
deriving DecidableEq, Repr

def Named.relation (named : Named) : Mentions := .relation named.name :: named.inside

def namePartCall (r : Rules) (word : Ident) : Parser (NamePart × Mentions) :=
  tightParens do
    let (mentions, wording) ← apart r.arguments
    writeAll wording
    pure (.call (word.value ++ "(" ++ wording.text ++ ")"), mentions)

def NamePart.isCall : NamePart → Bool
  | .call _ => true
  | .ident _ => false

def isNamePartCall (d : Dialect) (before : ObjectName) (ident : Ident) : Bool :=
  d.identifierFunction && ident.quote.isNone && !before.any NamePart.isCall &&
    Text.lowercase ident.value.toList == "identifier".toList

/-- Which names are read: in that of a table hyphens may be allowed, and in one that a privilege
is for a star may stand for a part. -/
structure NameStyle where
  inTable : Bool
  stars : Bool
deriving DecidableEq, Repr

def nameStep (r : Rules) (style : NameStyle) (before : Named) : Parser (Named × Bool) := do
  let d ← dialect
  let hyphens := d.hyphenatedNames && style.inTable
  let (part, inside, period) ←
    if ← onlyIf (style.stars && !hyphens) (symbol? "*") then
      pure (NamePart.ident ⟨"*", none⟩, [], false)
    else if hyphens then
      let (ident, period) ← hyphenated
      pure (.ident ident, [], period)
    else if ← onlyIf (d.doubleDotNames && before.name.length == 1) (atSymbol ".") then
      pure (.ident ⟨"", none⟩, [], false)
    else
      let ident ← identifier
      if isNamePartCall d before.name ident then
        let (part, inside) ← namePartCall r ident
        pure (part, inside, false)
      else pure (.ident ident, [], false)
  let more ← symbol? "."
  pure (⟨before.name ++ [part], before.inside ++ inside⟩, more || period)

def splitPart : NamePart → List NamePart
  | .ident ident =>
      (ident.value.splitOn ".").map fun text => .ident ⟨text, ident.quote⟩
  | part => [part]

def styledName (r : Rules) (style : NameStyle) : Parser Named := do
  let named ← loop (nameStep r style) ⟨[], []⟩
  if (← dialect).hyphenatedNames then
    pure { named with name := named.name.flatMap splitPart }
  else pure named

/-- `inTable` marks a name that stands for a table, where hyphens may be allowed. -/
def objectName (r : Rules) (inTable : Bool) : Parser Named := styledName r ⟨inTable, false⟩

def relation (r : Rules) (inTable : Bool) : Parser Mentions := do
  pure (← objectName r inTable).relation

def anyName (r : Rules) : Parser Unit := quietly (objectName r false)

def anyNames (r : Rules) : Parser Unit := quietly (separated (objectName r false))

/-- A name that may break off, and whether it did not: then what was read of it, and the lexeme
that is no part of a name, stay read. -/
def looseName (r : Rules) (inTable : Bool) : Parser Bool := do
  match ← attempt (objectName r inTable) with
  | some _ => pure true
  | none =>
      repeatedly do
        match ← next with
        | some token => if token.ident?.isSome then symbol? "." else pure false
        | none => pure false
      pure false

/-! ## Aliases -/

def columnAliasReserved : List String :=
  ["WITH", "EXPLAIN", "ANALYZE", "SELECT", "WHERE", "GROUP", "SORT", "HAVING", "ORDER", "TOP",
    "LATERAL", "VIEW", "LIMIT", "OFFSET", "FETCH", "UNION", "EXCEPT", "EXCLUDE", "INTERSECT",
    "MINUS", "CLUSTER", "DISTRIBUTE", "RETURNING", "FROM", "INTO", "END"]

def tableAliasReserved : List String :=
  ["WITH", "EXPLAIN", "ANALYZE", "SELECT", "WHERE", "GROUP", "SORT", "HAVING", "ORDER", "PIVOT",
    "UNPIVOT", "TOP", "LATERAL", "VIEW", "LIMIT", "OFFSET", "FETCH", "UNION", "EXCEPT",
    "INTERSECT", "MINUS", "ON", "JOIN", "INNER", "CROSS", "FULL", "LEFT", "RIGHT", "NATURAL",
    "USING", "CLUSTER", "DISTRIBUTE", "GLOBAL", "ANTI", "SEMI", "RETURNING", "ASOF",
    "MATCH_CONDITION", "OUTER", "SET", "QUALIFY", "WINDOW", "END", "FOR", "PARTITION", "PREWHERE",
    "SETTINGS", "FORMAT", "START", "CONNECT", "MATCH_RECOGNIZE", "SAMPLE", "TABLESAMPLE", "FROM",
    "OPEN"]

def nextKeyword (after : List Lexeme) (keywords : List String) : Bool :=
  keywords.any fun keyword => isKeyword keyword (headToken after)

def startsLimit (after : List Lexeme) : Bool :=
  match headToken after with
  | some (.number _ _) | some (.placeholder _) => true
  | some (.string .single text) | some (.string (.dollar _) text) => text.isEmpty
  | some (.word word) => word.keyword == "NULL"
  | _ => false

def columnAliasAllowed (d : Dialect) (keyword : String) (after : List Lexeme) : Bool :=
  match d with
  | .tsql => !columnAliasReserved.contains keyword && keyword != "IF" && keyword != "ELSE"
  | .bigquery =>
      !(["WITH", "SELECT", "WHERE", "GROUP", "HAVING", "ORDER", "LATERAL", "LIMIT", "FETCH",
        "UNION", "EXCEPT", "INTERSECT", "FROM", "INTO", "END"].contains keyword)
  | .snowflake =>
      match keyword with
      | "EXCEPT" | "RETURNING" =>
          after.isEmpty || isSymbol "," (headToken after)
      | "LIMIT" | "OFFSET" => !startsLimit after
      | "FETCH" => !(nextKeyword after ["FIRST", "NEXT"] || startsLimit after)
      | _ =>
          !(["FROM", "GROUP", "HAVING", "INTERSECT", "INTO", "MINUS", "ORDER", "SELECT", "UNION",
            "WHERE", "WITH"].contains keyword)
  | _ => !columnAliasReserved.contains keyword

def tableAliasAllowed (d : Dialect) (keyword : String) (after : List Lexeme) : Bool :=
  match d with
  | .mysql =>
      !tableAliasReserved.contains keyword &&
        !(["USE", "IGNORE", "FORCE", "STRAIGHT_JOIN"].contains keyword)
  | .snowflake =>
      match keyword with
      | "RETURNING" | "PIVOT" | "UNPIVOT" | "EXCEPT" | "MATCH_RECOGNIZE" =>
          after.isEmpty || isSymbol ";" (headToken after)
      | "LIMIT" | "OFFSET" => !startsLimit after
      | "FETCH" => !(nextKeyword after ["FIRST", "NEXT"] || startsLimit after)
      | "SEMI" | "ANTI" => !nextKeyword after ["JOIN", "OUTER"]
      | "GLOBAL" => !nextKeyword after ["FULL"]
      | _ =>
          !(["WITH", "ORDER", "SELECT", "WHERE", "GROUP", "HAVING", "LATERAL", "UNION",
            "INTERSECT", "MINUS", "ON", "JOIN", "INNER", "CROSS", "FULL", "LEFT", "RIGHT",
            "NATURAL", "USING", "ASOF", "MATCH_CONDITION", "SET", "QUALIFY", "FOR", "START",
            "CONNECT", "SAMPLE", "TABLESAMPLE", "FROM"].contains keyword)
  | _ => !tableAliasReserved.contains keyword

def aliasIdent? (allowed : Dialect → String → List Lexeme → Bool) : Parser (Option Ident) := do
  let d ← dialect
  let explicit ← unwritten (keyword? "AS")
  match ← ahead with
  | ⟨.word word, _⟩ :: left =>
      if explicit || allowed d word.keyword left then
        resume left
        pure (some word.ident)
      else pure none
  | ⟨.string .single text, _⟩ :: left =>
      resume left
      pure (some ⟨text, some '\''⟩)
  | ⟨.string .double text, _⟩ :: left =>
      resume left
      pure (some ⟨text, some '"'⟩)
  | _ => if explicit then fail else pure none

def alias? (allowed : Dialect → String → List Lexeme → Bool) : Parser Bool := do
  match ← aliasIdent? allowed with
  | some ident =>
      writeText "AS"
      writeIdent ident
      pure true
  | none => pure false

def columnAlias? : Parser Bool := alias? columnAliasAllowed

def notReserved (reserved : List String) (_ : Dialect) (keyword : String)
    (_ : List Lexeme) : Bool :=
  !reserved.contains keyword

def aliasBut? (reserved : List String) : Parser Bool := alias? (notReserved reserved)

end TableLineage.Sql
