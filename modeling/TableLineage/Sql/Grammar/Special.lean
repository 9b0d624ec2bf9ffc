import TableLineage.Sql.Grammar.Binding
import TableLineage.Sql.Grammar.Call

/-!
# Expressions that a word opens

Some words start an expression of their own form.  `Expr.special?` tells which,
and how the rest of it is read.
-/

namespace TableLineage.Sql

open Sql.Parser

namespace Expr

def caseBranches (r : Rules) : Parser Mentions :=
  loop (fun read => do
    let condition ← r.exprMentions
    expectKeyword "THEN"
    let result ← r.exprMentions
    pure (read ++ condition ++ result, ← keyword? "WHEN")) []

def caseExpr (r : Rules) : Parser Mentions := do
  let operand ←
    if ← keyword? "WHEN" then pure []
    else
      let operand ← r.exprMentions
      expectKeyword "WHEN"
      pure operand
  let branches ← caseBranches r
  let otherwise ← afterKeyword "ELSE" r.exprMentions
  expectKeyword "END"
  pure (operand ++ branches ++ otherwise)

def convertTypeFirst (r : Rules) : Parser Mentions :=
  tightParens do
    let type ← r.wholeType
    expectSymbol ","
    let operand ← r.exprMentions
    pure (operand ++ type ++ (← given (symbol? ",") r.exprs))

def convertValueFirst (r : Rules) : Parser Mentions :=
  tightParens do
    let operand ← r.exprMentions
    if ← keyword? "USING" then
      anyName r
      pure operand
    else
      expectSymbol ","
      let type ← r.wholeType
      ifNext (keywords? ["CHARACTER", "SET"]) (anyName r)
      pure (operand ++ type)

def convertExpr (r : Rules) : Parser Mentions := do
  if ← has Dialect.convertTypeFirst then convertTypeFirst r else convertValueFirst r

def castFormat? : Parser Unit :=
  ifNext (keyword? "FORMAT") do
    value
    ifNext (keywords? ["AT", "TIME", "ZONE"]) value

def castExpr (r : Rules) : Parser Mentions :=
  tightParens do
    let operand ← r.exprMentions
    expectKeyword "AS"
    let type ← r.wholeType
    castFormat?
    pure (operand ++ type)

def existsExpr (r : Rules) : Parser Mentions := parenthesized r.query

def extractExpr (r : Rules) : Parser Mentions :=
  tightParens do
    let _ ← dateField
    if ← keyword? "FROM" then pure ()
    else
      require (← has Dialect.extractByComma)
      expectSymbol ","
    r.exprMentions

def roundingExpr (r : Rules) : Parser Mentions :=
  tightParens do
    let operand ← r.exprMentions
    if ← keyword? "TO" then quietly dateField
    else ifNext (symbol? ",") do
      require ((← literal) == .number)
    pure operand

def positionExpr (r : Rules) (word : Word) : Parser Expr := do
  let d ← dialect
  let located ← attempt do
    writeText word.keyword
    tightParens do
      let sought ← r.expr (d.strength .between)
      expectKeyword "IN"
      let place ← r.exprMentions
      pure (sought.mentions ++ place)
  match located with
  | some mentions => pure (.of mentions)
  | none =>
      writeIdent word.ident
      call r

/-- A part of a text.  A comma at first makes commas of the words that may stand between its
arguments. -/
def substringExpr (r : Rules) : Parser Mentions :=
  tightParens do
    let text ← r.exprMentions
    let commas ← unwritten (symbol? ",")
    let separate := fun word => if commas then writeSymbol "," else writeText word
    let start ← given (if commas then pure true else unwritten (keyword? "FROM")) do
      separate "FROM"
      r.exprMentions
    let length ← given (unwritten (anyOf [keyword? "FOR", symbol? ","])) do
      separate "FOR"
      r.exprMentions
    pure (text ++ start ++ length)

def overlayExpr (r : Rules) : Parser Mentions :=
  tightParens do
    let text ← r.exprMentions
    expectKeyword "PLACING"
    let what ← r.exprMentions
    expectKeyword "FROM"
    let start ← r.exprMentions
    let length ← afterKeyword "FOR" r.exprMentions
    pure (text ++ what ++ start ++ length)

/-- The text that is trimmed is mentioned before the characters that are cut off it. -/
def trimExpr (r : Rules) : Parser Mentions :=
  tightParens do
    let _ ← anyKeyword? ["BOTH", "LEADING", "TRAILING"]
    let first ← r.exprMentions
    if ← keyword? "FROM" then
      let text ← r.exprMentions
      pure (text ++ first)
    else
      let more ← given (onlyIf (← has Dialect.trimByComma) (symbol? ",")) r.exprs
      pure (first ++ more)

def timeFunction (r : Rules) : Parser Expr := do
  if ← symbolAs? .tight "(" then
    let (arguments, _) ← argumentList r
    pure ⟨.call, arguments⟩
  else pure ⟨.call, []⟩

def matchAgainst (r : Rules) : Parser Mentions := do
  parenthesized (anyNames r)
  expectKeyword "AGAINST"
  parenthesized do
    value
    quietly (anyPhrase? [["IN", "NATURAL", "LANGUAGE", "MODE", "WITH", "QUERY", "EXPANSION"],
      ["IN", "NATURAL", "LANGUAGE", "MODE"], ["IN", "BOOLEAN", "MODE"],
      ["WITH", "QUERY", "EXPANSION"]])
  pure []

def arrayItems (r : Rules) : Parser Mentions := do
  let items ← mentionsOf (separatedOrNone (atSymbol "]") r.exprMentions)
  expectSymbol "]"
  pure items

def structValue (r : Rules) (typed : Bool) : Parser Mentions := do
  let member ← r.exprMentions
  ifNext (keyword? "AS") do
    require !typed
    skipIdentifier
  pure member

def structLiteral (r : Rules) : Parser Mentions := do
  let typed ← atSymbol "<"
  let fields ← TypeName.structFields? r
  require !fields.closes
  let values ← parenthesized (mentionsOf (separated (structValue r typed)))
  pure (values ++ fields.mentions)

def mapEntry (r : Rules) : Parser Mentions := do
  let key ← r.exprMentions
  require (← symbolAs? .closing ":")
  pure (key ++ (← r.exprMentions))

def braced (entry : Parser Mentions) : Parser Mentions := do
  let entries ← mentionsOf (separatedOrNone (atSymbol "\x7d") entry)
  expectSymbol "\x7d"
  pure entries

/-! ## Which words -/

def notExpr (r : Rules) : Parser Mentions := do
  if ← keyword? "EXISTS" then existsExpr r
  else pure (← r.expr ((← dialect).strength .not)).mentions

/-- The special reading of a word that has been read and is not written yet, if it has one. -/
def special? (r : Rules) (env : Env) (word : Word) (after : List Lexeme) : Option (Parser Expr) :=
  let d := env.dialect
  let plain := fun (p : Parser Mentions) => some do
    writeText word.keyword
    pure (Expr.of (← p))
  let named := fun (p : Parser Expr) => some do
    writeIdent word.ident
    p
  let constant := fun text => some do
    writeText text
    pure Expr.constant
  let before := fun text => isSymbol text (headToken after)
  match word.keyword with
  | "TRUE" | "FALSE" =>
      if d.booleanLiterals then constant (booleanWording word.keyword) else none
  | "NULL" => constant word.keyword
  | "CURRENT_CATALOG" | "CURRENT_USER" | "SESSION_USER" | "USER" =>
      if d.sessionFunctions then named (pure ⟨.call, []⟩) else none
  | "CURRENT_TIMESTAMP" | "CURRENT_TIME" | "CURRENT_DATE" | "LOCALTIME" | "LOCALTIMESTAMP" =>
      named (timeFunction r)
  | "CASE" => plain (caseExpr r)
  | "CONVERT" => plain (convertExpr r)
  | "TRY_CONVERT" => if d.tryConvert then plain (convertExpr r) else none
  | "CAST" | "TRY_CAST" | "SAFE_CAST" => plain (castExpr r)
  | "EXISTS" => plain (existsExpr r)
  | "EXTRACT" => plain (extractExpr r)
  | "CEIL" | "FLOOR" => plain (roundingExpr r)
  | "POSITION" => if before "(" then some (positionExpr r word) else none
  | "SUBSTR" | "SUBSTRING" => plain (substringExpr r)
  | "OVERLAY" => plain (overlayExpr r)
  | "TRIM" => plain (trimExpr r)
  | "INTERVAL" => some do
      writeText word.keyword
      interval r
  | "ARRAY" =>
      if before "[" then plain (symbol? "[" *> arrayItems r)
      else if before "(" then named do
        pure ⟨.call, ← tightParens r.query⟩
      else none
  | "NOT" => plain (notExpr r)
  | "MATCH" => if d.matchAgainst then plain (matchAgainst r) else none
  | "STRUCT" => if d.structLiterals then plain (structLiteral r) else none
  | "MAP" =>
      if d.mapLiterals && before "\x7b" then plain (symbol? "\x7b" *> braced (mapEntry r))
      else none
  | "PRIOR" =>
      if env.surroundings = .connectBy then plain do
        pure (← r.expr (d.strength .sum)).mentions
      else none
  | keyword =>
      if d.geometricTypes && TypeName.geometricTypes.contains keyword then plain do
        value
        pure []
      else none

def neverName (d : Dialect) (keyword : String) : Bool :=
  ["EXISTS", "STRUCT", "TRIM"].contains keyword || (keyword == "INTERVAL" && d != .snowflake)

end Expr

end TableLineage.Sql
