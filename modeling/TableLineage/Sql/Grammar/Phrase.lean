import TableLineage.Sql.Grammar.Literal
import TableLineage.Sql.Grammar.Options

/-!
# Phrases that statements share

Guards, behaviours and the small clauses that definitions of several kinds
have in common.
-/

namespace TableLineage.Sql

open Sql.Parser

def ifExists? : Parser Bool := keywords? ["IF", "EXISTS"]

def ifNotExists? : Parser Bool := keywords? ["IF", "NOT", "EXISTS"]

def dropBehavior? : Parser Unit := quietly (anyKeyword? ["CASCADE", "RESTRICT"])

def onCluster? : Parser Unit := ifNext (keywords? ["ON", "CLUSTER"]) skipIdentifier

def signedNumber : Parser Unit := do
  let _ ← anyOf [symbolAs? .opening "+", symbolAs? .opening "-"]
  numberValue

def numberPair : Parser Unit := do
  signedNumber
  expectSymbol ","
  signedNumber

def anyWord : Parser Unit := do
  match ← next with
  | some (.word _) => pure ()
  | _ => fail

def keywordText? (keyword : String) : Parser Unit := ifNext (keyword? keyword) stringLiteral

def inlineComment? : Parser Bool := do
  if ← keyword? "COMMENT" then
    let _ ← symbol? "="
    commentText
    pure true
  else pure false

def condition? (r : Rules) (keywords : List String) : Parser Mentions :=
  afterKeywords keywords (parenthesized r.exprMentions)

def fileFormat : Parser Unit :=
  quietly (expectAnyKeyword
    ["AVRO", "JSONFILE", "ORC", "PARQUET", "RCFILE", "SEQUENCEFILE", "TEXTFILE"])

/-- The name of a user, with the host it comes from where the dialect has those. -/
def userName (r : Rules) : Parser Unit := do
  let named ← objectName r false
  ifNext (onlyIf ((← dialect).userHosts && named.name.length == 1) (symbol? "@")) skipIdentifier

end TableLineage.Sql
