import TableLineage.Sql.Grammar.Phrase
import TableLineage.Sql.Grammar.Property

/-!
# Roles and users

What defines a role differs by dialect; a role or user mentions nothing.
-/

namespace TableLineage.Sql

open Sql.Parser

namespace Role

def switches : List String :=
  ["LOGIN", "INHERIT", "BYPASSRLS", "CREATEDB", "CREATEROLE", "SUPERUSER", "REPLICATION"]

def switch? : Parser (Option String) := do
  match ← anyKeyword? (switches ++ switches.map ("NO" ++ ·)) with
  | some keyword =>
      pure (some (if switches.contains keyword then keyword else (keyword.drop 2).toString))
  | none => pure none

def valued? : Parser (Option String) := do
  match ← anyKeyword? ["PASSWORD", "CONNECTION", "VALID"] with
  | some "PASSWORD" =>
      if ← keyword? "NULL" then pure () else value
      pure (some "PASSWORD")
  | some "CONNECTION" =>
      expectKeyword "LIMIT"
      numberValue
      pure (some "CONNECTION")
  | some keyword =>
      expectKeyword "UNTIL"
      value
      pure (some keyword)
  | none => pure none

def members? : Parser (Option String) := do
  match ← anyKeyword? ["IN", "ROLE", "ADMIN", "USER"] with
  | some "IN" =>
      let kind ← expectAnyKeyword ["ROLE", "GROUP"]
      identifiers
      pure (some ("IN " ++ kind))
  | some keyword =>
      identifiers
      pure (some keyword)
  | none => pure none

def attribute? : Parser (Option String) := do
  match ← switch? with
  | some name => pure (some name)
  | none => valued?

def attributes : Parser Unit := do
  let _ ← loop (fun told => do
    let given ←
      match ← attribute? with
      | some name => pure (some name)
      | none => members?
    match given with
    | some name =>
        require !(told.contains name)
        pure (name :: told, true)
    | none => pure (told, false)) ([] : List String)

def owner? (r : Rules) : Parser Unit :=
  ifNext (keyword? "AUTHORIZATION") do
    anyName r
    require !(← atKeyword "AUTHORIZATION")

def create (r : Rules) : Parser Unit := do
  let _ ← ifNotExists?
  anyNames r
  let _ ← keyword? "WITH"
  match (← dialect).roleStyle? with
  | some .attributes => attributes
  | some .membership => owner? r
  | none => pure ()

def createUser : Parser Unit := do
  let _ ← ifNotExists?
  skipIdentifier
  Property.upTo ["WITH", "TAG"]
  let _ ← keyword? "WITH"
  ifNext (keyword? "TAG") Property.group

def sessionSetting (r : Rules) : Parser Mentions := do
  anyName r
  if ← keywords? ["FROM", "CURRENT"] then pure []
  else
    require (← anyOf [symbol? "=", keyword? "TO"])
    if ← keyword? "DEFAULT" then pure [] else r.exprMentions

def changedAttributes : Parser Unit := do
  let _ ← keyword? "WITH"
  let another : Parser Bool := do
    pure ((← attempt attribute?).join).isSome
  require (← another)
  repeatedly another

def alterAttributes (r : Rules) : Parser Mentions := do
  skipIdentifier
  ifNext (keywords? ["IN", "DATABASE"]) (quietly (looseName r false))
  if ← keyword? "RENAME" then
    expectKeyword "TO"
    silently skipIdentifier
  else if ← keyword? "SET" then sessionSetting r
  else if ← keyword? "RESET" then
    if ← keyword? "ALL" then pure [] else silently (anyName r)
  else silently changedAttributes

def alterMembership : Parser Unit := do
  skipIdentifier
  if ← anyPhrase? [["ADD", "MEMBER"], ["DROP", "MEMBER"]] then pure ()
  else
    expectKeywords ["WITH", "NAME"]
    expectSymbol "="
  skipIdentifier

def alter (r : Rules) : Parser Mentions := do
  match (← dialect).roleStyle? with
  | some .attributes => alterAttributes r
  | some .membership => silently alterMembership
  | none => fail

end Role

end TableLineage.Sql
