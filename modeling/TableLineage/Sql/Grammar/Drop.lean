import TableLineage.Sql.Grammar.Policy
import TableLineage.Sql.Grammar.Routine

/-!
# Removal of objects

A dropped object is not mentioned, except for the table that a policy was for.
-/

namespace TableLineage.Sql

open Sql.Parser

namespace Drop

def kinds : List (List String) :=
  [["TABLE"], ["VIEW"], ["MATERIALIZED", "VIEW"], ["INDEX"], ["SCHEMA"], ["DATABASE"],
    ["SEQUENCE"], ["STAGE"], ["TYPE"], ["USER"], ["STREAM"]]

def guardedNames (r : Rules) : Parser Unit := do
  let _ ← ifExists?
  anyNames r

def onTable? (r : Rules) : Parser Unit := ifNext (keyword? "ON") (anyName r)

def objects (r : Rules) : Parser Unit := do
  guardedNames r
  dropBehavior?
  require !(← atAnyKeyword ["CASCADE", "RESTRICT"])
  let _ ← keyword? "PURGE"
  onTable? r

def roles (r : Rules) : Parser Unit := do
  guardedNames r
  require !(← atAnyKeyword ["CASCADE", "RESTRICT", "PURGE"])
  onTable? r

def routines (r : Rules) : Parser Mentions := do
  let _ ← ifExists?
  let mentions ← listed (Routine.signature r)
  dropBehavior?
  pure mentions

def trigger (r : Rules) : Parser Unit := do
  require (← has Dialect.triggers)
  let _ ← ifExists?
  anyName r
  onTable? r
  dropBehavior?

def secret : Parser Unit := do
  let _ ← ifExists?
  skipIdentifier
  ifNext (keyword? "FROM") skipIdentifier

def parse (r : Rules) : Parser Mentions := do
  let _ ← onlyIf (← has Dialect.dropTemporary) (keyword? "TEMPORARY")
  if ← anyPhrase? kinds then silently (objects r)
  else
    match ← expectAnyKeyword ["ROLE", "FUNCTION", "PROCEDURE", "POLICY", "CONNECTOR", "DOMAIN",
        "SECRET", "TRIGGER", "EXTENSION"] with
    | "ROLE" => silently (roles r)
    | "FUNCTION" | "PROCEDURE" => routines r
    | "POLICY" => Policy.drop r
    | "SECRET" => silently secret
    | "TRIGGER" => silently (trigger r)
    | "CONNECTOR" => silently (ifExists? *> identifier)
    | "DOMAIN" => silently do
        let _ ← ifExists?
        anyName r
        dropBehavior?
    | _ => silently do
        let _ ← ifExists?
        identifiers
        dropBehavior?

end Drop

end TableLineage.Sql
