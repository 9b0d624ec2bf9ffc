import TableLineage.Sql.Grammar.Phrase

/-!
# Privileges

Statements that grant or take privileges mention no table, even though they
name the objects that the privileges are for.
-/

namespace TableLineage.Sql

open Sql.Parser

namespace Privilege

def phrases : List (List String) :=
  [["IMPORTED", "PRIVILEGES"], ["ADD", "SEARCH", "OPTIMIZATION"], ["ATTACH", "LISTING"],
    ["ATTACH", "POLICY"], ["BIND", "SERVICE", "ENDPOINT"], ["EVOLVE", "SCHEMA"],
    ["IMPORT", "SHARE"], ["MANAGE", "VERSIONS"], ["MANAGE", "RELEASES"],
    ["OVERRIDE", "SHARE", "RESTRICTIONS"], ["PURCHASE", "DATA", "EXCHANGE", "LISTING"],
    ["RESOLVE", "ALL"], ["READ", "SESSION"]]

def onColumns : List String := ["SELECT", "INSERT", "UPDATE", "REFERENCES"]

def onObjects : List String :=
  ["APPLYBUDGET", "AUDIT", "CONNECT", "DELETE", "FAILOVER", "OPERATE", "READ", "REPLICATE",
    "TEMPORARY", "TRIGGER", "TRUNCATE", "USAGE", "OWNERSHIP", "DROP"]

def creatable : List (List String) :=
  [["APPLICATION", "PACKAGE"], ["COMPUTE", "POOL"], ["DATA", "EXCHANGE", "LISTING"],
    ["EXTERNAL", "VOLUME"], ["FAILOVER", "GROUP"], ["NETWORK", "POLICY"],
    ["ORGANIZATION", "LISTING"], ["REPLICATION", "GROUP"], ["ACCOUNT"], ["APPLICATION"],
    ["DATABASE"], ["INTEGRATION"], ["ROLE"], ["SCHEMA"], ["SHARE"], ["USER"], ["WAREHOUSE"]]

def applicable : List (List String) :=
  [["AGGREGATION", "POLICY"], ["AUTHENTICATION", "POLICY"], ["JOIN", "POLICY"],
    ["MASKING", "POLICY"], ["PACKAGES", "POLICY"], ["PASSWORD", "POLICY"],
    ["PROJECTION", "POLICY"], ["ROW", "ACCESS", "POLICY"], ["SESSION", "POLICY"], ["TAG"]]

def executable : List (List String) :=
  [["DATA", "METRIC", "FUNCTION"], ["MANAGED", "ALERT"], ["MANAGED", "TASK"], ["ALERT"], ["TASK"]]

def manageable : List (List String) :=
  [["ACCOUNT", "SUPPORT", "CASES"], ["EVENT", "SHARING"], ["GRANTS"],
    ["LISTING", "AUTO", "FULFILLMENT"], ["ORGANIZATION", "SUPPORT", "CASES"],
    ["USER", "SUPPORT", "CASES"], ["WAREHOUSES"]]

def modifiable : List (List String) :=
  [["LOG", "LEVEL"], ["TRACE", "LEVEL"], ["SESSION", "LOG", "LEVEL"],
    ["SESSION", "TRACE", "LEVEL"]]

def privilege (r : Rules) : Parser Unit := do
  if ← anyPhrase? phrases then pure ()
  else if ← anyPhrase? [["DATABASE", "ROLE"], ["ROLE"]] then anyName r
  else if ← oneKeyword? onColumns then columnList? false
  else if ← keyword? "APPLY" then expectPhrase applicable
  else if ← keyword? "MANAGE" then expectPhrase manageable
  else if ← keyword? "CREATE" then quietly (anyPhrase? creatable)
  else if ← oneKeyword? ["EXEC", "EXECUTE"] then quietly (anyPhrase? executable)
  else if ← keyword? "MODIFY" then quietly (anyPhrase? modifiable)
  else if ← keyword? "MONITOR" then quietly (anyKeyword? ["EXECUTION", "SECURITY", "USAGE"])
  else quietly (expectAnyKeyword onObjects)

def privileges (r : Rules) : Parser Unit := do
  if ← keyword? "ALL" then quietly (keyword? "PRIVILEGES")
  else quietly (separated (privilege r))

def allObjects : List (List String) :=
  let inSchema := fun group => group ++ ["IN", "SCHEMA"]
  let groups := [["TABLES"], ["EXTERNAL", "TABLES"], ["VIEWS"], ["MATERIALIZED", "VIEWS"],
    ["SEQUENCES"]]
  (["FUNCTIONS"] :: groups).map (fun group => inSchema ("ALL" :: group)) ++
    groups.map (fun group => inSchema ("FUTURE" :: group)) ++
    [["FUTURE", "SCHEMAS", "IN", "DATABASE"]]

def systemObjects : List (List String) :=
  [["RESOURCE", "MONITOR"], ["COMPUTE", "POOL"], ["FAILOVER", "GROUP"], ["REPLICATION", "GROUP"],
    ["EXTERNAL", "VOLUME"]]

def objectKinds : List String :=
  ["SEQUENCE", "DATABASE", "SCHEMA", "TABLE", "VIEW", "WAREHOUSE", "INTEGRATION", "USER",
    "CONNECTION"]

def starredNames (r : Rules) : Parser Unit := quietly (separated (styledName r ⟨false, true⟩))

def parameterTypes? (r : Rules) : Parser Mentions :=
  given (atSymbol "(")
    (parenthesized (mentionsOf (separatedOrNone (atSymbol ")") r.wholeType)))

def objects (r : Rules) : Parser Mentions := do
  if ← anyPhrase? (allObjects ++ systemObjects) then silently (anyNames r)
  else if ← oneKeyword? ["PROCEDURE", "FUNCTION"] then
    starredNames r
    parameterTypes? r
  else
    let _ ← anyKeyword? objectKinds
    silently (starredNames r)

def granteeKinds : List (List String) :=
  [["ROLE"], ["USER"], ["SHARE"], ["GROUP"], ["DATABASE", "ROLE"], ["APPLICATION", "ROLE"],
    ["APPLICATION"]]

def granteeName (r : Rules) : Parser Unit := do
  userName r
  ifNext (symbol? ":") skipIdentifier

/-- One who is granted to; the public has no name, and neither has anyone after it who is not
told to be of another kind. -/
def granteeStep (r : Rules) (isPublic : Bool) : Parser (Bool × Bool) := do
  let isPublic ←
    if ← onlyIf (!(← dialect).publicIsUser) (keyword? "PUBLIC") then pure true
    else if ← anyPhrase? granteeKinds then pure false
    else pure isPublic
  if isPublic then pure () else granteeName r
  pure (isPublic, ← symbol? ",")

def grantees (r : Rules) : Parser Unit := quietly (loop (granteeStep r) false)

def grantor? (keywords : List String) : Parser Unit := ifNext (keywords? keywords) skipIdentifier

def grant (r : Rules) : Parser Mentions := do
  privileges r
  let mentions ← afterKeyword "ON" (objects r)
  expectKeyword "TO"
  grantees r
  let _ ← keywords? ["WITH", "GRANT", "OPTION"]
  let _ ← anyPhrase? [["COPY", "CURRENT", "GRANTS"], ["REVOKE", "CURRENT", "GRANTS"]]
  grantor? ["AS"]
  grantor? ["GRANTED", "BY"]
  pure mentions

def revoke (r : Rules) : Parser Mentions := do
  privileges r
  let mentions ← afterKeyword "ON" (objects r)
  expectKeyword "FROM"
  grantees r
  grantor? ["GRANTED", "BY"]
  dropBehavior?
  pure mentions

def deny (r : Rules) : Parser Mentions := do
  privileges r
  expectKeyword "ON"
  let mentions ← objects r
  expectKeyword "TO"
  grantees r
  dropBehavior?
  grantor? ["AS"]
  pure mentions

end Privilege

end TableLineage.Sql
