/-!
# Lineage records

A record tells where the data of one imported partition comes from.
-/

namespace TableLineage.Lineage

structure Record where
  /-- The name of the partition. -/
  name : String
  host : String
  database : String
  /-- The formula text the query was taken from. -/
  expression : String
  /-- The SQL sent to the source, which may be empty or no SQL at all. -/
  query : String
  isTableDirectImport : Bool
deriving DecidableEq, Repr, Inhabited

/-- A record with the tables its query reads from, where these are known. -/
structure ResolvedRecord where
  record : Record
  tables : Option (List String)
deriving DecidableEq, Repr, Inhabited

end TableLineage.Lineage
