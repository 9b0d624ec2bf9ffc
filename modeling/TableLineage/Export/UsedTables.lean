import TableLineage.Lineage.Record
import TableLineage.Ordered

/-!
# Tables used per source database

Tables are grouped by the database they are read from, both in the order of
their first mention.  A record that could not be resolved has no part in this;
one that reads no table still shows its database.
-/

namespace TableLineage.Export

open Lineage

abbrev UsedTables := List (String × List String)

def objectName (record : Record) : String := record.host ++ "." ++ record.database

def addRecord (used : UsedTables) (resolved : ResolvedRecord) : UsedTables :=
  match resolved.tables with
  | none => used
  | some tables =>
      Ordered.update (objectName resolved.record) [] (Ordered.addAll · tables) used

def usedTables (records : List ResolvedRecord) : UsedTables := records.foldl addRecord []

def UsedTables.pairs (used : UsedTables) : List (String × String) :=
  used.flatMap fun (object, tables) => tables.map (object, ·)

end TableLineage.Export
