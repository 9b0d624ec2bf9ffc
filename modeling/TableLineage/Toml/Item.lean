import TableLineage.Number.Binary64
import TableLineage.Toml.Complaint

/-!
# Items of a TOML document

Tables keep their keys in order.  A table is implicit while only others inside
of it are known, and dotted if it was made by a dotted key; these decide what
may still be put into it.
-/

namespace TableLineage.Toml

open TableLineage.Number

structure Key where
  name : String
  /-- The place, as a number of characters left. -/
  left : Nat
deriving DecidableEq, Repr

inductive Float
  | finite (negative : Bool) (magnitude : Magnitude)
  | infinite (negative : Bool)
  | notNumber
deriving DecidableEq, Repr

def Float.text : Float → String
  | .finite negative magnitude =>
      String.ofList (if negative then '-' :: magnitude.plainText else magnitude.plainText)
  | .infinite negative => if negative then "-inf" else "inf"
  | .notNumber => "NaN"

inductive Scalar
  | string (value : String)
  | integer (value : Int)
  | float (value : Float)
  | boolean (value : Bool)
  | datetime
deriving DecidableEq, Repr

def Scalar.kind : Scalar → String
  | .string _ => "string"
  | .integer _ => "integer"
  | .float _ => "float"
  | .boolean _ => "boolean"
  | .datetime => "datetime"

structure TableInfo where
  inline : Bool := false
  implicit : Bool := false
  dotted : Bool := false
  /-- Where the header or the braces are, if the table has any. -/
  left : Option Nat := none
deriving DecidableEq, Repr

inductive Item
  | scalar (left : Nat) (value : Scalar)
  | array (left : Nat) (items : List Item)
  | table (info : TableInfo) (entries : List (Key × Item))
  | tables (all : List (TableInfo × List (Key × Item)))
deriving Repr

abbrev Entries := List (Key × Item)

abbrev Table := TableInfo × Entries

namespace Item

def kind : Item → String
  | scalar _ value => value.kind
  | array .. => "array"
  | table info _ => if info.inline then "inline table" else "table"
  | tables _ => "array of tables"

def left? : Item → Option Nat
  | scalar left _ => some left
  | array left _ => some left
  | table info _ => info.left
  | tables all => all.head?.bind fun table => table.1.left

end Item

namespace Entries

def find? (name : String) : Entries → Option Item
  | [] => none
  | (key, item) :: entries => if key.name = name then some item else find? name entries

def replace (name : String) (item : Item) : Entries → Entries
  | [] => []
  | (key, old) :: entries =>
      if key.name = name then (key, item) :: entries else (key, old) :: replace name item entries

def remove (name : String) (entries : Entries) : Entries :=
  entries.filter fun entry => entry.1.name != name

end Entries

/-- Changes the table at the end of a path.  Tables missing on the way are made; the last of an
array of tables stands for it. -/
def descend (inline dotted : Bool) (change : Table → Except Cause Table) (before : List String) :
    List Key → Table → Except Cause Table
  | [], table => change table
  | key :: path, (info, entries) =>
      let onward := descend inline dotted change (before ++ [key.name]) path
      match Entries.find? key.name entries with
      | none => do
          let fresh : TableInfo := { inline, implicit := dotted || !inline, dotted }
          let (child, children) ← onward (fresh, [])
          .ok (info, entries ++ [(key, .table child children)])
      | some (.table child children) =>
          if child.inline && !inline then
            .error (.extendsValue (before ++ [key.name]) (Item.table child children).kind)
          else if dotted && !child.implicit then .error (.duplicateKey key.name none)
          else do
            let (child, children) ← onward (child, children)
            .ok (info, Entries.replace key.name (.table child children) entries)
      | some (.tables all) => do
          let last ← onward (all.getLastD ({}, []))
          .ok (info, Entries.replace key.name (.tables (all.dropLast ++ [last])) entries)
      | some other => .error (.extendsValue (before ++ [key.name]) other.kind)

/-- Puts a value under a key; `owner` is the path that a repeated key is reported with. -/
def insert (owner : Option (List String)) (direct : Bool) (key : Key) (item : Item) :
    Table → Except Cause Table
  | (info, entries) =>
      if info.dotted == direct then .error (.duplicateKey key.name none)
      else if (Entries.find? key.name entries).isSome then
        .error (.duplicateKey key.name owner)
      else .ok (info, entries ++ [(key, item)])

def insertAt (inline : Bool) (owner : Option (List String)) (path : List Key) (key : Key)
    (item : Item) (table : Table) : Except Cause Table :=
  descend inline true (insert owner path.isEmpty key item) [] path table

end TableLineage.Toml
