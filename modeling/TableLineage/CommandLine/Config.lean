import TableLineage.Sql.Dialect
import TableLineage.Text.Quoted
import TableLineage.Toml.Document

/-!
# Defaults from a file

A configuration file sets defaults for options of the command line.  It is a
TOML document with four optional fields and no others.
-/

namespace TableLineage.CommandLine

open Toml

structure Config where
  dialect : Option Sql.Dialect := none
  resolve : Option Bool := none
  parallel : Option Bool := none
  pretty : Option Bool := none
deriving DecidableEq, Repr

namespace Config

def fieldNames : List String := ["dialect", "resolve", "parallel", "pretty"]

def oneOf (names : List String) : String :=
  "expected one of " ++ ", ".intercalate (names.map fun name => s!"`{name}`")

def foundText : Item → String
  | .scalar _ (.string value) => "string " ++ Text.quoted value
  | .scalar _ (.integer value) => s!"integer `{value}`"
  | .scalar _ (.float value) => s!"floating point `{value.text}`"
  | .scalar _ (.boolean value) => if value then "boolean `true`" else "boolean `false`"
  | .scalar _ .datetime | .table .. => "map"
  | .array .. | .tables _ => "sequence"

/-- An error about an item, which counts as standing where its key does if it stands nowhere
itself. -/
def errorAt (key : Key) (item : Item) (message : String) : Error :=
  ⟨message, some (item.left?.getD key.left)⟩

def readFlag (key : Key) (item : Item) : Except Error Bool :=
  match item with
  | .scalar _ (.boolean value) => .ok value
  | _ => .error (errorAt key item s!"invalid type: {foundText item}, expected a boolean")

def dialectOfTag (tag : String) (left : Nat) : Except Error Sql.Dialect :=
  match Sql.Dialect.ofTag? tag with
  | some dialect => .ok dialect
  | none => .error ⟨s!"unknown variant `{tag}`, {oneOf Sql.Dialect.acceptedTags}", some left⟩

/-- A tag may also be the one key of a table, over an empty value. -/
def emptyVariant (item : Item) : Except Error Unit :=
  let isEmpty := match item with
    | .array _ items => some items.isEmpty
    | .table _ entries => some entries.isEmpty
    | .tables all => some all.isEmpty
    | .scalar .. => none
  match isEmpty with
  | some true => .ok ()
  | some false =>
      let wanted := match item with
        | .tables _ => "expected empty array"
        | _ => "expected empty table"
      .error ⟨wanted, item.left?⟩
  | none => .error ⟨s!"expected table, found {item.kind}", item.left?⟩

def placedIn (key : Key) (item : Item) (error : Error) : Error :=
  if error.left.isSome then error else errorAt key item error.message

def readDialect (key : Key) (item : Item) : Except Error Sql.Dialect :=
  match item with
  | .scalar left (.string tag) => dialectOfTag tag left
  | .table _ [] => .error (errorAt key item "wanted exactly 1 element, found 0 elements")
  | .table _ [(tag, inner)] => do
      let found ← dialectOfTag tag.name tag.left
      (emptyVariant inner).mapError (placedIn key item)
      .ok found
  | .table .. => .error (errorAt key item "wanted exactly 1 element, more than 1 element")
  | _ => .error (errorAt key item "wanted string or table")

def setField (config : Config) (entry : Key × Item) : Except Error Config := do
  let (key, item) := entry
  match key.name with
  | "dialect" => .ok { config with dialect := some (← readDialect key item) }
  | "resolve" => .ok { config with resolve := some (← readFlag key item) }
  | "parallel" => .ok { config with parallel := some (← readFlag key item) }
  | "pretty" => .ok { config with pretty := some (← readFlag key item) }
  | name => .error ⟨s!"unknown field `{name}`, {oneOf fieldNames}", some key.left⟩

def ofEntries (entries : Entries) : Except Error Config := entries.foldlM setField {}

/-- Reads a configuration; the error is a text that shows the place. -/
def ofText (text : List Char) : Except String Config :=
  match entriesOfText text >>= ofEntries with
  | .ok config => .ok config
  | .error error => .error (error.render text)

def unreadableMessage (path : String) : String := s!"Failed to read config file: {path}"

def malformedMessage (path reason : String) : String :=
  s!"Failed to parse TOML config in file {path} due to error: {reason}"

end Config

end TableLineage.CommandLine
