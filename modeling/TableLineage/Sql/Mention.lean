import TableLineage.Ordered
import TableLineage.Text.LetterCase

/-!
# What a query mentions

Of a parsed statement, lineage needs the names it binds by `WITH` and the
relations it names, in the order in which a walk over the syntax tree meets
them.  A statement is kept as that sequence.
-/

namespace TableLineage.Sql

open TableLineage.Text

structure Ident where
  value : String
  quote : Option Char
deriving DecidableEq, Repr

/-- A part of a dotted name: an identifier, or a call that computes one, kept as its text. -/
inductive NamePart
  | ident (ident : Ident)
  | call (text : String)
deriving DecidableEq, Repr

def NamePart.text : NamePart → String
  | .ident name => name.value
  | .call written => written

abbrev ObjectName := List NamePart

inductive Mention
  | commonTables (aliases : List String)
  | relation (name : ObjectName)
deriving DecidableEq, Repr

abbrev Mentions := List Mention

structure Statement where
  mentions : Mentions
deriving DecidableEq, Repr

def isQuoteMark (c : Char) : Bool := c == '"' || c == '[' || c == ']'

def NamePart.plain (part : NamePart) : String :=
  String.ofList (part.text.toList.filter fun c => !isQuoteMark c)

def tableName (name : ObjectName) : String :=
  ".".intercalate ((name.drop (name.length - 2)).map NamePart.plain)

def equalIgnoringAsciiCase (a b : String) : Bool :=
  a.toList.map lowerAsciiChar == b.toList.map lowerAsciiChar

def Mention.aliases : Mention → List String
  | .commonTables aliases => aliases
  | .relation _ => []

def Mention.relation? : Mention → Option String
  | .commonTables _ => none
  | .relation name => some (tableName name)

def commonTableNames (mentions : Mentions) : List String := mentions.flatMap Mention.aliases

def relationNames (mentions : Mentions) : List String := mentions.filterMap Mention.relation?

/-- The relations met on the walk that no `WITH` of the same walk binds. -/
def tablesOf (mentions : Mentions) : List String :=
  let bound := commonTableNames mentions
  (Ordered.firstSeen (relationNames mentions)).filter fun name =>
    !bound.any fun other => equalIgnoringAsciiCase other name

/-- The tables of a list of statements, walked one after the other. -/
def statementTables (statements : List Statement) : List String :=
  tablesOf (statements.flatMap Statement.mentions)

end TableLineage.Sql
