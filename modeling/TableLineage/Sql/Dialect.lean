import TableLineage.Text.Letter

/-!
# SQL dialects

A dialect is known to users by its tag.  Everything in which two dialects
differ is one function here, named for the syntax it switches on, so that the
lexer and the grammar never ask which dialect they serve except through it.
-/

namespace TableLineage.Sql

open TableLineage.Text

inductive Dialect
  | tsql | generic | ansi | postgres | mysql | bigquery | snowflake
deriving DecidableEq, Repr, Inhabited

namespace Dialect

def all : List Dialect := [tsql, generic, ansi, postgres, mysql, bigquery, snowflake]

def tag : Dialect → String
  | tsql => "tsql"
  | generic => "generic"
  | ansi => "ansi"
  | postgres => "postgres"
  | mysql => "mysql"
  | bigquery => "bigquery"
  | snowflake => "snowflake"

def aliasTag : String := "mssql"

def ofTag? (text : String) : Option Dialect :=
  if text = aliasTag then some tsql else all.find? (·.tag = text)

def acceptedTags : List String := aliasTag :: all.map tag

theorem ofTag?_tag (d : Dialect) : ofTag? d.tag = some d := by
  cases d <;> decide

def isIdentStart (d : Dialect) (c : Char) : Bool :=
  match d with
  | tsql | generic => isLetter c || c == '_' || c == '#' || c == '@'
  | ansi => isAsciiLetter c
  | postgres => isLetter c || c == '_' || !isAscii c
  | mysql => isLetter c || c == '_' || c == '$' || c == '@' || !isAscii c
  | bigquery => isAsciiLetter c || c == '_' || c == '@'
  | snowflake => isAsciiLetter c || c == '_'

def isIdentPart (d : Dialect) (c : Char) : Bool :=
  match d with
  | tsql | generic =>
      isLetter c || isAsciiDigit c || c == '@' || c == '$' || c == '#' || c == '_'
  | ansi => isAsciiLetter c || isAsciiDigit c || c == '_'
  | postgres => isLetter c || isAsciiDigit c || c == '$' || c == '_' || !isAscii c
  | mysql => isIdentStart mysql c || isAsciiDigit c
  | bigquery => isAsciiLetter c || isAsciiDigit c || c == '_'
  | snowflake => isAsciiLetter c || isAsciiDigit c || c == '$' || c == '_'

/-- The character that closes an identifier opened by `c`, if `c` opens one. -/
def quoteEnd? (d : Dialect) (c : Char) : Option Char :=
  match d, c with
  | tsql, '"' => some '"'
  | tsql, '[' => some ']'
  | generic, '"' | ansi, '"' | snowflake, '"' | postgres, '"' => some '"'
  | generic, '`' | ansi, '`' | snowflake, '`' | mysql, '`' | bigquery, '`' => some '`'
  | _, _ => none

/-- Characters that extend an operator into one of the user's own making. -/
def isOperatorPart (d : Dialect) (c : Char) : Bool :=
  d == postgres && "+-*/<>=~!@#%^&|`?".toList.contains c

def backslashEscapes : Dialect → Bool
  | mysql | bigquery | snowflake => true
  | _ => false

def keepsWildcardEscapes (d : Dialect) : Bool := d == mysql

def adjoinedStrings (d : Dialect) : Bool := d == mysql

def nestedComments : Dialect → Bool
  | tsql | generic | postgres => true
  | _ => false

def hashComments : Dialect → Bool
  | mysql | bigquery | snowflake => true
  | _ => false

def slashComments (d : Dialect) : Bool := d == snowflake

def dashCommentNeedsSpace (d : Dialect) : Bool := d == mysql

def returnEndsComment (d : Dialect) : Bool := d == postgres

def unicodeStrings : Dialect → Bool
  | generic | postgres => true
  | _ => false

def escapeStrings : Dialect → Bool
  | generic | postgres => true
  | _ => false

def byteStrings : Dialect → Bool
  | generic | postgres | mysql | bigquery => true
  | _ => false

def rawStrings : Dialect → Bool
  | generic | bigquery => true
  | _ => false

def tripleQuotes (d : Dialect) : Bool := d == bigquery

def underscoredNumbers (d : Dialect) : Bool := d == postgres

def numericPrefix (d : Dialect) : Bool := d == mysql

def geometricTypes (d : Dialect) : Bool := d == postgres

def pipeSteps : Dialect → Bool
  | generic | bigquery => true
  | _ => false

def doubleSlashOperator (d : Dialect) : Bool := d == generic

def booleanLiterals (d : Dialect) : Bool := d != tsql

def bracketSubscripts (d : Dialect) : Bool := d != snowflake

def tightPaths (d : Dialect) : Bool := d == snowflake

def convertTypeFirst (d : Dialect) : Bool := d == tsql

def tryConvert : Dialect → Bool
  | tsql | generic => true
  | _ => false

def outerJoinMark : Dialect → Bool
  | tsql | snowflake => true
  | _ => false

def prefixSymbols (d : Dialect) : Bool := d == postgres

def shiftOperators : Dialect → Bool
  | generic | postgres => true
  | _ => false

def factorial (d : Dialect) : Bool := d == postgres

def notNullOperator (d : Dialect) : Bool := d == postgres

/-- `COLLATE` binds like an operator where it follows no operand of its own. -/
def collateBinds (d : Dialect) : Bool := d == postgres

def doubleAmpersandAnd (d : Dialect) : Bool := d == mysql

def divOperator (d : Dialect) : Bool := d == mysql

def customOperatorCall : Dialect → Bool
  | generic | postgres => true
  | _ => false

def sessionFunctions : Dialect → Bool
  | generic | postgres => true
  | _ => false

def matchAgainst : Dialect → Bool
  | generic | mysql => true
  | _ => false

def structLiterals : Dialect → Bool
  | generic | bigquery => true
  | _ => false

def dictionaries : Dialect → Bool
  | generic | snowflake => true
  | _ => false

def mapLiterals (d : Dialect) : Bool := d == generic

def intervalNeedsUnit : Dialect → Bool
  | ansi | mysql | bigquery => true
  | _ => false

def intervalOptions : Dialect → Bool
  | generic | postgres => true
  | _ => false

def extractByComma : Dialect → Bool
  | generic | snowflake => true
  | _ => false

def extractAnyField : Dialect → Bool
  | generic | postgres | snowflake => true
  | _ => false

def weekOfDay : Dialect → Bool
  | generic | bigquery => true
  | _ => false

def trimByComma : Dialect → Bool
  | generic | bigquery | snowflake => true
  | _ => false

def namedArgumentByExpression : Dialect → Bool
  | tsql | postgres => true
  | _ => false

def namedArgumentMarks : Dialect → List String
  | tsql => [":"]
  | generic => ["=>", ":="]
  | postgres => ["=>", ":=", ":"]
  | _ => ["=>"]

def subqueryArgument (d : Dialect) : Bool := d == snowflake

def parametersBeforeArguments (d : Dialect) : Bool := d == generic

def filterClause : Dialect → Bool
  | generic | postgres => true
  | _ => false

def nullTreatmentArgument : Dialect → Bool
  | generic | bigquery | snowflake => true
  | _ => false

def havingArgument : Dialect → Bool
  | generic | bigquery => true
  | _ => false

def separatorArgument : Dialect → Bool
  | generic | mysql => true
  | _ => false

def signedSuffix : Dialect → Bool
  | generic | mysql => true
  | _ => false

def bracketArrayTypes : Dialect → Bool
  | generic | postgres => true
  | _ => false

def bareArrayType (d : Dialect) : Bool := d == snowflake

def textSearchTypes : Dialect → Bool
  | generic | postgres => true
  | _ => false

def wrapperTypes (d : Dialect) : Bool := d == generic

def structTypes : Dialect → Bool
  | generic | bigquery => true
  | _ => false

def doubleDotNames : Dialect → Bool
  | tsql | snowflake => true
  | _ => false

/-- Table names may hold hyphens, and one pair of quotes may hold several name parts. -/
def hyphenatedNames (d : Dialect) : Bool := d == bigquery

def identifierFunction (d : Dialect) : Bool := d == snowflake

def fromFirst (d : Dialect) : Bool := d == generic

def emptyProjection : Dialect → Bool
  | generic | postgres => true
  | _ => false

def trailingCommaProjection : Dialect → Bool
  | generic | bigquery | snowflake => true
  | _ => false

def trailingCommaFrom (d : Dialect) : Bool := d == snowflake

def aliasByEquals (d : Dialect) : Bool := d == tsql

def wildcardAfterExpression : Dialect → Bool
  | bigquery | snowflake => true
  | _ => false

def wildcardIlike : Dialect → Bool
  | generic | snowflake => true
  | _ => false

def wildcardExclude : Dialect → Bool
  | generic | snowflake => true
  | _ => false

def wildcardExcept : Dialect → Bool
  | generic | bigquery => true
  | _ => false

def wildcardReplace : Dialect → Bool
  | generic | bigquery | snowflake => true
  | _ => false

def wildcardRename : Dialect → Bool
  | generic | snowflake => true
  | _ => false

def valueTables (d : Dialect) : Bool := d == bigquery

def connectByRoot (d : Dialect) : Bool := d == snowflake

def materializedHint (d : Dialect) : Bool := d == postgres

def preWhere (d : Dialect) : Bool := d == generic

def groupingKeywords : Dialect → Bool
  | generic | postgres | bigquery | snowflake => true
  | _ => false

def groupByModifier : Dialect → Bool
  | generic | mysql => true
  | _ => false

def connectBy : Dialect → Bool
  | tsql | generic | snowflake => true
  | _ => false

def namedWindowReference : Dialect → Bool
  | generic | bigquery => true
  | _ => false

def limitComma : Dialect → Bool
  | generic | mysql => true
  | _ => false

def limitBy (d : Dialect) : Bool := d == generic

def orderFill (d : Dialect) : Bool := d == generic

def querySettings (d : Dialect) : Bool := d == generic

def rowConstructors (d : Dialect) : Bool := d == mysql

def tablePartitions : Dialect → Bool
  | generic | mysql => true
  | _ => false

def tableVersions : Dialect → Bool
  | tsql | bigquery | snowflake => true
  | _ => false

def indexHints (d : Dialect) : Bool := d == mysql

def matchRecognize : Dialect → Bool
  | generic | snowflake => true
  | _ => false

def semanticViews (d : Dialect) : Bool := d == snowflake

def unnestFactor : Dialect → Bool
  | generic | postgres | bigquery => true
  | _ => false

def valuesFactor : Dialect → Bool
  | generic | snowflake => true
  | _ => false

def bareParenthesizedFactor : Dialect → Bool
  | generic | snowflake => true
  | _ => false

def rightNestedJoins (d : Dialect) : Bool := d == snowflake

def crossJoinConstraint (d : Dialect) : Bool := d == mysql

/-! ## Statements -/

def setWithoutOperator (d : Dialect) : Bool := d == tsql

def parenthesizedSet : Dialect → Bool
  | generic | bigquery | snowflake => true
  | _ => false

def setNames : Dialect → Bool
  | generic | postgres | mysql => true
  | _ => false

def commaSeparatedSet : Dialect → Bool
  | generic | mysql => true
  | _ => false

def transactionModifier : Dialect → Bool
  | tsql | generic => true
  | _ => false

def endModifier (d : Dialect) : Bool := d == tsql

def blocks : Dialect → Bool
  | bigquery | snowflake => true
  | _ => false

/-- A `BEGIN` may also start a transaction where blocks exist. -/
def blocksBesideTransactions (d : Dialect) : Bool := d == bigquery

/-- A branch of `IF` is one statement or a block, and no `END IF` closes it. -/
def openBranches (d : Dialect) : Bool := d == tsql

inductive DeclarationStyle
  | variables
  | defaults
  | items
  | cursor
deriving DecidableEq, Repr

def declarationStyle : Dialect → DeclarationStyle
  | tsql => .variables
  | bigquery => .defaults
  | snowflake => .items
  | _ => .cursor

def secondaryRoles (d : Dialect) : Bool := d == snowflake

def executeImmediate (d : Dialect) : Bool := d == bigquery

def deleteWithoutFrom : Dialect → Bool
  | generic | bigquery => true
  | _ => false

def insertSet (d : Dialect) : Bool := d == mysql

def insertPriority : Dialect → Bool
  | generic | mysql => true
  | _ => false

def insertTargetAlias (d : Dialect) : Bool := d == postgres

def mergeRow : Dialect → Bool
  | generic | bigquery => true
  | _ => false

def truncateBehavior : Dialect → Bool
  | generic | postgres => true
  | _ => false

def explainOptions : Dialect → Bool
  | generic | postgres => true
  | _ => false

def describeNeedsTable (d : Dialect) : Bool := d == snowflake

/-- `SHOW` filters its objects before it tells where they are. -/
def showFilterFirst (d : Dialect) : Bool := d == snowflake

def serverVariables : Dialect → Bool
  | generic | mysql => true
  | _ => false

def tableLocks (d : Dialect) : Bool := d == mysql

def flush : Dialect → Bool
  | generic | mysql => true
  | _ => false

def detach (d : Dialect) : Bool := d == generic

def installedExtensions (d : Dialect) : Bool := d == generic

def loadedExtensions : Dialect → Bool
  | generic | postgres => true
  | _ => false

/-- Tables are made of parts that can be merged, moved and killed changing. -/
def tableParts (d : Dialect) : Bool := d == generic

def commentOn : Dialect → Bool
  | generic | postgres | snowflake => true
  | _ => false

def listenNotify (d : Dialect) : Bool := d == postgres

def stages (d : Dialect) : Bool := d == snowflake

def userHosts : Dialect → Bool
  | generic | mysql => true
  | _ => false

def publicIsUser (d : Dialect) : Bool := d == tsql

/-! ## Definitions -/

def storageOptions : Dialect → Bool
  | tsql | generic => true
  | _ => false

def createTableSelect (d : Dialect) : Bool := d == mysql

def viewComment : Dialect → Bool
  | generic | snowflake => true
  | _ => false

def viewTarget (d : Dialect) : Bool := d == generic

def viewSchemaBinding (d : Dialect) : Bool := d == generic

def optionList : Dialect → Bool
  | generic | bigquery => true
  | _ => false

def trailingCommaColumns (d : Dialect) : Bool := d == bigquery

def bucketedTables (d : Dialect) : Bool := d == generic

def tablePartitioning : Dialect → Bool
  | generic | postgres | bigquery => true
  | _ => false

def indexConstraints : Dialect → Bool
  | generic | mysql => true
  | _ => false

def indexParameters : Dialect → Bool
  | generic | postgres => true
  | _ => false

def derivedColumns (d : Dialect) : Bool := d == generic

/-- Columns may count up by themselves, be computed and lie in a reference system. -/
def extendedColumns : Dialect → Bool
  | generic | mysql => true
  | _ => false

/-- Columns may carry a direction, an increment in one word and an answer to conflicts. -/
def columnShorthands (d : Dialect) : Bool := d == generic

def identityColumns : Dialect → Bool
  | generic | tsql => true
  | _ => false

def columnPolicies (d : Dialect) : Bool := d == snowflake

def storesGenerated (d : Dialect) : Bool := d == postgres

def columnPositions : Dialect → Bool
  | generic | mysql => true
  | _ => false

def guardedColumns : Dialect → Bool
  | generic | postgres | bigquery => true
  | _ => false

def dropColumnList (d : Dialect) : Bool := d == snowflake

def renameConstraint (d : Dialect) : Bool := d == postgres

def alterTypeUsing (d : Dialect) : Bool := d == postgres

def tableOwners : Dialect → Bool
  | generic | postgres => true
  | _ => false

def macros (d : Dialect) : Bool := d == generic

inductive FunctionStyle
  | attributes
  | determinism
  | block
deriving DecidableEq, Repr

def functionStyle? : Dialect → Option FunctionStyle
  | generic | postgres => some .attributes
  | bigquery => some .determinism
  | tsql => some .block
  | _ => none

def triggers : Dialect → Bool
  | generic | postgres | mysql | tsql => true
  | _ => false

def triggerTableFirst (d : Dialect) : Bool := d == tsql

/-- How roles are created and altered, where that takes more than a name. -/
inductive RoleStyle
  | attributes
  | membership
deriving DecidableEq, Repr

def roleStyle? : Dialect → Option RoleStyle
  | postgres => some .attributes
  | tsql => some .membership
  | _ => none

def dropTemporary : Dialect → Bool
  | generic | mysql => true
  | _ => false

end Dialect

end TableLineage.Sql
