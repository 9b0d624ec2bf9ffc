import TableLineage.Formula.Refusal
import TableLineage.Formula.Token
import TableLineage.Text.Split

/-!
# The call that opens a source

The second line of an expression assigns a call.  `classify` accepts the one
call lineage is taken from and cuts its text into the arguments between the
first parenthesis and the bracket that closes it.  Commas inside literals,
comments and nested brackets separate nothing.  A text that ends inside a
literal or a comment has no tokens to go by; there every comma up to the next
closing parenthesis counts.
-/

namespace TableLineage.Formula

open TableLineage.Text

/-- The one source type lineage is taken from. -/
def databaseSource : String := "Sql.Database"

/-- A comma-separated group, which always has a first argument, and the text behind it. -/
structure Arguments where
  first : List Char
  others : List (List Char)
  rest : List Char
deriving DecidableEq, Repr

namespace Arguments

def all (arguments : Arguments) : List (List Char) := arguments.first :: arguments.others

def written (arguments : Arguments) : List Char :=
  arguments.first ++ arguments.others.flatMap (',' :: ·) ++ arguments.rest

def extend (text : List Char) (arguments : Arguments) : Arguments :=
  { arguments with first := text ++ arguments.first }

def push (argument : List Char) (arguments : Arguments) : Arguments :=
  ⟨argument, arguments.all, arguments.rest⟩

end Arguments

def Kind.opens : Kind → Bool
  | .leftParen | .leftSquare | .leftBrace => true
  | _ => false

def Kind.closes : Kind → Bool
  | .rightParen | .rightSquare | .rightBrace => true
  | _ => false

/-- Cuts at the commas outside of all brackets opened since the group began, of which `inner`
are open.  `final` is the gap behind the last token. -/
def splitTokens (final : List Char) (inner : Nat) : List Token → Arguments
  | [] => ⟨final, [], []⟩
  | token :: tokens =>
      if token.kind.opens then
        (splitTokens final (inner + 1) tokens).extend token.written
      else if token.kind.closes then
        match inner with
        | 0 => ⟨token.gap, [], token.text ++ tokens.flatMap Token.written ++ final⟩
        | inner + 1 => (splitTokens final inner tokens).extend token.written
      else if token.kind = .comma ∧ inner = 0 then
        (splitTokens final inner tokens).push token.gap
      else (splitTokens final inner tokens).extend token.written

def splitPlain : List Char → Arguments
  | [] => ⟨[], [], []⟩
  | c :: text =>
      if c = ')' then ⟨[], [], c :: text⟩
      else if c = ',' then (splitPlain text).push []
      else (splitPlain text).extend [c]

def splitArguments (text : List Char) : Arguments :=
  let line := tokenLine text
  match line.ending with
  | .complete gap => splitTokens gap 0 line.tokens
  | .unclosed .. => splitPlain text

structure Call where
  name : List Char
  arguments : Arguments
deriving DecidableEq, Repr

namespace Call

def text (call : Call) : List Char := call.name ++ '(' :: call.arguments.written

def sourceType (call : Call) : String := String.ofList (trim call.name)

def argument? (call : Call) (index : Nat) : Option (List Char) := call.arguments.all[index]?

def separatorCount (call : Call) : Nat := call.arguments.others.length

/-- Host and database alone: the next line names the table. -/
def isDirectImport (call : Call) : Bool := call.separatorCount == 1

/-- The text behind the separator that follows an argument, to the end of the line. -/
def textAfter? (call : Call) (index : Nat) : Option (List Char) :=
  match call.arguments.others.drop index with
  | [] => none
  | first :: others => some (Arguments.written ⟨first, others, call.arguments.rest⟩)

end Call

def trimmed (text : List Char) : String := String.ofList (trim text)

def callOfLine (line : List Char) : Except Refusal Call :=
  match splitOnce '=' line with
  | none => .error (.noAssignment (trimmed line))
  | some (_, callText) =>
      match splitOnce '(' callText with
      | none => .error (.noCall (trimmed callText))
      | some (name, inside) =>
          if trimmed name = databaseSource then .ok ⟨name, splitArguments inside⟩
          else .error (.otherSource (trimmed name))

/-- The call of an expression stands on its second line. -/
def classify (expression : List (List Char)) : Except Refusal Call :=
  match expression[1]? with
  | none => .error .noCallLine
  | some line => callOfLine line

end TableLineage.Formula
