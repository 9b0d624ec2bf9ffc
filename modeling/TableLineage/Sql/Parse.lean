import TableLineage.Sql.Grammar.Statement
import TableLineage.Sql.Lexer

/-!
# Parsing SQL

`rules` closes the recursion of the grammar.  Statements, queries and
expressions each open one level of nesting, of which there are
`Parse.nestingLimit`; every other production that calls another one has read a
lexeme, so the number of lexemes bounds the rest.
-/

namespace TableLineage.Sql

open Sql.Parser

namespace Parse

def nestingLimit : Nat := 50

def noRules : Rules :=
  ⟨fail, fail, fun _ => fail, fun _ => fail, fail, fail, fail, fail, fail, fail⟩

def rules : Nat → Rules
  | 0 => noRules
  | budget + 1 =>
      let r := rules budget
      { statement := nested (Statement.parse r)
        query := nested (Query.parse r)
        queryBody := Query.parseBody r
        expr := fun strength => nested (Expr.parse r strength)
        prefixExpr := Expr.parsePrefix r
        typeName := TypeName.parse r
        column := Column.parse r
        arguments := plainArguments r
        factor := Factor.parse r
        joins := Factor.parseJoins r }

def semicolons : List Lexeme → List Lexeme × Bool
  | ⟨.symbol ";", _⟩ :: rest => ((semicolons rest).1, true)
  | rest => (rest, false)

/-- Statements with semicolons between them.  After a statement, `END` stops the reading. -/
def statementsFrom (r : Rules) (env : Env) :
    Nat → Bool → List Lexeme → Except (Failure env.dialect) (List Statement)
  | 0, _, _ => .error .mismatch
  | budget + 1, afterStatement, ahead => do
      let (ahead, separated) := semicolons ahead
      if ahead.isEmpty then .ok []
      else if afterStatement && !separated then
        if isKeyword "END" (headToken ahead) then .ok [] else .error .mismatch
      else
        let (mentions, left) ← r.statement env { ahead }
        let statements ← statementsFrom r env budget true left.ahead
        .ok (⟨mentions⟩ :: statements)

end Parse

/-- The statements of a text, if the dialect accepts all of it. -/
def parse (d : Dialect) (text : List Char) : Except (Failure d) (List Statement) :=
  match lex d text with
  | some lexemes =>
      let budget := 4 * (lexemes.length + Parse.nestingLimit)
      let steps := lexemes.length + 1
      Parse.statementsFrom (Parse.rules budget) ⟨d, Parse.nestingLimit, steps, .plain⟩
        steps false lexemes
  | none => .error .mismatch

def resolve (d : Dialect) (query : String) : Option (List String) :=
  (parse d query.toList).toOption.map statementTables

/-- Whether a text is one that there is no answer for, not even that it is refused. -/
def breaksDown (d : Dialect) (query : String) : Bool :=
  match parse d query.toList with
  | .error (.breakdown _) => true
  | _ => false

end TableLineage.Sql
