import TableLineage.Sql.Lexer.Number

/-!
# Operators and comments

The longest operator wins.  Where a dialect lets its users make operators, the
characters after one may extend it into such; a few beginnings are no operator
unless they are extended.
-/

namespace TableLineage.Sql

open TableLineage.Text

namespace Lexer

def lineComment (d : Dialect) (rest : List Char) : Step :=
  let inLine := fun c => c != '\n' && !(c == '\r' && d.returnEndsComment)
  some (.gap, (rest.dropWhile inLine).drop 1)

/-- `depth` counts the comments open around the first character, the innermost included. -/
def blockComment (nested : Bool) (depth : Nat) : List Char → Option (List Char)
  | '/' :: '*' :: rest =>
      if nested then blockComment nested (depth + 1) rest
      else blockComment nested depth ('*' :: rest)
  | '*' :: '/' :: rest =>
      if depth ≤ 1 then some rest else blockComment nested (depth - 1) rest
  | _ :: rest => blockComment nested depth rest
  | [] => none
termination_by text => text.length

/-! ## Operators -/

def customOperator? (d : Dialect) (text : String) (rest : List Char) : Step :=
  match rest.takeWhile d.isOperatorPart with
  | [] => none
  | more => done (.customOperator (text ++ String.ofList more)) (rest.dropWhile d.isOperatorPart)

def operator (d : Dialect) (text : String) (rest : List Char) : Step :=
  (customOperator? d text rest).or (symbol text rest)

def minus (d : Dialect) (rest : List Char) : Step :=
  match rest with
  | '-' :: rest' =>
      if d.dashCommentNeedsSpace && rest'.head? != some ' ' then operator d "-" rest
      else lineComment d rest'
  | '>' :: '>' :: rest' => operator d "->>" rest'
  | '>' :: rest' => operator d "->" rest'
  | _ => operator d "-" rest

def slash (d : Dialect) (rest : List Char) : Step :=
  match rest with
  | '*' :: rest' => (blockComment d.nestedComments 1 rest').map fun left => (.gap, left)
  | '/' :: rest' =>
      if d.slashComments then lineComment d rest'
      else if d.doubleSlashOperator then symbol "//" rest'
      else symbol "/" rest
  | _ => symbol "/" rest

def percent (d : Dialect) (rest : List Char) : Step :=
  match rest with
  | c :: _ => if isBlank c then symbol "%" rest else operator d "%" rest
  | [] => operator d "%" rest

def pipe (d : Dialect) (rest : List Char) : Step :=
  match rest with
  | '/' :: rest' => operator d "|/" rest'
  | '|' :: '/' :: rest' => operator d "||/" rest'
  | '|' :: rest' => operator d "||" rest'
  | '&' :: rest' =>
      if d.geometricTypes then
        match rest' with
        | '>' :: rest' => operator d "|&>" rest'
        | _ => customOperator? d "|&" rest'
      else operator d "|" rest
  | '>' :: rest' =>
      if d.geometricTypes then
        match rest' with
        | '>' :: rest' => operator d "|>>" rest'
        | _ => customOperator? d "|>" rest'
      else if d.pipeSteps then operator d "|>" rest'
      else operator d "|" rest
  | _ => operator d "|" rest

def bang (rest : List Char) : Step :=
  match rest with
  | '=' :: rest' => symbol "!=" rest'
  | '!' :: rest' => symbol "!!" rest'
  | '~' :: '*' :: rest' => symbol "!~*" rest'
  | '~' :: '~' :: '*' :: rest' => symbol "!~~*" rest'
  | '~' :: '~' :: rest' => symbol "!~~" rest'
  | '~' :: rest' => symbol "!~" rest'
  | _ => symbol "!" rest

def geometricLess? (d : Dialect) (rest : List Char) : Option Step :=
  if d.geometricTypes then
    match rest with
    | '|' :: rest' | '<' :: '|' :: rest' => some (operator d "<<|" rest')
    | '-' :: '>' :: rest' => some (operator d "<->" rest')
    | '-' :: rest' => some (customOperator? d "<-" rest')
    | '^' :: rest' => some (operator d "<^" rest')
    | _ => none
  else none

def less (d : Dialect) (rest : List Char) : Step :=
  match geometricLess? d rest with
  | some step => step
  | none =>
      match rest with
      | '=' :: '>' :: rest' => operator d "<=>" rest'
      | '=' :: rest' => operator d "<=" rest'
      | '>' :: rest' => operator d "<>" rest'
      | '<' :: rest' => operator d "<<" rest'
      | '@' :: rest' => operator d "<@" rest'
      | _ => operator d "<" rest

def greater (d : Dialect) (rest : List Char) : Step :=
  match rest with
  | '=' :: rest' => operator d ">=" rest'
  | '>' :: rest' => operator d ">>" rest'
  | '^' :: rest' => if d.geometricTypes then operator d ">^" rest' else operator d ">" rest
  | _ => operator d ">" rest

/-- The operator `&>` takes the character after it along, whatever it is. -/
def ampersand (d : Dialect) (rest : List Char) : Step :=
  match rest with
  | '&' :: rest' => operator d "&&" rest'
  | '>' :: rest' =>
      if d.geometricTypes then symbol "&>" (rest'.drop 1) else operator d "&" rest
  | '<' :: '|' :: rest' =>
      if d.geometricTypes then symbol "&<|" rest' else operator d "&" rest
  | '<' :: rest' => if d.geometricTypes then operator d "&<" rest' else operator d "&" rest
  | _ => operator d "&" rest

def tilde (d : Dialect) (rest : List Char) : Step :=
  match rest with
  | '*' :: rest' => operator d "~*" rest'
  | '=' :: rest' => if d.geometricTypes then operator d "~=" rest' else operator d "~" rest
  | '~' :: '*' :: rest' => operator d "~~*" rest'
  | '~' :: rest' => operator d "~~" rest'
  | _ => operator d "~" rest

def sharp (d : Dialect) (rest : List Char) : Step :=
  match rest with
  | '-' :: rest' => operator d "#-" rest'
  | '>' :: '>' :: rest' => operator d "#>>" rest'
  | '>' :: rest' => operator d "#>" rest'
  | ' ' :: _ => symbol "#" rest
  | '#' :: rest' =>
      if d.geometricTypes then operator d "##" rest'
      else if d.isIdentStart '#' then identOrNumber d ['#', '#'] rest'
      else operator d "#" rest
  | c :: rest' =>
      if d.isIdentStart '#' then identOrNumber d ['#', c] rest' else operator d "#" rest
  | [] => operator d "#" rest

def atSign (d : Dialect) (rest : List Char) : Step :=
  match rest with
  | '@' :: rest' =>
      if d.geometricTypes then symbol "@@" rest'
      else
        match rest' with
        | ' ' :: _ | [] => symbol "@@" rest'
        | c :: left =>
            if d.isIdentStart '@' then identOrNumber d ['@', '@', c] left else symbol "@@" rest'
  | '>' :: rest' => symbol "@>" rest'
  | '?' :: rest' => symbol "@?" rest'
  | '-' :: rest' =>
      if d.geometricTypes then
        match rest' with
        | '@' :: rest' => symbol "@-@" rest'
        | _ => customOperator? d "@-" rest'
      else if d.isIdentStart '@' then identOrNumber d ['@', '-'] rest'
      else symbol "@" rest
  | c :: rest' =>
      if c == ' ' || c == '\'' || c == '"' || c == '`' then symbol "@" rest
      else if d.isIdentStart '@' then identOrNumber d ['@', c] rest'
      else symbol "@" rest
  | [] => symbol "@" rest

def question (d : Dialect) (rest : List Char) : Step :=
  if d.geometricTypes then
    match rest with
    | '|' :: '|' :: rest' => symbol "?||" rest'
    | '|' :: rest' => symbol "?|" rest'
    | '&' :: rest' => symbol "?&" rest'
    | '-' :: '|' :: rest' => symbol "?-|" rest'
    | '-' :: rest' => symbol "?-" rest'
    | '#' :: rest' => symbol "?#" rest'
    | _ => symbol "?" rest
  else
    done (.placeholder (String.ofList ('?' :: rest.takeWhile isNumeric)))
      (rest.dropWhile isNumeric)

end Lexer

end TableLineage.Sql
