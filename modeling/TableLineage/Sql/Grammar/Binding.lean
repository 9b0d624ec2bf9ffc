import TableLineage.Sql.Grammar.Basic

/-!
# How tightly operators bind

`Strength` names the levels; `Dialect.strength` orders them, and
`nextStrength` reads off the level of the operator ahead, 0 when none is.
-/

namespace TableLineage.Sql

inductive Strength
  | period | doubleColon | collate | atTimeZone | product | sum | xor | bitAnd | bitXor | bitOr
  | between | equality | like | is | postgresOperator | not | and | or
deriving DecidableEq, Repr

def Dialect.strength (d : Dialect) (level : Strength) : Nat :=
  if d = .postgres then
    match level with
    | .period => 200
    | .doubleColon => 140
    | .collate => 120
    | .atTimeZone => 110
    | .product => 90
    | .sum => 80
    | .xor => 75
    | .bitAnd | .bitOr | .postgresOperator => 70
    | .bitXor => 100
    | .between | .like => 60
    | .equality => 50
    | .is => 40
    | .not => 30
    | .and => 20
    | .or => 10
  else
    match level with
    | .period => 100
    | .doubleColon => 50
    | .collate => 42
    | .atTimeZone => 41
    | .product => 40
    | .sum => 30
    | .xor => 24
    | .bitAnd => 23
    | .bitXor => 22
    | .bitOr => 21
    | .between | .equality => 20
    | .like => 19
    | .is => 17
    | .postgresOperator => 16
    | .not => 15
    | .and => 10
    | .or => 5

def equalitySymbols : List String :=
  [":=", "=", "<", "<=", "!=", "<>", ">", ">=", "==", "~", "~*", "!~", "!~*", "~~", "~~*", "!~~",
    "!~~*", "<=>"]

def documentSymbols : List String :=
  ["->", "->>", "#>", "#>>", "@>", "<@", "#-", "@?", "@@", "?", "?&", "?|"]

def geometricSymbols : List String :=
  ["@", "?-", "?||", "?-|", "|>>", "<<|", "|&>", "&>", "&<", "&<|", "<->", "<^", ">^", "?#", "##",
    "~="]

def symbolLevel (d : Dialect) (text : String) : Option Strength :=
  if equalitySymbols.contains text then some .equality
  else if documentSymbols.contains text then some .postgresOperator
  else if d.geometricTypes && geometricSymbols.contains text then some .bitOr
  else
    match text with
    | "." => some .period
    | "::" | "[" => some .doubleColon
    | "!" | "&&" | "^@" =>
        if d = .postgres then some .postgresOperator else some .doubleColon
    | "*" | "/" | "//" | "%" => some .product
    | "||" => if d = .postgres then some .postgresOperator else some .product
    | "+" | "-" => some .sum
    | "^" => some .bitXor
    | "#" | ">>" | "<<" => if d = .postgres then some .postgresOperator else some .bitXor
    | "&" => some .bitAnd
    | "|" => some .bitOr
    | ":" => if d.tightPaths then some .doubleColon else none
    | _ => none

def likeWords : List String := ["LIKE", "ILIKE", "RLIKE", "REGEXP", "MATCH", "SIMILAR", "MEMBER"]

def betweenWords : List String := ["IN", "BETWEEN"]

def wordLevel (env : Env) (keyword : String) (after : List Lexeme) : Option Strength :=
  let inColumn := env.surroundings = .column
  if likeWords.contains keyword then some .like
  else if betweenWords.contains keyword then some .between
  else
    match keyword with
    | "OR" => some .or
    | "AND" => some .and
    | "XOR" => some .xor
    | "AT" =>
        if (Parser.startWithKeywords ["TIME", "ZONE"] after).isSome then some .atTimeZone
        else none
    | "NOT" =>
        match Parser.headToken after with
        | some (.word word) =>
            if likeWords.contains word.keyword then some .like
            else if betweenWords.contains word.keyword then some .between
            else if word.keyword == "NULL" && !inColumn then some .is
            else none
        | _ => none
    | "NOTNULL" => if env.dialect.notNullOperator && !inColumn then some .is else none
    | "COLLATE" => if env.dialect.collateBinds && !inColumn then some .collate else none
    | "IS" => some .is
    | "OVERLAPS" | "OPERATOR" => some .between
    | "DIV" => some .product
    | _ => none

def aheadLevel (env : Env) : List Lexeme → Option Strength
  | ⟨.word word, _⟩ :: after => wordLevel env word.keyword after
  | ⟨.symbol text, _⟩ :: _ => symbolLevel env.dialect text
  | ⟨.customOperator _, _⟩ :: _ => some .postgresOperator
  | _ => none

def nextStrength : Parser Nat := fun env reading =>
  .ok ((aheadLevel env reading.ahead).elim 0 env.dialect.strength, reading)

end TableLineage.Sql
