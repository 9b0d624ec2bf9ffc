import TableLineage.Sql.Grammar.Special

/-!
# Expressions

Operator-precedence parsing: a prefix form, its subscripts and dotted parts,
then operators that bind tighter than the strength asked for.  A word with a
meaning of its own is first read with that meaning and, if this fails, as a
plain name, except for the few words that are never names.
-/

namespace TableLineage.Sql

open Sql.Parser

namespace Expr

def outerJoinMark? : Parser Bool := do
  if ← has Dialect.outerJoinMark then symbols? ["(", "+", ")"] else pure false

def atOuterJoinMark : Parser Bool := fun env reading =>
  .ok (env.dialect.outerJoinMark && (startWithSymbols ["(", "+", ")"] reading.ahead).isSome,
    reading)

def introducible (kind : StringKind) : Bool := kind == .single || kind == .double || kind == .hex

def plainWord (r : Rules) (word : Word) : Parser Expr := do
  writeIdent word.ident
  match ← peek with
  | some (.symbol "(") =>
      if ← atOuterJoinMark then pure ⟨.name word.ident, []⟩ else call r
  | some (.string kind text) =>
      if introducible kind && word.text.startsWith "_" then
        let _ ← next
        writeText (kind.wording text)
        pure leaf
      else pure ⟨.name word.ident, []⟩
  | _ => pure ⟨.name word.ident, []⟩

def wordExpr (r : Rules) (word : Word) : Parser Expr := do
  match special? r (← env) word (← ahead) with
  | none => plainWord r word
  | some reading =>
      if neverName (← dialect) word.keyword then reading
      else reading.otherwise (plainWord r word)

def typedLiteral (r : Rules) : Parser Expr := do
  let type ← r.typeName
  if type.closes then fail
  else
    match type.form with
    | .custom => fail
    | .interval => interval r
    | .builtin =>
        value
        pure (.of type.mentions)

def groupExpr (r : Rules) : Parser Expr := do
  let subquery ← atSubquery
  let inside ← if subquery then r.query else within .plain r.exprs
  expectSymbol ")"
  pure ⟨if subquery then .subquery else .other, inside⟩

def dictionaryEntry (r : Rules) : Parser Mentions := do
  skipIdentifier
  require (← symbolAs? .closing ":")
  r.exprMentions

def wrappedCall (r : Rules) : Parser Expr := do
  require (← unwritten (keyword? "FN"))
  writeText "fn"
  anyName r
  call r

def wrappedLiteral : Parser Expr := do
  match ← next with
  | some (.word word) =>
      require (["d", "t", "ts"].contains word.text && word.quote.isNone)
      writeText word.text
  | _ => fail
  value
  pure leaf

/-- Braces hold a call, a dated literal, or a dictionary where the dialect has those. -/
def braceExpr (r : Rules) : Parser Expr := do
  let wrapped ←
    match ← attempt (wrappedCall r) with
    | some e => pure (some e)
    | none => attempt wrappedLiteral
  match wrapped with
  | some e =>
      expectSymbol "\x7d"
      pure e
  | none =>
      require (← has Dialect.dictionaries)
      pure (.of (← braced (dictionaryEntry r)))

def signed (r : Rules) (level : Strength) : Parser Expr := do
  let e ← r.expr ((← dialect).strength level)
  pure (.of e.mentions)

/-- What a symbol opens that has been read and, marks of placeholders apart, written. -/
def openedBy (r : Rules) (text : String) : Parser Expr := do
  let d ← dialect
  match text with
  | "[" => pure (.of (← arrayItems r))
  | "-" | "+" => signed r .product
  | "!!" | "|/" | "||/" | "~" | "#" | "@-@" | "@@" | "?-" | "?|" =>
      if d.prefixSymbols then signed r .sum else fail
  | "(" => groupExpr r
  | "@" =>
      if d.prefixSymbols then signed r .sum
      else
        let _ ← placeholderName text
        pure constant
  | ":" =>
      let _ ← placeholderName text
      pure constant
  | "\x7b" => braceExpr r
  | _ => fail

def symbolExpr (r : Rules) (text : String) : Parser Expr := do
  if text == ":" || text == "@" then pure () else write (.opening text)
  openedBy r text

def collated (r : Rules) (e : Expr) : Parser Expr := do
  if ← onlyIf ((← env).surroundings != .column) (keyword? "COLLATE") then
    let named ← objectName r false
    pure (.of (e.mentions ++ named.inside))
  else pure e

def parsePrefix (r : Rules) : Parser Expr := do
  match ← attempt (typedLiteral r) with
  | some e => pure e
  | none =>
      let before ← ahead
      let e ←
        match ← next with
        | some (.word word) => wordExpr r word
        | some (.symbol text) => symbolExpr r text
        | some (.number _ _) | some (.string _ _) | some (.placeholder _) =>
            resume before
            value
            pure constant
        | _ => fail
      collated r e

structure Chain where
  links : Nat
  /-- All links are names. -/
  allNames : Bool
  /-- All links but the last are names. -/
  namesBefore : Bool
  last : ExprForm
  mentions : Mentions
  wildcard : Bool

def Chain.empty : Chain := ⟨0, true, true, .other, [], false⟩

def Chain.add (chain : Chain) (e : Expr) : Chain where
  links := chain.links + 1
  allNames := chain.allNames && e.isPath
  namesBefore := chain.allNames
  last := e.form
  mentions := chain.mentions ++ e.mentions
  wildcard := false

def subscript (r : Rules) : Parser Mentions := do
  let lower ← if ← symbol? ":" then pure none else pure (some (← r.exprMentions))
  if ← symbol? "]" then pure (lower.getD [])
  else
    if lower.isSome then expectSymbol ":" else pure ()
    if ← symbol? "]" then pure (lower.getD [])
    else
      let upper ← r.exprMentions
      if ← symbol? "]" then pure (lower.getD [] ++ upper)
      else
        expectSymbol ":"
        if ← symbol? "]" then pure (lower.getD [] ++ upper)
        else
          let stride ← r.exprMentions
          expectSymbol "]"
          pure (lower.getD [] ++ upper ++ stride)

/-- What follows a period: an expression that can stand there, or else an identifier. -/
def link (r : Rules) : Parser Expr := do
  let e ← attempt do
    let e ← r.expr ((← dialect).strength .period)
    require e.isLink
    pure e
  match e with
  | some e => pure e
  | none => pure ⟨.name (← identifier), []⟩

def chainStep (r : Rules) (chain : Chain) : Parser (Chain × Bool) := do
  let d ← dialect
  match ← ahead with
  | ⟨.symbol ".", _⟩ :: ⟨.symbol "*", _⟩ :: rest =>
      if d == .postgres then
        resume rest
        write (.closing ".*")
        pure ({ chain with wildcard := true }, false)
      else pure (chain, false)
  | ⟨.symbol ".", _⟩ :: ⟨.string .single text, _⟩ :: rest =>
      let ident : Ident := ⟨text, some '\''⟩
      resume rest
      writeSymbol "."
      writeIdent ident
      pure (chain.add ⟨.name ident, []⟩, true)
  | ⟨.symbol ".", _⟩ :: rest =>
      resume rest
      writeSymbol "."
      pure (chain.add (← link r), true)
  | ⟨.symbol "[", _⟩ :: rest =>
      if d.bracketSubscripts then
        resume rest
        writeSymbol "["
        pure (chain.add (.of (← subscript r)), true)
      else pure (chain, false)
  | _ => pure (chain, false)

def Chain.form (root : Expr) (chain : Chain) : ExprForm :=
  if chain.links = 0 then root.form
  else if root.isName && chain.allNames then .path
  else if root.isName && chain.namesBefore && chain.last == .call then .call
  else .access

def withLinks (r : Rules) (root : Expr) : Parser Expr := do
  let chain ← loop (chainStep r) Chain.empty
  let allNames := root.isName && chain.allNames
  if chain.wildcard then
    require allNames
    pure ⟨.qualifiedWildcard, []⟩
  else if ← outerJoinMark? then
    require allNames
    pure (.of [])
  else pure ⟨chain.form root, root.mentions ++ chain.mentions⟩

/-! ## Operators -/

def comparisonSymbols : List String :=
  ["=", "==", "<", "<=", ">", ">=", "!=", "<>", "~", "~*", "!~", "!~*", "~~", "~~*", "!~~",
    "!~~*"]

def isBinary (d : Dialect) (text : String) : Bool :=
  comparisonSymbols.contains text || documentSymbols.contains text ||
    ["<=>", ":=", "+", "-", "*", "%", "||", "|", "^", "&", "/"].contains text ||
    (text == "//" && d.doubleSlashOperator) ||
    ((text == "<<" || text == ">>") && d.shiftOperators) ||
    (text == "#" && d == .postgres) ||
    (text == "&&" && (d == .postgres || d.doubleAmpersandAnd)) ||
    (text == "^@" && (d == .postgres || d == .generic)) ||
    (d.geometricTypes && geometricSymbols.contains text)

/-- The right operand, and whether it is quantified over a set, which a comparison may be.  Of a
quantifier, everything but a lone subquery is written in parentheses. -/
def rightOperand (r : Rules) (strength : Nat) (compares : Bool) : Parser (Mentions × Bool) := do
  if ← oneKeyword? ["ANY", "ALL", "SOME"] then
    require (← atSymbol "(")
    let subquery := fun token => isKeyword "SELECT" token || isKeyword "WITH" token
    let (right, wording) ←
      if subquery (← peekAt 1) then apart (r.expr strength)
      else
        let _ ← next
        let right ← apart (r.expr strength)
        require (← unwritten (symbol? ")"))
        pure right
    require compares
    write .joint
    writeEnclosed (right.form != .subquery) wording
    pure (right.mentions, true)
  else pure ((← r.expr strength).mentions, false)

def operatorName : Parser Unit :=
  parenthesized (repeatedly do
    let _ ← next
    symbol? ".")

def normalizedTest : Parser Unit := do
  let _ ← anyKeyword? ["NFC", "NFD", "NFKC", "NFKD"]
  expectKeyword "NORMALIZED"

def isTest (r : Rules) : Parser Mentions := do
  let _ ← keyword? "NOT"
  if ← oneKeyword? ["NULL", "TRUE", "FALSE", "UNKNOWN"] then pure []
  else if ← keywords? ["DISTINCT", "FROM"] then r.exprMentions
  else
    normalizedTest
    pure []

def membership (r : Rules) : Parser Mentions := do
  if ← keyword? "UNNEST" then tightParens r.exprMentions
  else
    expectSymbol "("
    let members ←
      match ← attempt r.query with
      | some subquery => pure subquery
      | none => r.exprs
    expectSymbol ")"
    pure members

def range (r : Rules) : Parser Mentions := do
  let strength := (← dialect).strength .between
  let low ← r.expr strength
  expectKeyword "AND"
  let high ← r.expr strength
  pure (low.mentions ++ high.mentions)

def pattern (r : Rules) : Parser Mentions := do
  let p ← r.expr ((← dialect).strength .like)
  pure p.mentions

def escape? : Parser Unit := ifNext (keyword? "ESCAPE") value

def likeTest (r : Rules) : Parser Mentions := do
  let _ ← keyword? "ANY"
  let p ← pattern r
  escape?
  pure p

def negatableTest (r : Rules) : Parser Mentions := do
  let negated ← unwritten (keyword? "NOT")
  let regular ← unwritten (keyword? "REGEXP")
  let alike ← unwritten (keyword? "RLIKE")
  let null ← onlyIf ((← env).surroundings != .column) (unwritten (keyword? "NULL"))
  if negated && null && !regular && !alike then
    ["IS", "NOT", "NULL"].forM writeText
    pure []
  else
    if negated then writeText "NOT" else pure ()
    if regular || alike then
      writeText (if regular then "REGEXP" else "RLIKE")
      pattern r
    else if ← keyword? "IN" then membership r
    else if ← keyword? "BETWEEN" then range r
    else if ← oneKeyword? ["LIKE", "ILIKE"] then likeTest r
    else
      expectKeywords ["SIMILAR", "TO"]
      let p ← pattern r
      escape?
      pure p

def documentKey : Parser Unit := do
  match ← next with
  | some (.word word) =>
      require (word.quote.isNone || word.quote == some '"')
      writeIdent word.ident
  | some (.string .double text) => writeText (StringKind.double.wording text)
  | _ => fail

def documentPath (r : Rules) : Parser Mentions := do
  let (_, mentions) ← loop (fun (started, read) => do
    if ← anyOf [onlyIf (!started) (symbol? ":"), onlyIf started (symbol? ".")] then
      documentKey
      pure ((true, read), true)
    else if ← symbol? "[" then
      let key ← wildcardOrExpr r
      expectSymbol "]"
      pure ((true, read ++ key.mentions), true)
    else pure ((started, read), false)) (false, [])
  pure mentions

def wordInfix (r : Rules) (strength : Nat) (keyword : String) : Parser Mentions := do
  let d ← dialect
  match keyword with
  | "NOTNULL" =>
      require d.notNullOperator
      ["IS", "NOT", "NULL"].forM writeText
      pure []
  | _ =>
      writeText keyword
      match keyword with
      | "AND" | "OR" | "XOR" | "OVERLAPS" => pure (← rightOperand r strength false).1
      | "OPERATOR" =>
          require d.customOperatorCall
          operatorName
          pure (← rightOperand r strength false).1
      | "DIV" => divided r.exprMentions
      | "IS" => isTest r
      | "AT" =>
          expectKeywords ["TIME", "ZONE"]
          pure (← r.expr strength).mentions
      | "MEMBER" =>
          expectKeyword "OF"
          tightParens r.exprMentions
      | _ => fail

def symbolInfix (r : Rules) (left : Expr) (strength : Nat) (text : String) : Parser Expr := do
  let d ← dialect
  writeSymbol text
  if isBinary d text then
    let (right, quantified) ← rightOperand r strength (comparisonSymbols.contains text)
    let names := (text == "=" || text == "==") && left.isName && !quantified
    pure ⟨if names then .nameEquals else .other, left.mentions ++ right⟩
  else
    match text with
    | "::" => pure (.of (left.mentions ++ (← r.wholeType)))
    | "!" =>
        require d.factorial
        pure (.of left.mentions)
    | _ => fail

def negatableWords : List String :=
  ["NOT", "IN", "BETWEEN", "LIKE", "ILIKE", "SIMILAR", "REGEXP", "RLIKE"]

def infixStep (r : Rules) (left : Expr) (strength : Nat) : Parser Expr := do
  if ← atAnyKeyword negatableWords then pure (.of (left.mentions ++ (← negatableTest r)))
  else if ← onlyIf (← has Dialect.tightPaths) (anyOf [atSymbol ":", atSymbol "["]) then
    pure (.of (left.mentions ++ (← documentPath r)))
  else
    match ← next with
    | some (.word word) => pure (.of (left.mentions ++ (← wordInfix r strength word.keyword)))
    | some (.symbol text) => symbolInfix r left strength text
    | some (.customOperator text) =>
        writeText text
        pure (.of (left.mentions ++ (← rightOperand r strength false).1))
    | _ => fail

/-- An expression up to an operator that binds no tighter than `strength`. -/
def parse (r : Rules) (strength : Nat) : Parser Expr := do
  let root ← parsePrefix r
  let operand ← collated r (← withLinks r root)
  loop (fun left => do
    let ahead ← nextStrength
    if ahead ≤ strength then pure (left, false)
    else if ← atSymbol "." then pure (left, false)
    else pure (← infixStep r left ahead, true)) operand

end Expr

end TableLineage.Sql
