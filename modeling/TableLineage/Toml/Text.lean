import TableLineage.Toml.Reader

/-!
# Strings

Basic strings have escapes, literal strings have none; both come on one line or
on several.  On several lines a break right behind the opening quotes is
dropped, and up to two quotes may stand right before the closing ones.
-/

namespace TableLineage.Toml.Reader

def hexDigitValue (c : Char) : Nat :=
  if isDigit c then c.toNat - '0'.toNat
  else if 'a' ≤ c then c.toNat - 'a'.toNat + 10
  else c.toNat - 'A'.toNat + 10

def hexNumber (digits : List Char) : Nat :=
  digits.foldl (fun value c => 16 * value + hexDigitValue c) 0

def charOfCode (code : Nat) : Except Cause Char :=
  if code < 0xD800 ∨ (0xDFFF < code ∧ code < 0x110000) then .ok (Char.ofNat code)
  else .error .outOfRange

def hexEscape (digits : Nat) : Reader Char :=
  insist <| naming s!"unicode {digits}-digit hex code" <|
    causing (fun taken => charOfCode (hexNumber taken)) (takeBetween digits digits isHexDigit)

def escapeLetters : List String := ["`b`", "`f`", "`n`", "`r`", "`t`", "`u`", "`U`", "`\\`", "`\"`"]

def noEscape : Reader Char := insist (naming "escape sequence" (expecting escapeLetters miss))

def simpleEscape? : Char → Option Char
  | 'b' => some '\x08'
  | 'f' => some '\x0c'
  | 'n' => some '\n'
  | 'r' => some '\r'
  | 't' => some '\t'
  | '\\' => some '\\'
  | '"' => some '"'
  | _ => none

def escapeBody : Reader Char := do
  match ← peek with
  | none => miss
  | some c =>
      if isWide c then noEscape
      else
        let _ ← satisfy fun _ => true
        match simpleEscape? c with
        | some meant => pure meant
        | none => if c = 'u' then hexEscape 4 else if c = 'U' then hexEscape 8 else noEscape

def escape : Reader (List Char) := do
  let _ ← char '\\'
  let c ← escapeBody
  pure [c]

def isPlain (c : Char) : Bool := isShown c && c != '"' && c != '\\'

def basicString : Reader String := do
  let _ ← char '"'
  let pieces ← many (orElse (takeSome isPlain) escape)
  let _ ← insist (naming "basic string" (char '"'))
  pure (String.ofList pieces.flatten)

def isLiteral (c : Char) : Bool := isShown c && c != '\''

def literalString : Reader String := naming "literal string" do
  let _ ← char '\''
  let body ← takeWhile isLiteral
  let _ ← insist (char '\'')
  pure (String.ofList body)

def ahead (p : Reader α) : Reader Unit := fun start =>
  match p start with
  | .ok _ _ => .ok () start
  | .missed complaint _ => .missed complaint start
  | .failed complaint _ => .failed complaint start

def quotesBefore (mark : Char) (next : Reader α) : Reader (List Char) :=
  orElse (do
    literal [mark, mark]
    ahead next
    pure [mark, mark])
  (do
    literal [mark]
    ahead next
    pure [mark])

def lineJoin : Reader (List Char) := do
  let _ ← char '\\'
  blanks
  newline
  let _ ← many (orElse (satisfy isBlank *> pure ()) newline)
  pure []

def breakChar : Reader (List Char) := do
  newline
  pure ['\n']

def basicContent : Reader (List Char) :=
  orElse (takeSome isPlain) (orElse lineJoin (orElse escape breakChar))

def literalContent : Reader (List Char) := orElse (takeSome isLiteral) breakChar

def severalLines (label : String) (mark : Char) (content : Reader (List Char)) :
    Reader String := naming label do
  let quotes : Reader Unit := literal [mark, mark, mark]
  quotes
  let _ ← option newline
  let pieces ← many (orElse content (quotesBefore mark content))
  let final ← option (quotesBefore mark quotes)
  insist quotes
  pure (String.ofList (pieces.flatten ++ final.getD []))

def string : Reader String :=
  orElse (severalLines "multiline basic string" '"' basicContent)
    (orElse basicString
      (orElse (severalLines "multiline literal string" '\'' literalContent) literalString))

end TableLineage.Toml.Reader
