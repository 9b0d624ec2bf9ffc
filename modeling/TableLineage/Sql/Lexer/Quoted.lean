import TableLineage.Sql.Dialect
import TableLineage.Sql.Token

/-!
# Quoted text

Each scanner below takes the characters after the ones that selected it and
returns what it read with the characters left.  A literal or a quoted
identifier that is left open is refused, and so is an escape without meaning.
-/

namespace TableLineage.Sql

open TableLineage.Text

namespace Lexer

inductive Piece
  | token (token : Token)
  | gap
deriving DecidableEq, Repr

abbrev Step := Option (Piece × List Char)

def done (token : Token) (rest : List Char) : Step := some (.token token, rest)

def symbol (text : String) (rest : List Char) : Step := done (.symbol text) rest

/-- A string literal, if its end was found. -/
def literal (kind : StringKind) (read : Option (List Char × List Char)) : Step :=
  read.map fun (text, left) => (.token (.string kind (String.ofList text)), left)

def quotedIdent (close : Char) : List Char → Option (List Char × List Char)
  | [] => none
  | c :: rest =>
      if c == close then
        match rest with
        | c' :: rest' =>
            if c' == close then
              (quotedIdent close rest').map fun (text, left) => (c :: text, left)
            else some ([], rest)
        | [] => some ([], [])
      else (quotedIdent close rest).map fun (text, left) => (c :: text, left)

/-- What a backslash does in a string: it stands for itself, takes the next character along as
it is, or keeps its place before the wildcards of `LIKE` only. -/
inductive Escapes
  | none
  | all
  | allButWildcards
deriving DecidableEq, Repr

def Escapes.ofDialect (d : Dialect) : Escapes :=
  if !d.backslashEscapes then .none
  else if d.keepsWildcardEscapes then .allButWildcards
  else .all

def unescape : Char → Char
  | '0' => '\x00'
  | 'a' => '\x07'
  | 'b' => '\x08'
  | 'f' => '\x0c'
  | 'n' => '\n'
  | 'r' => '\r'
  | 't' => '\t'
  | 'Z' => '\x1a'
  | c => c

def Escapes.read (escapes : Escapes) (c : Char) : List Char :=
  if escapes = .allButWildcards ∧ (c = '%' ∨ c = '_') then ['\\', c] else [unescape c]

def stringBody (quote : Char) (escapes : Escapes) : List Char → Option (List Char × List Char)
  | [] => none
  | c :: rest =>
      if c == quote then
        match rest with
        | c' :: rest' =>
            if c' == quote then
              (stringBody quote escapes rest').map fun (text, left) => (c :: text, left)
            else some ([], rest)
        | [] => some ([], [])
      else if c == '\\' && escapes != .none then
        match rest with
        | c' :: rest' =>
            (stringBody quote escapes rest').map fun (text, left) =>
              (escapes.read c' ++ text, left)
        | [] => none
      else (stringBody quote escapes rest).map fun (text, left) => (c :: text, left)

/-- The rest of a literal that three quotes in a row close, the first two of them included;
`seen` counts the quotes just passed. -/
def tripleBody (quote : Char) (escapes : Escapes) (seen : Nat) :
    List Char → Option (List Char × List Char)
  | [] => none
  | c :: rest =>
      if c == quote then
        if seen == 2 then some ([], rest)
        else (tripleBody quote escapes (seen + 1) rest).map fun (text, left) => (c :: text, left)
      else if c == '\\' && escapes != .none then
        match rest with
        | c' :: rest' =>
            (tripleBody quote escapes 0 rest').map fun (text, left) =>
              (escapes.read c' ++ text, left)
        | [] => none
      else (tripleBody quote escapes 0 rest).map fun (text, left) => (c :: text, left)

/-- A literal that `quote` opened after the letter `mark`, or after none. -/
def quotedKind (mark : String) (quote : Char) : StringKind :=
  if mark.isEmpty then if quote == '"' then .double else .single
  else .framed (mark.push quote) (String.singleton quote)

def tripleKind (mark : String) (quote : Char) : StringKind :=
  let quotes := String.ofList [quote, quote, quote]
  .framed (mark ++ quotes) quotes

def stringOrTriple (mark : String) (quote : Char) (escapes : Escapes) (rest : List Char) : Step :=
  let single := fun rest => literal (quotedKind mark quote) (stringBody quote escapes rest)
  match rest with
  | c :: c' :: rest' =>
      if c == quote && c' == quote then
        literal (tripleKind mark quote) ((tripleBody quote escapes 0 rest').map fun (text, left) =>
          (text.dropLast.dropLast, left))
      else if c == quote then done (.string (quotedKind mark quote) "") (c' :: rest')
      else single rest
  | _ => single rest

def dialectString (d : Dialect) (mark : String) (quote : Char) (escapes : Escapes)
    (rest : List Char) : Step :=
  if d.tripleQuotes then stringOrTriple mark quote escapes rest
  else literal (quotedKind mark quote) (stringBody quote escapes rest)

def isHexDigit (c : Char) : Bool :=
  isAsciiDigit c || ('a' ≤ c && c ≤ 'f') || ('A' ≤ c && c ≤ 'F')

def isOctalDigit (c : Char) : Bool := '0' ≤ c && c ≤ '7'

def digitValue (c : Char) : Nat :=
  if isAsciiDigit c then c.toNat - '0'.toNat
  else if 'a' ≤ c && c ≤ 'f' then c.toNat - 'a'.toNat + 10
  else c.toNat - 'A'.toNat + 10

def ofDigits (base : Nat) (digits : List Char) : Nat :=
  digits.foldl (fun value c => value * base + digitValue c) 0

def codePoint? (code : Nat) : Option Char :=
  if code.isValidChar then some (Char.ofNat code) else none

def byteChar? (code : Nat) : Option Char :=
  if code % 256 < 128 then some (Char.ofNat (code % 256)) else none

/-- The character that exactly so many hexadecimal digits name, with the text after them. -/
def hexChar? (count : Nat) (text : List Char) : Option (Char × List Char) :=
  let digits := text.take count
  if digits.length = count ∧ digits.all isHexDigit then
    (codePoint? (ofDigits 16 digits)).map fun c => (c, text.drop count)
  else none

/-- The same, where a plus sign may stand for the first digit. -/
def signedHexChar? (count : Nat) (text : List Char) : Option (Char × List Char) :=
  match text with
  | '+' :: rest => hexChar? (count - 1) rest
  | _ => hexChar? count text

/-- What a backslash stands for, given the text after it, and the rest of that text. -/
def numberedEscape (text : List Char) : Option (Char × List Char) :=
  match text with
  | [] => none
  | 'b' :: rest => some ('\x08', rest)
  | 'f' :: rest => some ('\x0c', rest)
  | 'n' :: rest => some ('\n', rest)
  | 'r' :: rest => some ('\r', rest)
  | 't' :: rest => some ('\t', rest)
  | 'u' :: rest => signedHexChar? 4 rest
  | 'U' :: rest => signedHexChar? 8 rest
  | 'x' :: rest =>
      match (rest.take 2).takeWhile isHexDigit with
      | [] => some ('x', rest)
      | digits => (byteChar? (ofDigits 16 digits)).map fun c => (c, rest.drop digits.length)
  | c :: rest =>
      if isOctalDigit c then
        let digits := c :: (rest.take 2).takeWhile isOctalDigit
        (byteChar? (ofDigits 8 digits)).map fun c => (c, rest.drop (digits.length - 1))
      else some (c, rest)

/-- The rest of a literal in which no escape may stand for the character zero; every turn takes a
character, so `fuel` is their number. -/
def escapedBody : Nat → List Char → Option (List Char × List Char)
  | _, [] => none
  | 0, _ :: _ => none
  | fuel + 1, '\'' :: '\'' :: rest =>
      (escapedBody fuel rest).map fun (text, left) => ('\'' :: text, left)
  | _ + 1, '\'' :: rest => some ([], rest)
  | fuel + 1, '\\' :: rest =>
      match numberedEscape rest with
      | none => none
      | some (c, rest) =>
          if c == '\x00' then none
          else (escapedBody fuel rest).map fun (text, left) => (c :: text, left)
  | fuel + 1, c :: rest => (escapedBody fuel rest).map fun (text, left) => (c :: text, left)

/-- The rest of a literal in which a backslash names a character by its code point. -/
def unicodeBody : Nat → List Char → Option (List Char × List Char)
  | _, [] => none
  | 0, _ :: _ => none
  | fuel + 1, '\'' :: '\'' :: rest =>
      (unicodeBody fuel rest).map fun (text, left) => ('\'' :: text, left)
  | _ + 1, '\'' :: rest => some ([], rest)
  | fuel + 1, '\\' :: '\\' :: rest =>
      (unicodeBody fuel rest).map fun (text, left) => ('\\' :: text, left)
  | fuel + 1, '\\' :: rest =>
      let named :=
        match rest with
        | '+' :: rest' => hexChar? 6 rest'
        | _ => hexChar? 4 rest
      match named with
      | none => none
      | some (c, rest) => (unicodeBody fuel rest).map fun (text, left) => (c :: text, left)
  | fuel + 1, c :: rest => (unicodeBody fuel rest).map fun (text, left) => (c :: text, left)

/-- The text up to the first occurrence of `close`, and what follows it. -/
def untilText (close : List Char) : List Char → Option (List Char × List Char)
  | [] => if close.isEmpty then some ([], []) else none
  | c :: rest =>
      if close.isPrefixOf (c :: rest) then some ([], (c :: rest).drop close.length)
      else (untilText close rest).map fun (text, left) => (c :: text, left)

/-- A dollar sign opens a literal with an optional label, or names a placeholder. -/
def dollarValue (rest : List Char) : Step :=
  match rest with
  | '$' :: rest => literal (.dollar "") (untilText ['$', '$'] rest)
  | _ =>
      let isTag := fun c => isLetterOrNumeric c || c == '_'
      let label := rest.takeWhile isTag
      match rest.dropWhile isTag with
      | '$' :: left =>
          literal (.dollar (String.ofList label)) (untilText ('$' :: label ++ ['$']) left)
      | left => done (.placeholder (String.ofList ('$' :: label))) left

/-! ## Literals that a letter opens -/

def markedLiteral (d : Dialect) (c : Char) (rest : List Char) : Option Step :=
  let mark := String.singleton c.toUpper
  match rest with
  | '\'' :: body =>
      match c with
      | 'B' | 'b' => if d.byteStrings then some (dialectString d mark '\'' .none body) else none
      | 'R' | 'r' => if d.rawStrings then some (stringOrTriple mark '\'' .none body) else none
      | 'N' | 'n' => some (literal .national (stringBody '\'' (.ofDialect d) body))
      | 'E' | 'e' =>
          if d.escapeStrings then some (literal .escaped (escapedBody body.length body)) else none
      | 'X' | 'x' => some (literal .hex (stringBody '\'' .all body))
      | _ => none
  | '"' :: body =>
      match c with
      | 'B' | 'b' => if d.byteStrings then some (dialectString d mark '"' .none body) else none
      | 'R' | 'r' => if d.rawStrings then some (stringOrTriple mark '"' .none body) else none
      | _ => none
  | '&' :: '\'' :: body =>
      match c with
      | 'U' | 'u' =>
          if d.unicodeStrings then some (literal .unicode (unicodeBody body.length body)) else none
      | _ => none
  | _ => none

end Lexer

end TableLineage.Sql
