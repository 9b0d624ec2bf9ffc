import TableLineage.Text.Utf8

/-!
# Complaints about a TOML text

A complaint collects, from the inside out, what was being read and what could
have stood at the place; some have a cause that lies in what was read itself.
Only the innermost name is reported, but everything that could have stood
there.
-/

namespace TableLineage.Toml

inductive Cause
  | outOfRange | tooDeep | integerTooLarge | integerTooSmall
  /-- The path is that of the table with the key, where it is known. -/
  | duplicateKey (key : String) (table : Option (List String))
  /-- The key of a header is shown as it would be written. -/
  | duplicateHeader (key : String) (table : List String)
  | extendsValue (path : List String) (kind : String)
deriving DecidableEq, Repr

def isBareKeyChar (c : Char) : Bool :=
  ('A' ≤ c && c ≤ 'Z') || ('a' ≤ c && c ≤ 'z') || ('0' ≤ c && c ≤ '9') || c == '-' || c == '_'

def isControl (c : Char) : Bool := c.toNat < 32 || c.toNat == 127

def hexDigit (n : Nat) : Char := "0123456789ABCDEF".toList.getD n '0'

def escapedText (c : Char) : List Char :=
  match c with
  | '\x08' => ['\\', 'b']
  | '\t' => ['\\', 't']
  | '\n' => ['\\', 'n']
  | '\x0c' => ['\\', 'f']
  | '\r' => ['\\', 'r']
  | '"' => ['\\', '"']
  | '\\' => ['\\', '\\']
  | c =>
      if isControl c then
        ['\\', 'u', '0', '0', hexDigit (c.toNat / 16), hexDigit (c.toNat % 16)]
      else [c]

/-- A key as it is best written: bare, or with apostrophes where they spare escapes, or as a string
with escapes. -/
def keyText (key : String) : String :=
  let letters := key.toList
  let hasEscapes := letters.any fun c => c == '"' || c == '\\'
  let isLiteral := letters.all fun c => c == '\t' || (!isControl c && c != '\'')
  if !letters.isEmpty && letters.all isBareKeyChar then key
  else if hasEscapes && isLiteral then "'" ++ key ++ "'"
  else "\"" ++ String.ofList (letters.flatMap escapedText) ++ "\""

def pathText (path : List String) : String := ".".intercalate path

def ownerText (table : List String) : String :=
  if table.isEmpty then "document root" else s!"table `{pathText table}`"

def Cause.message : Cause → String
  | .outOfRange => "value is out of range"
  | .tooDeep => "recursion limit exceeded"
  | .integerTooLarge => "number too large to fit in target type"
  | .integerTooSmall => "number too small to fit in target type"
  | .duplicateKey key none => s!"duplicate key `{key}`"
  | .duplicateKey key (some table) => s!"duplicate key `{key}` in {ownerText table}"
  | .duplicateHeader key table => s!"duplicate key `{keyText key}` in {ownerText table}"
  | .extendsValue path kind =>
      s!"dotted key `{pathText path}` attempted to extend non-table type ({kind})"

structure Complaint where
  label : Option String := none
  expected : List String := []
  cause : Option Cause := none
deriving DecidableEq, Repr

namespace Complaint

def none : Complaint := {}

def ofCause (cause : Cause) : Complaint := { cause := some cause }

/-- Names what was being read, unless something further in has a name. -/
def named (label : String) (complaint : Complaint) : Complaint :=
  { complaint with label := some (complaint.label.getD label) }

def expecting (text : String) (complaint : Complaint) : Complaint :=
  { complaint with expected := complaint.expected ++ [text] }

def lines (complaint : Complaint) : List String :=
  (complaint.label.map ("invalid " ++ ·)).toList ++
    (if complaint.expected.isEmpty then []
     else ["expected " ++ ", ".intercalate complaint.expected]) ++
    (complaint.cause.map Cause.message).toList

def message (complaint : Complaint) : String := "\n".intercalate complaint.lines

end Complaint

/-- A message with the number of characters left at the place it is about, where there is one. -/
structure Error where
  message : String
  left : Option Nat
deriving DecidableEq, Repr

structure Position where
  line : Nat
  column : Nat
deriving DecidableEq, Repr

def lastLine (text : List Char) : List Char := (text.reverse.takeWhile (· != '\n')).reverse

/-- Columns count characters, except that in front of a character beyond ASCII they count
bytes. -/
def columnBefore (before : List Char) (c : Char) : Nat :=
  if c.toNat < 128 then (lastLine before).length
  else Text.byteSize (lastLine before)

/-- Line and column, from zero, of the place behind `before`.  The end of the text is right
behind its last character. -/
def position (before after : List Char) : Position :=
  match after with
  | c :: _ => ⟨before.count '\n', columnBefore before c⟩
  | [] =>
      let earlier := before.dropLast
      ⟨earlier.count '\n', if before.isEmpty then 0 else (lastLine earlier).length + 1⟩

def lineAt : Nat → List Char → List Char
  | 0, text => text.takeWhile (· != '\n')
  | n + 1, text => lineAt n ((text.dropWhile (· != '\n')).drop 1)

def spaces (n : Nat) : String := String.ofList (List.replicate n ' ')

namespace Error

/-- The message under an excerpt of the text that points at the place. -/
def render (error : Error) (text : List Char) : String :=
  match error.left with
  | none => error.message ++ "\n"
  | some left =>
      let offset := text.length - left
      let place := position (text.take offset) (text.drop offset)
      let number := toString (place.line + 1)
      let margin := spaces (number.length + 1)
      let excerpt := String.ofList (lineAt place.line text)
      "\n".intercalate [
        s!"TOML parse error at line {number}, column {place.column + 1}",
        margin ++ "|",
        s!"{number} | " ++ excerpt,
        margin ++ "|" ++ spaces (place.column + 1) ++ "^",
        error.message,
        ""]

end Error

end TableLineage.Toml
