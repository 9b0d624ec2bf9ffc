import TableLineage.Json.Value
import TableLineage.Number.Power
import TableLineage.Text.Utf8

/-!
# Reading JSON

A reader takes a value off the text and knows which kind of value it wants, so
that the first fault of the text in reading order is the one reported, be it
of syntax or of type.  Values that are kept may nest to a limit; a value that
is skipped may nest without one, and its numbers need not fit anything.
-/

namespace TableLineage.Json

open TableLineage.Number

structure Limits where
  /-- The number of composite values that may still be opened. -/
  depth : Nat
  /-- More than there are characters ahead, each step of a loop taking at least one. -/
  steps : Nat
deriving DecidableEq, Repr

def Reader (α : Type) : Type := Limits → Cursor → Except Failure (α × Cursor)

namespace Reader

instance : Monad Reader where
  pure a := fun _ cursor => .ok (a, cursor)
  bind p f := fun limits cursor =>
    match p limits cursor with
    | .ok (a, cursor) => f a limits cursor
    | .error failure => .error failure

def failHere (fault : Fault) : Reader α := fun _ cursor => .error (.placed fault cursor.place)

def failNext (fault : Fault) : Reader α := fun _ cursor =>
  match cursor.ahead with
  | [] => .error (.placed fault cursor.place)
  | c :: _ => .error (.placed fault (cursor.place.into c))

def failAround (fault : Fault) : Reader α := fun _ cursor => .error (.unplaced fault cursor)

def peek : Reader (Option Char) := fun _ cursor => .ok (cursor.ahead.head?, cursor)

def next : Reader (Option Char) := fun _ cursor =>
  match cursor.ahead with
  | [] => .ok (none, cursor)
  | c :: ahead => .ok (some c, ⟨ahead, cursor.place.after c⟩)

def skip : Reader Unit := do
  let _ ← next

def budget : Reader Nat := fun limits cursor => .ok (limits.steps, cursor)

def takeWhile (accepts : Char → Bool) : Reader (List Char) := fun _ cursor =>
  .ok (cursor.ahead.takeWhile accepts, cursor.skipWhile accepts)

def skipBlanks : Reader Unit := fun _ cursor => .ok ((), cursor.pastBlanks)

def peekToken : Reader (Option Char) := do
  skipBlanks
  peek

def word : List Char → Reader Unit
  | [] => pure ()
  | expected :: letters => fun limits cursor =>
      match cursor.ahead with
      | [] => .error (.placed .endInValue cursor.place)
      | c :: ahead =>
          if c = expected then word letters limits ⟨ahead, cursor.place.after c⟩
          else .error (.placed .expectedWord (cursor.place.into c))

def hexDigit? (c : Char) : Option Nat :=
  if '0' ≤ c ∧ c ≤ '9' then some (c.toNat - '0'.toNat)
  else if 'a' ≤ c ∧ c ≤ 'f' then some (c.toNat - 'a'.toNat + 10)
  else if 'A' ≤ c ∧ c ≤ 'F' then some (c.toNat - 'A'.toNat + 10)
  else none

def hexValue? (digits : List Char) : Option Nat :=
  digits.foldl (fun value c => do
    let value ← value
    let digit ← hexDigit? c
    some (16 * value + digit)) (some 0)

def hexEscape : Reader Nat := fun _ cursor =>
  let digits := cursor.ahead.take 4
  if Text.byteSize digits < 4 then
    .error (.placed .endInString (cursor.place.afterAll cursor.ahead))
  else
    match hexValue? digits with
    | some value => .ok (value, ⟨cursor.ahead.drop 4, cursor.place.afterAll digits⟩)
    | none => .error (.placed .invalidEscape (cursor.place.afterBytes 4 digits))

def pairing (c : Char) : Reader Unit := do
  match ← peek with
  | none => failHere .endInString
  | some found => if found = c then skip else failNext .endOfHexEscape

/-- The character of a hexadecimal escape, or of two that form a surrogate pair. -/
def hexCharacter : Reader Char := do
  let first ← hexEscape
  if 0xDC00 ≤ first ∧ first ≤ 0xDFFF then failHere .loneSurrogate
  else if first < 0xD800 ∨ 0xDFFF < first then pure (Char.ofNat first)
  else
    pairing '\\'
    pairing 'u'
    let second ← hexEscape
    if second < 0xDC00 ∨ 0xDFFF < second then failHere .loneSurrogate
    else pure (Char.ofNat (0x10000 + (first - 0xD800) * 0x400 + (second - 0xDC00)))

def simpleEscape? : Char → Option Char
  | '"' => some '"'
  | '\\' => some '\\'
  | '/' => some '/'
  | 'b' => some '\x08'
  | 'f' => some '\x0c'
  | 'n' => some '\n'
  | 'r' => some '\r'
  | 't' => some '\t'
  | _ => none

def escape : Reader Char := do
  match ← peek with
  | none => failHere .endInString
  | some 'u' =>
      skip
      hexCharacter
  | some c =>
      match simpleEscape? c with
      | some meant =>
          skip
          pure meant
      | none => failNext .invalidEscape

def isControl (c : Char) : Bool := c.toNat < 32

/-- The rest of a string; `before` holds its start, the last character first. -/
def stringFrom : Nat → List Char → Reader String
  | 0, _ => failHere .endInString
  | budget + 1, before => do
      match ← next with
      | none => failHere .endInString
      | some '"' => pure (String.ofList before.reverse)
      | some '\\' => stringFrom budget ((← escape) :: before)
      | some c =>
          if isControl c then failHere .controlCharacter else stringFrom budget (c :: before)

def stringBody : Reader String := do
  stringFrom (← budget) []

def skipStringFrom : Nat → Reader Unit
  | 0 => failHere .endInString
  | budget + 1 => do
      match ← peek with
      | none => failHere .endInString
      | some '"' => skip
      | some '\\' =>
          skip
          match ← peek with
          | none => failHere .endInString
          | some 'u' =>
              skip
              let _ ← hexEscape
              skipStringFrom budget
          | some c =>
              if (simpleEscape? c).isSome then
                skip
                skipStringFrom budget
              else failNext .invalidEscape
      | some c =>
          if isControl c then failHere .controlCharacter
          else
            skip
            skipStringFrom budget

def isDigit (c : Char) : Bool := '0' ≤ c && c ≤ '9'

def digitValue (c : Char) : Nat := c.toNat - '0'.toNat

def digits : Reader (List Char) := takeWhile isDigit

def wholeDigits : Reader (List Char) := do
  match ← peek with
  | none => failHere .endInValue
  | some '0' =>
      skip
      match ← peek with
      | some c => if isDigit c then failNext .invalidNumber else pure ['0']
      | none => pure ['0']
  | some c => if isDigit c then digits else failNext .invalidNumber

/-- Appends digits as long as the number fits 64 bits; the count is of those that did. -/
def absorb (significand : Nat) : List Char → Nat × Nat
  | [] => (significand, 0)
  | c :: digits =>
      let grown := significand * 10 + digitValue c
      if grown < Number.wordLimit then
        let (significand, count) := absorb grown digits
        (significand, count + 1)
      else (significand, 0)

def rounded (negative : Bool) : Option Magnitude → Reader Numeral
  | some magnitude => pure (.real negative magnitude)
  | none => failHere .numberOutOfRange

def real (negative : Bool) (significand : Nat) (exponent : Int) : Reader Numeral :=
  rounded negative (Magnitude.ofDecimal? significand exponent)

def exponentLimit : Nat := Number.twoTo 31

/-- The digits of an exponent; none when it exceeds 31 bits, with only the digits read that
show this. -/
def exponentFrom : Nat → Nat → Reader (Option Nat)
  | 0, value => pure (some value)
  | budget + 1, value => do
      match ← peek with
      | some c =>
          if isDigit c then
            skip
            let grown := value * 10 + digitValue c
            if grown < exponentLimit then exponentFrom budget grown else pure none
          else pure (some value)
      | none => pure (some value)

def exponentSign : Reader Bool := do
  match ← peek with
  | some '-' =>
      skip
      pure true
  | some '+' =>
      skip
      pure false
  | _ => pure false

def clampExponent (exponent : Int) : Int :=
  max (-(exponentLimit : Int)) (min ((exponentLimit : Int) - 1) exponent)

def exponentPart (negative : Bool) (significand : Nat) (shift : Int) : Reader Numeral := do
  skip
  let down ← exponentSign
  match ← peek with
  | none => failHere .endInValue
  | some c =>
      if isDigit c then
        match ← exponentFrom (← budget) 0 with
        | some exponent =>
            real negative significand
              (clampExponent (if down then shift - exponent else shift + exponent))
        | none =>
            if significand = 0 ∨ down then
              let _ ← digits
              pure (.real negative .zero)
            else failHere .numberOutOfRange
      else failNext .invalidNumber

def atExponent : Reader Bool := do
  let c ← peek
  pure (c == some 'e' || c == some 'E')

def fractionPart (negative : Bool) (significand : Nat) (shift : Int) : Reader Numeral := do
  skip
  let fraction ← digits
  if fraction.isEmpty then
    match ← peek with
    | some _ => failNext .invalidNumber
    | none => failHere .endInValue
  else
    let (significand, count) := absorb significand fraction
    if ← atExponent then exponentPart negative significand (shift - count)
    else real negative significand (shift - count)

def number (negative : Bool) : Reader Numeral := do
  let whole ← wholeDigits
  let (significand, count) := absorb 0 whole
  let shift := whole.length - count
  if (← peek) == some '.' then fractionPart negative significand shift
  else if ← atExponent then exponentPart negative significand shift
  else if 0 < shift then real negative significand shift
  else if !negative then pure (.whole significand)
  else if significand = 0 ∨ Number.signedLimit < significand then real true significand 0
  else pure (.whole (-significand))

def skipExponent : Reader Unit := do
  skip
  let _ ← exponentSign
  match ← peek with
  | some c =>
      if isDigit c then
        let _ ← digits
      else failNext .invalidNumber
  | none => failHere .invalidNumber

def skipNumber : Reader Unit := do
  match ← peek with
  | none => failHere .invalidNumber
  | some _ =>
      let _ ← wholeDigits
  if (← peek) == some '.' then
    skip
    let fraction ← digits
    if fraction.isEmpty then failNext .invalidNumber
    else if ← atExponent then skipExponent
    else pure ()
  else if ← atExponent then skipExponent
  else pure ()

def deeper (p : Reader α) : Reader α := fun limits cursor =>
  match limits.depth with
  | 0 => failNext .tooDeep limits cursor
  | depth + 1 => p { limits with depth } cursor

def listEnd : Reader Unit := do
  match ← peekToken with
  | some ']' => skip
  | some ',' =>
      skip
      if (← peekToken) == some ']' then failNext .trailingComma
      else failNext .trailingCharacters
  | some _ => failNext .trailingCharacters
  | none => failNext .endInList

def objectEnd : Reader Unit := do
  match ← peekToken with
  | some '\x7d' => skip
  | some ',' => failNext .trailingComma
  | some _ => failNext .trailingCharacters
  | none => failNext .endInObject

def placing (stop : Cursor → Cursor) (p : Reader α) : Reader α := fun limits cursor =>
  match p limits cursor with
  | .error (.unplaced fault stopped) => .error (.placed fault (stop stopped).place)
  | result => result

def listBody (p : Reader α) : Reader α := deeper do
  skip
  placing Cursor.listStop do
    let a ← p
    listEnd
    pure a

def objectBody (p : Reader α) : Reader α := deeper do
  skip
  placing Cursor.objectStop do
    let a ← p
    objectEnd
    pure a

def nextItem (first : Bool) : Reader Bool := do
  match ← peekToken with
  | none => failNext .endInList
  | some ']' => pure false
  | some c =>
      if first then pure true
      else if c = ',' then
        skip
        match ← peekToken with
        | some ']' => failNext .trailingComma
        | some _ => pure true
        | none => failNext .endInValue
      else failNext .expectedListEnd

def nextMember (first : Bool) : Reader Bool := do
  match ← peekToken with
  | none => failNext .endInObject
  | some '\x7d' => pure false
  | some c =>
      if first then if c = '"' then pure true else failNext .keyNotString
      else if c = ',' then
        skip
        match ← peekToken with
        | some '"' => pure true
        | some '\x7d' => failNext .trailingComma
        | some _ => failNext .keyNotString
        | none => failNext .endInValue
      else failNext .expectedObjectEnd

def key : Reader String := do
  skip
  stringBody

def colon : Reader Unit := do
  match ← peekToken with
  | some ':' => skip
  | some _ => failNext .expectedColon
  | none => failNext .endInObject

def itemsFrom (item : Reader α) : Nat → Bool → Reader (List α)
  | 0, _ => failHere .endInList
  | budget + 1, first => do
      if ← nextItem first then
        let a ← item
        let items ← itemsFrom item budget false
        pure (a :: items)
      else pure []

def items (item : Reader α) : Reader (List α) := do
  itemsFrom item (← budget) true

/-- Folds over the members of an object; `member` reads the colon and the value. -/
def membersFrom (member : String → σ → Reader σ) : Nat → Bool → σ → Reader σ
  | 0, _, _ => failHere .endInObject
  | budget + 1, first, state => do
      if ← nextMember first then
        let name ← key
        membersFrom member budget false (← member name state)
      else pure state

def members (member : String → σ → Reader σ) (state : σ) : Reader σ := do
  membersFrom member (← budget) true state

def valueMember (value : Reader Value) (name : String) (before : List (String × Value)) :
    Reader (List (String × Value)) := do
  colon
  let a ← value
  pure ((name, a) :: before)

def valueOf (inner : Reader Value) : Reader Value := do
  match ← peekToken with
  | none => failNext .endInValue
  | some 'n' =>
      skip
      word ['u', 'l', 'l']
      pure .null
  | some 't' =>
      skip
      word ['r', 'u', 'e']
      pure (.boolean true)
  | some 'f' =>
      skip
      word ['a', 'l', 's', 'e']
      pure (.boolean false)
  | some '-' =>
      skip
      pure (.number (← number true))
  | some '"' =>
      skip
      pure (.string (← stringBody))
  | some '[' => pure (.array (← listBody (items inner)))
  | some '\x7b' =>
      let found ← objectBody (members (valueMember inner) [])
      pure (.object found.reverse)
  | some c => if isDigit c then pure (.number (← number false)) else failNext .expectedValue

/-- Values nested to a depth; deeper ones are refused by the limit of the reader. -/
def valueWithin : Nat → Reader Value
  | 0 => valueOf (failNext .tooDeep)
  | depth + 1 => valueOf (valueWithin depth)

def value : Reader Value := fun limits cursor => valueWithin limits.depth limits cursor

inductive Nesting
  | list | object
deriving DecidableEq

inductive Stage
  | value | opened | closed

def skipKey : Reader Unit := do
  match ← peekToken with
  | some '"' =>
      skip
      skipStringFrom (← budget)
      colon
  | some _ => failNext .keyNotString
  | none => failNext .endInObject

def skipLeaf (c : Char) : Reader Unit := do
  match c with
  | 'n' =>
      skip
      word ['u', 'l', 'l']
  | 't' =>
      skip
      word ['r', 'u', 'e']
  | 'f' =>
      skip
      word ['a', 'l', 's', 'e']
  | '-' =>
      skip
      skipNumber
  | '"' =>
      skip
      skipStringFrom (← budget)
  | _ => if isDigit c then skipNumber else failNext .expectedValue

def Nesting.close : Nesting → Char
  | .list => ']'
  | .object => '\x7d'

def skipFrom : Nat → Stage → List Nesting → Reader Unit
  | 0, _, _ => failHere .endInValue
  | budget + 1, .value, outer => do
      match ← peekToken with
      | none => failNext .endInValue
      | some '[' =>
          skip
          skipFrom budget .opened (.list :: outer)
      | some '\x7b' =>
          skip
          skipFrom budget .opened (.object :: outer)
      | some c =>
          skipLeaf c
          skipFrom budget .closed outer
  | _, .closed, [] => pure ()
  | _, .opened, [] => pure ()
  | budget + 1, stage, nesting :: outer => do
      let first := match stage with
        | .opened => true
        | _ => false
      match ← peekToken with
      | none => failNext (if nesting = .list then .endInList else .endInObject)
      | some c =>
          if c = nesting.close then
            skip
            skipFrom budget .closed outer
          else if !first && c != ',' then
            failNext (if nesting = .list then .expectedListEnd else .expectedObjectEnd)
          else
            if first then pure () else skip
            if nesting = .object then skipKey else pure ()
            skipFrom budget .value (nesting :: outer)

def skipValue : Reader Unit := do
  skipFrom (2 * (← budget)) .value []

def refuse (expected : String) : Reader α := do
  match ← peek with
  | some '[' => failHere (.wrongType .sequence expected)
  | some '\x7b' => failHere (.wrongType .map expected)
  | some c =>
      if c = 'n' || c = 't' || c = 'f' || c = '-' || c = '"' || isDigit c then
        let found ← valueOf (failNext .tooDeep)
        failHere (.wrongType found.found expected)
      else failNext .expectedValue
  | none => failNext .expectedValue

def peekValue : Reader Char := do
  match ← peekToken with
  | some c => pure c
  | none => failNext .endInValue

def string : Reader String := do
  if (← peekValue) = '"' then
    skip
    stringBody
  else refuse "a string"

def boolean : Reader Bool := do
  match ← peekValue with
  | 't' =>
      skip
      word ['r', 'u', 'e']
      pure true
  | 'f' =>
      skip
      word ['a', 'l', 's', 'e']
      pure false
  | _ => refuse "a boolean"

def optional (p : Reader α) : Reader (Option α) := do
  if (← peekToken) == some 'n' then
    skip
    word ['u', 'l', 'l']
    pure none
  else
    let a ← p
    pure (some a)

def sequence (item : Reader α) : Reader (List α) := do
  if (← peekValue) = '[' then listBody (items item) else refuse "a sequence"

/-! ## Records -/

structure FieldReader (σ : Type) where
  name : String
  read : σ → Reader σ
  /-- An object must have it. -/
  required : Bool := false
  /-- A list of fields may end before it. -/
  trailing : Bool := false

def fieldMember (fields : List (FieldReader σ)) (name : String) (state : List String × σ) :
    Reader (List String × σ) := do
  match fields.find? (·.name == name) with
  | some field =>
      if state.1.contains name then failAround (.duplicateField name)
      else
        colon
        let filled ← field.read state.2
        pure (name :: state.1, filled)
  | none =>
      colon
      skipValue
      pure state

/-- The fields as members of an object, in any order and with others between them. -/
def recordMembers (fields : List (FieldReader σ)) (start : σ) : Reader σ := do
  let (seen, filled) ← members (fieldMember fields) ([], start)
  match fields.find? fun field => field.required && !seen.contains field.name with
  | some field => failAround (.missingField field.name)
  | none => pure filled

def recordItems (expected : String) : Nat → List (FieldReader σ) → σ → Reader σ
  | _, [], state => pure state
  | index, field :: fields, state => do
      if ← nextItem (index == 0) then
        recordItems expected (index + 1) fields (← field.read state)
      else if field.trailing then recordItems expected index fields state
      else failAround (.wrongLength index expected)

def countedElements (n : Nat) : String := if n = 1 then "1 element" else s!"{n} elements"

def record (title : String) (fields : List (FieldReader σ)) (start : σ) : Reader σ := do
  match ← peekValue with
  | '[' =>
      listBody (recordItems s!"struct {title} with {countedElements fields.length}" 0 fields start)
  | '\x7b' => objectBody (recordMembers fields start)
  | _ => refuse s!"struct {title}"

/-! ## Whole texts -/

def depthLimit : Nat := 127

/-- Reads one value with nothing but blanks around it. -/
def ofText (p : Reader α) (text : List Char) : Except Failure α :=
  let whole : Reader α := do
    let a ← p
    match ← peekToken with
    | some _ => failNext .trailingCharacters
    | none => pure a
  match whole ⟨depthLimit, text.length + 1⟩ ⟨text, .start⟩ with
  | .ok (a, _) => .ok a
  | .error failure => .error failure

end Reader

end TableLineage.Json
