import TableLineage.Number.Power
import TableLineage.Toml.Item
import TableLineage.Toml.Text

/-!
# Values

The first character tells which kind of value to read, except among numbers and
dates, which are tried in turn.  Arrays and inline tables nest to a limit.
-/

namespace TableLineage.Toml.Reader

open TableLineage.Number

def nestingLimit : Nat := 80

def bareKey : Reader String := do
  pure (String.ofList (← takeSome isBareKeyChar))

def simpleKey : Reader Key := do
  let place ← left
  let name ←
    match ← peek with
    | none => miss
    | some '"' => basicString
    | some '\'' => literalString
    | some _ => bareKey
  pure ⟨name, place⟩

def spacedKey : Reader Key := do
  blanks
  let key ← simpleKey
  blanks
  pure key

/-- The keys of a dotted key, at least one. -/
def key : Reader (List Key) :=
  causing (fun keys => if keys.length < nestingLimit then .ok keys else .error .tooDeep)
    (naming "key" (separated spacedKey (char '.')))

def keyValueMark : Reader Unit := insist <| expecting ["`.`", "`=`"] do
  let _ ← char '='

def moreDigits (isWanted : Char → Bool) : Reader Unit := do
  let _ ← many (orElse (satisfy isWanted *> pure ()) do
    let _ ← char '_'
    let _ ← insist (expecting ["digit"] (satisfy isWanted)))

def sign : Reader Unit := do
  let _ ← option (satisfy fun c => c == '+' || c == '-')

def decimal : Reader (List Char) := naming "integer" <| taken do
  sign
  orElse (do
    let _ ← satisfy fun c => isDigit c && c != '0'
    moreDigits isDigit) (satisfy isDigit *> pure ())

def digitsAfter : Reader Unit := do
  let _ ← satisfy isDigit
  moreDigits isDigit

def exponent : Reader Unit := do
  let _ ← satisfy fun c => c == 'e' || c == 'E'
  sign
  insist digitsAfter

def fraction : Reader Unit := do
  let _ ← char '.'
  insist (expecting ["digit"] digitsAfter)

def digitsNumber (base : Nat) (digits : List Char) : Nat :=
  (digits.filter (· != '_')).foldl (fun value c => base * value + hexDigitValue c) 0

def integerOf (negative : Bool) (value : Nat) : Except Cause Int :=
  if negative then if value ≤ Number.signedLimit then .ok (-value) else .error .integerTooSmall
  else if value < Number.signedLimit then .ok value
  else .error .integerTooLarge

def signed : List Char → Bool × List Char
  | '-' :: digits => (true, digits)
  | '+' :: digits => (false, digits)
  | digits => (false, digits)

def decimalValue (text : List Char) : Except Cause Int :=
  let (negative, digits) := signed text
  integerOf negative (digitsNumber 10 digits)

def based (label : String) (mark : Char) (base : Nat) (isWanted : Char → Bool) : Reader Int :=
  insist <| causing (fun text => integerOf false (digitsNumber base text)) <| naming label do
    literal ['0', mark]
    insist <| taken do
      let _ ← satisfy isWanted
      moreDigits isWanted

def isOctal (c : Char) : Bool := '0' ≤ c && c ≤ '7'

def isBinary (c : Char) : Bool := c == '0' || c == '1'

def atLiteral (text : List Char) : Reader Bool := fun start => .ok (text.isPrefixOf start) start

def deciding (test : α → Except Complaint β) (p : Reader α) : Reader β := fun start =>
  match p start with
  | .ok a ahead =>
      match test a with
      | .ok b => .ok b ahead
      | .error complaint => .failed complaint start
  | .missed complaint ahead => .missed complaint ahead
  | .failed complaint ahead => .failed complaint ahead

def integer : Reader Scalar := do
  if ← atLiteral ['0', 'x'] then
    pure (.integer (← based "hexadecimal integer" 'x' 16 isHexDigit))
  else if ← atLiteral ['0', 'o'] then pure (.integer (← based "octal integer" 'o' 8 isOctal))
  else if ← atLiteral ['0', 'b'] then pure (.integer (← based "binary integer" 'b' 2 isBinary))
  else
    pure (.integer (← deciding (fun text => (decimalValue text).mapError .ofCause) decimal))

def floatParts (text : List Char) : List Char × List Char × Int :=
  let plain := text.filter (· != '_')
  let (mantissa, exponent) := plain.span fun c => c != 'e' && c != 'E'
  let (whole, fraction) := mantissa.span (· != '.')
  let (negative, digits) := signed (exponent.drop 1)
  let size : Int := digitsNumber 10 digits
  (whole, fraction.drop 1, if negative then -size else size)

/-- The number nearest to `digits · 10 ^ exponent`, zero where that is far too small. -/
def nearest? (digits : Nat) (count : Nat) (exponent : Int) : Option Magnitude :=
  if digits = 0 then some .zero
  else if exponent + count < -400 then some .zero
  else if 400 < exponent + count then none
  else Magnitude.round? (digits * tenTo exponent.toNat) (tenTo (-exponent).toNat)

def floatValue (text : List Char) : Except Complaint Float :=
  let (negative, digits) := signed text
  let (whole, fraction, exponent) := floatParts digits
  let all := whole ++ fraction
  match nearest? (digitsNumber 10 all) all.length (exponent - fraction.length) with
  | some magnitude => .ok (.finite negative magnitude)
  | none => if negative then .ok (.infinite true) else .error .none

def floatText : Reader (List Char) := taken do
  let _ ← decimal
  orElse exponent do
    fraction
    let _ ← option exponent

def infinity : Reader Unit := literal ['i', 'n', 'f']

def notNumber : Reader Unit := literal ['n', 'a', 'n']

def specialFloat : Reader Float := do
  let negative := (← option (satisfy fun c => c == '+' || c == '-')) == some '-'
  orElse (infinity *> pure (.infinite negative)) (notNumber *> pure .notNumber)

def float : Reader Scalar := naming "floating-point number" do
  pure (.float (← orElse (deciding floatValue floatText) specialFloat))

def twoDigits (least most : Nat) : Reader Nat :=
  causing (fun text =>
    let value := digitsNumber 10 text
    if least ≤ value ∧ value ≤ most then .ok value else .error .outOfRange)
    (takeBetween 2 2 isDigit)

def isLeapYear (year : Nat) : Bool := year % 4 == 0 && (year % 100 != 0 || year % 400 == 0)

def daysOfMonth (year month : Nat) : Nat :=
  if month = 2 then if isLeapYear year then 29 else 28
  else if [4, 6, 9, 11].contains month then 30
  else 31

def date : Reader Unit := do
  let year := digitsNumber 10 (← takeBetween 4 4 isDigit)
  let _ ← char '-'
  let month ← insist (twoDigits 1 12)
  let _ ← insist (char '-')
  let _ ← insist <| causing
    (fun day => if day ≤ daysOfMonth year month then .ok day else .error .outOfRange)
    (twoDigits 1 31)

def secondFraction : Reader Unit := do
  let _ ← char '.'
  let _ ← takeSome isDigit

def time : Reader Unit := do
  let _ ← twoDigits 0 23
  let _ ← char ':'
  insist do
    let _ ← twoDigits 0 59
    let _ ← char ':'
    let _ ← twoDigits 0 60
    let _ ← option secondFraction

def timeOffset : Reader Unit := naming "time offset" <|
  orElse (satisfy (fun c => c == 'Z' || c == 'z') *> pure ()) do
    let _ ← satisfy fun c => c == '+' || c == '-'
    insist do
      let _ ← twoDigits 0 23
      let _ ← char ':'
      let _ ← twoDigits 0 59

def timeOfDate : Reader Unit := do
  let _ ← satisfy fun c => c == 'T' || c == 't' || c == ' '
  time
  let _ ← option timeOffset

def dateTime : Reader Scalar := do
  orElse (naming "date-time" do
    date
    let _ ← option timeOfDate) (naming "time" time)
  pure .datetime

/-! ## Values of any kind -/

def asString (p : Reader α) : Reader α := naming "string" (expecting ["`\"`", "`'`"] p)

def named (text : List Char) (value : Scalar) : Reader Scalar := asString do
  literal text
  pure value

def scalar (c : Char) : Reader Scalar :=
  if c = '"' ∨ c = '\'' then do pure (.string (← string))
  else if c = '+' ∨ c = '-' ∨ isDigit c then orElse dateTime (orElse float integer)
  else if c = '_' then expecting ["leading digit"] integer
  else if c = '.' then expecting ["leading digit"] float
  else if c = 't' then insist (named ['t', 'r', 'u', 'e'] (.boolean true))
  else if c = 'f' then insist (named ['f', 'a', 'l', 's', 'e'] (.boolean false))
  else if c = 'i' then named ['i', 'n', 'f'] (.float (.infinite false))
  else if c = 'n' then named ['n', 'a', 'n'] (.float .notNumber)
  else asString miss

def arrayItem (value : Reader Item) : Reader Item := do
  gap
  let item ← value
  gap
  pure item

def arrayItems (value : Reader Item) : Reader (List Item) := do
  if (← peek) == some ']' then pure []
  else
    let items := (← option (separated (arrayItem value) (char ','))).getD []
    if items.isEmpty then pure () else
      let _ ← option (char ',')
    gap
    pure items

def array (value : Reader Item) : Reader (List Item) := do
  let _ ← char '['
  let items ← insist (arrayItems value)
  let _ ← insist (naming "array" (expecting ["`]`"] (char ']')))
  pure items

structure Assignment where
  path : List Key
  key : Key
  item : Item

def assign (keys : List Key) (item : Item) : Assignment :=
  ⟨keys.dropLast, keys.getLastD ⟨"", 0⟩, item⟩

def inlineAssignment (value : Reader Item) : Reader Assignment := do
  let keys ← key
  keyValueMark
  insist do
    blanks
    let item ← value
    blanks
    pure (assign keys item)

def inlineTableOf (place : Nat) (assignments : List Assignment) : Except Cause Table :=
  assignments.foldlM (fun table assignment =>
    insertAt true none assignment.path assignment.key assignment.item table)
    ({ inline := true, left := some place }, [])

def inlineTable (value : Reader Item) : Reader Table := do
  let place ← left
  let _ ← char '\x7b'
  let table ← insist <| causing (inlineTableOf place) do
    let assignments := (← option (separated (inlineAssignment value) (char ','))).getD []
    blanks
    pure assignments
  let _ ← insist (naming "inline table" (expecting ["`\x7d`"] (char '\x7d')))
  pure table

def valueOf (inner : Reader Item) : Reader Item := do
  let place ← left
  match ← peek with
  | none => miss
  | some '[' => pure (.array place (← array inner))
  | some '\x7b' =>
      let (info, entries) ← inlineTable inner
      pure (.table info entries)
  | some c => pure (.scalar place (← scalar c))

def tooDeep : Reader Item := fun ahead => .failed (.ofCause .tooDeep) ahead

def valueWithin : Nat → Reader Item
  | 0 => do
      match ← peek with
      | some '[' | some '\x7b' => tooDeep
      | _ => valueOf tooDeep
  | depth + 1 => valueOf (valueWithin depth)

def value : Reader Item := valueWithin (nestingLimit - 1)

end TableLineage.Toml.Reader
