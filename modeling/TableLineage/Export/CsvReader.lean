/-!
# Reading comma-separated text

What a text of records consists of, and a reader for it.  A record ends in a
line feed, which the last one may lack, and its fields are separated by commas.
A field between quotes may hold anything, its own quotes doubled; any other
field holds neither commas nor quotes nor line breaks.  Text that is empty holds
no record.
-/

namespace TableLineage.Export.Csv

def isBare (c : Char) : Bool := c != ',' && c != '"' && c != '\r' && c != '\n'

inductive Quoted : List Char → List Char → Prop
  | nil : Quoted [] []
  | plain {c : Char} {body value : List Char} :
      c ≠ '"' → Quoted body value → Quoted (c :: body) (c :: value)
  | pair {body value : List Char} :
      Quoted body value → Quoted ('"' :: '"' :: body) ('"' :: value)

inductive IsField : List Char → List Char → Prop
  | bare {text : List Char} : (∀ c ∈ text, isBare c = true) → IsField text text
  | quoted {body value : List Char} :
      Quoted body value → IsField ('"' :: (body ++ ['"'])) value

inductive IsRecord : List Char → List (List Char) → Prop
  | last {text value : List Char} : IsField text value → IsRecord text [value]
  | more {text value rest : List Char} {values : List (List Char)} :
      IsField text value → IsRecord rest values → IsRecord (text ++ ',' :: rest) (value :: values)

inductive IsFile : List Char → List (List (List Char)) → Prop
  | nil : IsFile [] []
  | unended {text : List Char} {fields : List (List Char)} :
      IsRecord text fields → text ≠ [] → IsFile text [fields]
  | ended {text rest : List Char} {fields : List (List Char)} {records : List (List (List Char))} :
      IsRecord text fields → IsFile rest records → IsFile (text ++ '\n' :: rest) (fields :: records)

inductive Place
  | front | bare | quoted
  /-- Behind a quote that closes the field unless another one follows. -/
  | closing
deriving DecidableEq, Repr

structure Reading where
  records : List (List (List Char))
  /-- The fields in front of the one that is read. -/
  fields : List (List Char)
  value : List Char
  place : Place
deriving DecidableEq, Repr

namespace Reading

def push (reading : Reading) (c : Char) (place : Place) : Reading :=
  { reading with value := reading.value ++ [c], place := place }

def endField (reading : Reading) : Reading :=
  ⟨reading.records, reading.fields ++ [reading.value], [], .front⟩

def endRecord (reading : Reading) : Reading :=
  ⟨reading.records ++ [reading.fields ++ [reading.value]], [], [], .front⟩

def delimit (reading : Reading) (c : Char) : Option Reading :=
  if c = ',' then some reading.endField
  else if c = '\n' then some reading.endRecord
  else none

def next (reading : Reading) (c : Char) : Option Reading :=
  match reading.place with
  | .front =>
      if c = '"' then some { reading with place := .quoted }
      else if isBare c then some (reading.push c .bare)
      else reading.delimit c
  | .bare => if isBare c then some (reading.push c .bare) else reading.delimit c
  | .quoted =>
      if c = '"' then some { reading with place := .closing } else some (reading.push c .quoted)
  | .closing => if c = '"' then some (reading.push c .quoted) else reading.delimit c

/-- The records at the end of the text; the last one may lack its line end. -/
def finish (reading : Reading) : Option (List (List (List Char))) :=
  match reading.place with
  | .front =>
      if reading.fields = [] then some reading.records else some reading.endRecord.records
  | .quoted => none
  | _ => some reading.endRecord.records

def run (reading : Reading) (text : List Char) : Option Reading := text.foldlM next reading

end Reading

def records? (text : List Char) : Option (List (List (List Char))) :=
  (Reading.run ⟨[], [], [], .front⟩ text).bind Reading.finish

end TableLineage.Export.Csv
