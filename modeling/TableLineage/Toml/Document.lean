import TableLineage.Toml.Value

/-!
# TOML documents

A document is a sequence of assignments under headers.  The table of a header
is kept apart while it is filled, and put in its place at the next header or
the end.
-/

namespace TableLineage.Toml

structure Draft where
  root : Table := ({}, [])
  current : Table := ({}, [])
  path : List Key := []
  isArray : Bool := false

namespace Draft

def names (path : List Key) : List String := path.map Key.name

def assign (draft : Draft) (assignment : Reader.Assignment) : Except Cause Draft := do
  let current ← insertAt false (some (names draft.path)) assignment.path assignment.key
    assignment.item draft.current
  .ok { draft with current }

/-- Puts a finished table under its key. -/
def place (isArray : Bool) (owner : List String) (key : Key) (table : Table) :
    Table → Except Cause Table
  | (info, entries) =>
      let repeated : Cause := .duplicateHeader key.name owner
      match Entries.find? key.name entries with
      | none =>
          let item := if isArray then Item.tables [table] else Item.table table.1 table.2
          .ok (info, entries ++ [(key, item)])
      | some (.tables all) =>
          if isArray then .ok (info, Entries.replace key.name (.tables (all ++ [table])) entries)
          else .error repeated
      | some (.table child _) =>
          if !isArray && child.implicit then
            .ok (info, Entries.replace key.name (.table table.1 table.2) entries)
          else .error repeated
      | some (.scalar ..) | some (.array ..) => .error repeated

def finish (draft : Draft) : Except Cause Table :=
  match draft.path.getLast? with
  | none => .ok draft.current
  | some key =>
      let parents := draft.path.dropLast
      descend false false (place draft.isArray (names parents) key draft.current) [] parents
        draft.root

/-- Takes a table that so far is only implied out of its place, to be filled under a header. -/
def takeImplied (key : Key) (entries : Entries) : Option (Entries × Entries) :=
  match Entries.find? key.name entries with
  | none => some ([], entries)
  | some (.table info children) =>
      if info.implicit && !info.dotted && !info.inline then
        some (children, Entries.remove key.name entries)
      else none
  | some _ => none

def openTable (place : Nat) (path : List Key) (draft : Draft) : Except Cause Draft := do
  let root ← draft.finish
  let parents := path.dropLast
  let key := path.getLastD ⟨"", 0⟩
  let repeated : Cause := .duplicateHeader key.name (names parents)
  let found ← descend false false (fun (info, entries) =>
    match takeImplied key entries with
    | some (_, entries) => .ok (info, entries)
    | none => .error repeated) [] parents root
  .ok {
    root := found
    current := ({ left := some place }, impliedEntries parents key root)
    path
    isArray := false }
where
  /-- What is already known inside of the table. -/
  impliedEntries : List Key → Key → Table → Entries
    | [], key, (_, entries) => ((takeImplied key entries).map (·.1)).getD []
    | parent :: parents, key, (_, entries) =>
        match Entries.find? parent.name entries with
        | some (.table info children) => impliedEntries parents key (info, children)
        | some (.tables all) => impliedEntries parents key (all.getLastD ({}, []))
        | _ => []

def openArrayTable (place : Nat) (path : List Key) (draft : Draft) : Except Cause Draft := do
  let root ← draft.finish
  let parents := path.dropLast
  let key := path.getLastD ⟨"", 0⟩
  let root ← descend false false (fun (info, entries) =>
    match Entries.find? key.name entries with
    | none => .ok (info, entries ++ [(key, .tables [])])
    | some (.tables _) => .ok (info, entries)
    | some _ => .error (.duplicateHeader key.name (names parents))) [] parents root
  .ok { root, current := ({ left := some place }, []), path, isArray := true }

end Draft

namespace Reader

/-! ## Expressions -/

def assignment : Reader Assignment := do
  let keys ← key
  keyValueMark
  insist do
    blanks
    let item ← value
    trailing
    pure (assign keys item)

def header (opening closing : List Char) (mark : String) : Reader (List Key) := do
  literal opening
  let path ← insist key
  insist (expecting ["`.`", mark] (literal closing))
  trailing
  pure path

def arrayHeader : Reader (List Key) := header ['[', '['] [']', ']'] "`]]`"

def tableHeader : Reader (List Key) := header ['['] [']'] "`]`"

/-- A header needs at least two characters to be one. -/
def opening : Reader Bool := fun ahead =>
  match ahead with
  | _ :: c :: _ => .ok (c = '[') ahead
  | _ => .missed .none ahead

def table (draft : Draft) : Reader Draft := naming "table header" do
  let place ← left
  if ← opening then causing (fun path => draft.openArrayTable place path) arrayHeader
  else causing (fun path => draft.openTable place path) tableHeader

def commentLine : Reader Unit := do
  comment
  lineEnd

def expressions : Nat → Draft → Reader Draft
  | 0, draft => pure draft
  | budget + 1, draft => do
      match ← peek with
      | none => pure draft
      | some '#' =>
          insist commentLine
          blanks
          expressions budget draft
      | some '\n' | some '\r' =>
          newline
          blanks
          expressions budget draft
      | some '[' =>
          let draft ← insist (table draft)
          blanks
          expressions budget draft
      | some _ =>
          let draft ← insist (causing draft.assign assignment)
          blanks
          expressions budget draft

def byteOrderMark : Char := '\ufeff'

def wholeText : Reader Draft := do
  let _ ← option (char byteOrderMark)
  blanks
  expressions ((← left) + 1) {}

end Reader

def entriesOfText (text : List Char) : Except Error Entries :=
  match Reader.wholeText text with
  | .ok draft _ =>
      match draft.finish with
      | .ok root => .ok root.2
      | .error cause => .error ⟨cause.message, none⟩
  | .missed complaint ahead => .error ⟨complaint.message, some ahead.length⟩
  | .failed complaint ahead => .error ⟨complaint.message, some ahead.length⟩

end TableLineage.Toml
