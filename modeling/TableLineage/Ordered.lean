/-!
# Collections in order of first insertion

A set is a list without repetitions and a map a list of entries with distinct
keys.  What comes first keeps its place: adding a member again changes
nothing, and a new value under an old key is put where the old one stood.
-/

namespace TableLineage.Ordered

def add [DecidableEq α] (members : List α) (a : α) : List α :=
  if a ∈ members then members else members ++ [a]

def addAll [DecidableEq α] (members : List α) (more : List α) : List α :=
  more.foldl add members

def firstSeen [DecidableEq α] (items : List α) : List α := addAll [] items

def lookup [DecidableEq κ] (key : κ) : List (κ × α) → Option α
  | [] => none
  | (k, a) :: entries => if k = key then some a else lookup key entries

/-- Changes the value under `key`, which is `initial` where the key is new. -/
def update [DecidableEq κ] (key : κ) (initial : α) (change : α → α) :
    List (κ × α) → List (κ × α)
  | [] => [(key, change initial)]
  | (k, a) :: entries =>
      if k = key then (k, change a) :: entries
      else (k, a) :: update key initial change entries

def put [DecidableEq κ] (entries : List (κ × α)) (entry : κ × α) : List (κ × α) :=
  update entry.1 entry.2 (fun _ => entry.2) entries

def ofEntries [DecidableEq κ] (entries : List (κ × α)) : List (κ × α) :=
  entries.foldl put []

end TableLineage.Ordered
