import TableLineage.Sql.Grammar.Literal

/-!
# Properties

Names set to values, with commas or blanks between them.  A value is a word, a
text or a number, a list of those, or properties in turn.
-/

namespace TableLineage.Sql

open Sql.Parser

namespace Property

def list : Parser Unit := quietly (parenthesized (separatedOrNone (atSymbol ")") value))

/-- What a property is set to; `nested` reads properties in parentheses. -/
def setting (nested : Parser Unit) : Parser Unit := do
  expectSymbol "="
  match ← peek with
  | some (.string .single _) | some (.number _ _) => value
  | some (.word word) =>
      if word.keyword == "TRUE" || word.keyword == "FALSE" then value else quietly next
  | some (.symbol "(") =>
      match ← attempt list with
      | some _ => pure ()
      | none => nested
  | _ => fail

/-- Properties in parentheses, of which the last may be missing at the end of the text; `budget`
bounds how deep they nest. -/
def groupFor : Nat → Parser Unit
  | 0 => fail
  | budget + 1 => do
      expectSymbol "("
      repeatedly do
        match ← next with
        | none | some (.symbol ")") => pure false
        | some (.symbol ",") => pure true
        | some (.word _) =>
            setting (groupFor budget)
            pure true
        | _ => fail

def group : Parser Unit := do
  groupFor (← env).steps

def afterName : Parser Unit := setting group

def upTo (ends : List String) : Parser Unit :=
  repeatedly do
    if ← atAnyKeyword ends then pure false
    else
      match ← next with
      | none => pure false
      | some (.symbol ",") => pure true
      | some (.word _) =>
          afterName
          pure true
      | _ => fail

/-- Properties in parentheses after the name that they belong to, if it comes next. -/
def ofName? (keyword : String) : Parser Unit :=
  ifNext (keyword? keyword) do
    expectSymbol "="
    group

end Property

end TableLineage.Sql
