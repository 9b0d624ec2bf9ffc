import TableLineage.Number.Power
import TableLineage.Sql.Grammar.Name

/-!
# Literal values

Numbers, strings, the words for truth values and null, and placeholders.
-/

namespace TableLineage.Sql

open Sql.Parser

def wholeNumber? (limit : Nat) (text : String) : Option Nat :=
  if !text.isEmpty && text.toList.all Text.isAsciiDigit then text.toNat?.filter (· < limit)
  else none

def wholeNumberBelow (limit : Nat) : Parser Nat := do
  match ← next with
  | some (.number text _) =>
      match wholeNumber? limit text with
      | some value =>
          writeText (toString value)
          pure value
      | none => fail
  | _ => fail

def wholeNumber : Parser Unit := quietly (wholeNumberBelow Number.wordLimit)

/-- The text of a string where no other value may stand; a word without a meaning of its own
serves as one. -/
def literalText : Parser String := do
  let text ←
    match ← next with
    | some (.word word) =>
        require !word.isKeyword
        pure word.text
    | some (.string .single text) | some (.string .double text)
    | some (.string .unicode text) => pure text
    | some (.string .escaped text) =>
        require (← has Dialect.escapeStrings)
        pure text
    | _ => fail
  writeText (StringKind.single.wording text)
  pure text

def stringLiteral : Parser Unit := quietly literalText

def characterLiteral : Parser Unit := do
  require ((← literalText).utf8ByteSize == 1)

def singleString? : Parser Bool := do
  match ← ahead with
  | ⟨.string .single text, _⟩ :: rest =>
      resume rest
      writeText (StringKind.single.wording text)
      pure true
  | _ => pure false

def singleString : Parser Unit := do
  require (← singleString?)

def commentText : Parser Unit := do
  match ← next with
  | some (.string .single text) | some (.string (.dollar _) text) =>
      writeText (StringKind.single.wording text)
  | _ => fail

inductive LiteralKind
  | number
  | quoted
  | placeholder
  | other
deriving DecidableEq, Repr

/-- A placeholder behind its mark, right after which a name has to follow; digits serve as one
too. -/
def placeholderName (mark : String) : Parser LiteralKind := do
  match ← ahead with
  | ⟨.word word, false⟩ :: rest =>
      resume rest
      writeText (mark ++ word.text)
      pure .placeholder
  | ⟨.number digits false, false⟩ :: rest =>
      resume rest
      writeText (mark ++ digits)
      pure .placeholder
  | _ => fail

/-- Where literals that follow each other make up one, those after the first. -/
def adjoinedStrings : Parser Unit := do
  if ← has Dialect.adjoinedStrings then
    repeatedly do
      match ← ahead with
      | ⟨.string .single _, _⟩ :: rest | ⟨.string .double _, _⟩ :: rest =>
          resume rest
          pure true
      | _ => pure false
  else pure ()

def booleanWording (keyword : String) : String := if keyword == "TRUE" then "true" else "false"

def literal : Parser LiteralKind := do
  match ← next with
  | some (.word word) =>
      if word.keyword == "NULL" then
        writeText "NULL"
        pure .other
      else if word.keyword == "TRUE" || word.keyword == "FALSE" then
        require (← has Dialect.booleanLiterals)
        writeText (booleanWording word.keyword)
        pure .other
      else if word.quote == some '"' then
        writeIdent word.ident
        pure .quoted
      else fail
  | some (.number text long) =>
      writeText (numberWording text long)
      pure .number
  | some (.string kind text) =>
      writeText (kind.wording text)
      if kind == .single || kind == .double then
        adjoinedStrings
        pure .quoted
      else pure .other
  | some (.placeholder text) =>
      writeText text
      pure .placeholder
  | some (.symbol text) => if text == ":" || text == "@" then placeholderName text else fail
  | _ => fail

def value : Parser Unit := quietly literal

def numberValue : Parser Unit := do
  let kind ← literal
  require (kind == .number || kind == .placeholder)

end TableLineage.Sql
