import TableLineage.Sql.Grammar.TypeName

/-!
# Date fields and intervals

An interval is an amount with a field to count in, which some dialects let one
leave out.
-/

namespace TableLineage.Sql

open Sql.Parser

def dateField : Parser String := do
  let d ← dialect
  match ← next with
  | some (.word word) =>
      if dateFields.contains word.keyword then
        writeText word.keyword
        if word.keyword == "WEEK" && d.weekOfDay && (← atSymbol "(") then
          tightParens skipIdentifier
          pure word.keyword
        else pure word.keyword
      else if d.extractAnyField then
        writeIdent word.ident
        pure ""
      else fail
  | some (.string .single text) =>
      if d.extractAnyField then
        writeText (StringKind.single.wording text)
        pure ""
      else fail
  | _ => fail

def temporalUnits : List String :=
  ["YEAR", "YEARS", "MONTH", "MONTHS", "WEEK", "WEEKS", "DAY", "DAYS", "HOUR", "HOURS", "MINUTE",
    "MINUTES", "SECOND", "SECONDS", "CENTURY", "DECADE", "DOW", "DOY", "EPOCH", "ISODOW",
    "ISOYEAR", "JULIAN", "MICROSECOND", "MICROSECONDS", "MILLENIUM", "MILLENNIUM", "MILLISECOND",
    "MILLISECONDS", "NANOSECOND", "NANOSECONDS", "QUARTER", "TIMEZONE", "TIMEZONE_HOUR",
    "TIMEZONE_MINUTE"]

def fieldPrecision? : Parser Unit := ifNext (atSymbol "(") (parenthesized wholeNumber)

/-- What follows the first field of an interval; seconds have their two precisions in one pair
of parentheses. -/
def intervalPrecision (unit : String) : Parser Unit := do
  if unit == "SECOND" then
    ifNext (atSymbol "(") (parenthesized do
      wholeNumber
      ifNext (symbol? ",") wholeNumber)
  else
    fieldPrecision?
    ifNext (keyword? "TO") do
      let last ← dateField
      if last == "SECOND" then fieldPrecision? else pure ()

def interval (r : Rules) : Parser Expr := do
  let needsUnit ← has Dialect.intervalNeedsUnit
  let amount ← if needsUnit then r.expr 0 else r.prefixExpr
  let unit ←
    if ← atAnyKeyword temporalUnits then dateField
    else if needsUnit then fail
    else pure ""
  intervalPrecision unit
  pure (.of amount.mentions)

end TableLineage.Sql
