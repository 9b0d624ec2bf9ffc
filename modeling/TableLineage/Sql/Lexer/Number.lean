import TableLineage.Sql.Lexer.Quoted

/-!
# Numbers

A number is digits with at most one point, an exponent and a mark for a long
integer.  Where identifiers may start with digits, what looks like a number may
turn out to be a word.
-/

namespace TableLineage.Sql

open TableLineage.Text

namespace Lexer

/-- The longest run of digits, with single underscores before digits where the dialect has
those. -/
def digitRun (isDigit : Char → Bool) (underscores : Bool) : List Char → List Char × List Char
  | [] => ([], [])
  | c :: rest =>
      let separates := underscores && c == '_' && rest.head?.any isHexDigit
      if isDigit c || separates then
        let (text, left) := digitRun isDigit underscores rest
        (c :: text, left)
      else ([], c :: rest)

/-- What an exponent amounts to: none at all, a mark that no digits follow and that stays unread,
or an exponent. -/
inductive Exponent
  | missing
  | bare
  | read (text rest : List Char)
deriving DecidableEq, Repr

def exponent (text : List Char) : Exponent :=
  match text with
  | e :: rest =>
      if e == 'e' || e == 'E' then
        let (sign, rest) : List Char × List Char :=
          match rest with
          | s :: rest' => if s == '+' || s == '-' then ([s], rest') else ([], rest)
          | [] => ([], [])
        match rest.takeWhile isAsciiDigit with
        | [] => .bare
        | digits => .read (e :: sign ++ digits) (rest.dropWhile isAsciiDigit)
      else .missing
  | [] => .missing

def longNumber (text : List Char) (rest : List Char) : Step :=
  match rest with
  | 'L' :: rest => done (.number (String.ofList text) true) rest
  | _ => done (.number (String.ofList text) false) rest

/-- What stands after the digits and the point, `mantissa`, of a number. -/
def numberEnd (d : Dialect) (afterPeriod : Bool) (mantissa rest : List Char) : Step :=
  let asWord := d.numericPrefix && afterPeriod
  match exponent rest with
  | .missing =>
      if d.numericPrefix && rest.head?.any d.isIdentPart then
        done (.word (Word.bare (mantissa ++ rest.takeWhile d.isIdentPart)))
          (rest.dropWhile d.isIdentPart)
      else longNumber mantissa rest
  | .bare => if asWord then done (.word (Word.bare mantissa)) rest else longNumber mantissa rest
  | .read power rest =>
      if asWord then done (.word (Word.bare (mantissa ++ power))) rest
      else longNumber (mantissa ++ power) rest

/-- A number, hexadecimal digits after `0x`, or a lone period.  `afterWord` and `afterPeriod`
tell what kind of token ends where it starts. -/
def number (d : Dialect) (afterWord afterPeriod : Bool) (text : List Char) : Step :=
  let run := digitRun isAsciiDigit d.underscoredNumbers
  let (whole, rest) := run text
  match whole, rest with
  | ['0'], 'x' :: body =>
      let (digits, left) := digitRun isHexDigit d.underscoredNumbers body
      done (.string .hex (String.ofList digits)) left
  | _, _ =>
      let (point, rest) : List Char × List Char :=
        match rest with
        | '.' :: rest' => (['.'], rest')
        | _ => ([], rest)
      if whole.isEmpty && d.numericPrefix && afterWord then symbol "." rest
      else
        let (fraction, rest) := run rest
        let mantissa := whole ++ point ++ fraction
        if mantissa == ['.'] then symbol "." rest else numberEnd d afterPeriod mantissa rest

def wordFrom (d : Dialect) (start rest : List Char) : Step :=
  done (.word (Word.bare (start ++ rest.takeWhile d.isIdentPart)))
    (rest.dropWhile d.isIdentPart)

def isNumberText (text : List Char) : Bool :=
  text.all fun c => isAsciiDigit c || c == '.'

def identOrNumber (d : Dialect) (start rest : List Char) : Step :=
  let text := start ++ rest.takeWhile d.isIdentPart
  let left := rest.dropWhile d.isIdentPart
  if isNumberText text then
    let isPart := fun c => isAsciiDigit c || c == '.'
    done (.number (String.ofList (text ++ left.takeWhile isPart)) false) (left.dropWhile isPart)
  else done (.word (Word.bare text)) left

end Lexer

end TableLineage.Sql
