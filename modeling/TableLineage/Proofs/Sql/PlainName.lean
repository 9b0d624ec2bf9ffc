import TableLineage.Proofs.Text.Letter
import TableLineage.Sql.Lexer

/-!
# Plain names in a text

A name of letters, digits and underscores is one word to the lexer, wherever a
space, a period or the end follows.
-/

namespace TableLineage.Sql

open Text Lexer

def isPlainPart (c : Char) : Bool := isLetter c || isAsciiDigit c || c == '_'

def isPlainName : List Char → Bool
  | [] => false
  | c :: rest => isLetter c && rest.all isPlainPart

theorem isPlainPart_of_mem {name : List Char} (h : isPlainName name = true) {c : Char}
    (hc : c ∈ name) : isPlainPart c = true := by
  cases name with
  | nil => exact absurd h Bool.false_ne_true
  | cons c' name =>
      rw [isPlainName, Bool.and_eq_true, List.all_eq_true] at h
      rcases List.mem_cons.mp hc with rfl | hc
      · simp [isPlainPart, h.1]
      · exact h.2 c hc

def Unmarked (rest : List Char) : Prop := ∀ c ∈ rest.head?, c ≠ '\'' ∧ c ≠ '"' ∧ c ≠ '&'

theorem Unmarked.cons_of_isPlainPart {c : Char} (h : isPlainPart c = true) (rest : List Char) :
    Unmarked (c :: rest) := by
  rintro _ ⟨⟩
  refine ⟨?_, ?_, ?_⟩ <;> rintro rfl <;> exact absurd h (by decide)

def WordEnd (rest : List Char) : Prop := ∀ c ∈ rest.head?, c = ' ' ∨ c = '.'

theorem WordEnd.nil : WordEnd [] := nofun

theorem WordEnd.space (rest : List Char) : WordEnd (' ' :: rest) := by
  rintro _ ⟨⟩
  exact .inl rfl

theorem WordEnd.period (rest : List Char) : WordEnd ('.' :: rest) := by
  rintro _ ⟨⟩
  exact .inr rfl

theorem WordEnd.unmarked {rest : List Char} (h : WordEnd rest) : Unmarked rest := by
  intro c hc
  rcases h c hc with rfl | rfl <;> decide

theorem isIdentPart_of_isPlainPart {c : Char} (h : isPlainPart c = true) :
    Dialect.tsql.isIdentPart c = true := by
  simp only [isPlainPart, Bool.or_eq_true, beq_iff_eq] at h
  rcases h with (h | h) | h <;> simp [Dialect.isIdentPart, h]

theorem WordEnd.takeWhile_dropWhile {rest : List Char} (h : WordEnd rest) :
    rest.takeWhile Dialect.tsql.isIdentPart = [] ∧
      rest.dropWhile Dialect.tsql.isIdentPart = rest := by
  cases rest with
  | nil => exact ⟨rfl, rfl⟩
  | cons c rest =>
      have hc : Dialect.tsql.isIdentPart c = false := by rcases h c rfl with rfl | rfl <;> decide
      exact ⟨List.takeWhile_cons_of_neg (by simp [hc]), List.dropWhile_cons_of_neg (by simp [hc])⟩

section Pieces

variable {c : Char} {rest : List Char}

theorem markedLiteral_eq_none (d : Dialect) (c : Char) (h : Unmarked rest) :
    markedLiteral d c rest = none := by
  unfold markedLiteral
  split
  · exact absurd rfl (h _ rfl).1
  · exact absurd rfl (h _ rfl).2.1
  · exact absurd rfl (h _ rfl).2.2
  · rfl

theorem quoteEnd?_of_isLetter (hc : isLetter c = true) : Dialect.tsql.quoteEnd? c = none := by
  unfold Dialect.quoteEnd?
  split <;> first | rfl | exact absurd hc (by decide)

theorem ne_of_isLetter (hc : isLetter c = true) {c' : Char} (h : isLetter c' = false) : c ≠ c' := by
  rintro rfl
  exact Bool.false_ne_true (h.symm.trans hc)

theorem isAsciiDigit_of_isLetter (hc : isLetter c = true) : isAsciiDigit c = false := by
  cases hdigit : isAsciiDigit c with
  | false => rfl
  | true => exact absurd ((isLetter_of_isAsciiDigit hdigit).symm.trans hc) Bool.false_ne_true

theorem piece_of_isLetter (hc : isLetter c = true) (h : Unmarked rest)
    (afterWord afterPeriod : Bool) :
    piece .tsql afterWord afterPeriod c rest =
      some (.token (.word (Word.bare (c :: rest.takeWhile Dialect.tsql.isIdentPart))),
        rest.dropWhile Dialect.tsql.isIdentPart) := by
  have hblank : c ≠ ' ' ∧ c ≠ '\t' ∧ c ≠ '\n' ∧ c ≠ '\r' :=
    ⟨ne_of_isLetter hc (by decide), ne_of_isLetter hc (by decide), ne_of_isLetter hc (by decide),
      ne_of_isLetter hc (by decide)⟩
  have hmark : c ≠ '\'' ∧ c ≠ '"' ∧ c ≠ '.' :=
    ⟨ne_of_isLetter hc (by decide), ne_of_isLetter hc (by decide), ne_of_isLetter hc (by decide)⟩
  have hdigit : isAsciiDigit c = false := isAsciiDigit_of_isLetter hc
  have hnumber : isNumberText ([c] ++ rest.takeWhile Dialect.tsql.isIdentPart) = false := by
    simp [isNumberText, hdigit, hmark]
  have hstart : Dialect.tsql.isIdentStart c = true := by simp [Dialect.isIdentStart, hc]
  unfold piece
  rw [if_neg (by simp [hblank]), markedLiteral_eq_none .tsql c h, quoteEnd?_of_isLetter hc]
  dsimp only
  split
  · rfl
  · rw [if_neg (by simp [hmark]), if_neg (by simp [hmark]), if_neg (by simp [hmark]),
      if_neg (by simp [hmark, hdigit])]
    -- No letter is one of the symbols.
    split
    all_goals try exact absurd hc (by decide)
    rw [identOrNumber, hnumber]
    rfl

theorem number_period (hc : isLetter c = true) (afterWord afterPeriod : Bool) :
    number .tsql afterWord afterPeriod ('.' :: c :: rest) = symbol "." (c :: rest) := by
  have hunderscored : Dialect.tsql.underscoredNumbers = false := rfl
  have hprefix : Dialect.tsql.numericPrefix = false := rfl
  have hperiod : digitRun isAsciiDigit false ('.' :: c :: rest) = ([], '.' :: c :: rest) := rfl
  have hletter : digitRun isAsciiDigit false (c :: rest) = ([], c :: rest) := by
    simp [digitRun, isAsciiDigit_of_isLetter hc]
  simp [number, hunderscored, hprefix, hperiod, hletter]

theorem piece_period (hc : isLetter c = true) (afterWord afterPeriod : Bool) :
    piece .tsql afterWord afterPeriod '.' (c :: rest) = some (.token (.symbol "."), c :: rest) := by
  have hmark : Unmarked (c :: rest) := .cons_of_isPlainPart (by simp [isPlainPart, hc]) rest
  have hunderscore : ((c :: rest).head? == some '_') = false := by
    have hne : c ≠ '_' := ne_of_isLetter hc (by decide)
    simp [hne]
  unfold piece
  rw [markedLiteral_eq_none .tsql '.' hmark, hunderscore]
  exact number_period hc afterWord afterPeriod

/-- The text yields the lexemes after the ones that have been read, however large the budget. -/
def LexesTo (before : List Lexeme) (spaced : Bool) (text : List Char)
    (lexemes : List Lexeme) : Prop :=
  ∀ budget, text.length ≤ budget → lexFrom .tsql before spaced budget text = some lexemes

section Texts

variable {before lexemes : List Lexeme} {spaced : Bool}

theorem LexesTo.lex_eq {text : List Char} (h : LexesTo [] false text lexemes) :
    lex .tsql text = some lexemes := h _ (Nat.le_refl _)

theorem LexesTo.nil : LexesTo before spaced [] before.reverse := by
  intro budget _
  cases budget <;> rfl

theorem LexesTo.token {left : List Char} {token : Token}
    (hpiece : piece .tsql (endsInWord spaced before) (endsInPeriod spaced before) c rest =
      some (.token token, left)) (hleft : left.length ≤ rest.length)
    (h : LexesTo (⟨token, spaced⟩ :: before) false left lexemes) :
    LexesTo before spaced (c :: rest) lexemes := by
  intro budget hbudget
  cases budget with
  | zero => simp at hbudget
  | succ budget =>
      rw [List.length_cons] at hbudget
      rw [lexFrom, hpiece]
      exact h budget (by omega)

theorem LexesTo.space (h : LexesTo before true rest lexemes) :
    LexesTo before spaced (' ' :: rest) lexemes := by
  intro budget hbudget
  cases budget with
  | zero => simp at hbudget
  | succ budget =>
      rw [List.length_cons] at hbudget
      exact h budget (by omega)

theorem LexesTo.period (hc : isLetter c = true)
    (h : LexesTo (⟨.symbol ".", spaced⟩ :: before) false (c :: rest) lexemes) :
    LexesTo before spaced ('.' :: c :: rest) lexemes :=
  h.token (piece_period hc _ _) (Nat.le_refl _)

theorem LexesTo.star (h : LexesTo (⟨.symbol "*", spaced⟩ :: before) false (' ' :: rest) lexemes) :
    LexesTo before spaced ('*' :: ' ' :: rest) lexemes :=
  h.token rfl (Nat.le_refl _)

theorem LexesTo.word {name : List Char} (hname : isPlainName name = true) (hrest : WordEnd rest)
    (h : LexesTo (⟨.word (Word.bare name), spaced⟩ :: before) false rest lexemes) :
    LexesTo before spaced (name ++ rest) lexemes := by
  cases name with
  | nil => exact absurd hname Bool.false_ne_true
  | cons c name =>
      rw [isPlainName, Bool.and_eq_true, List.all_eq_true] at hname
      obtain ⟨hc, hparts⟩ := hname
      obtain ⟨htake, hdrop⟩ := hrest.takeWhile_dropWhile
      have hident : ∀ c ∈ name, Dialect.tsql.isIdentPart c = true := fun c hmem =>
        isIdentPart_of_isPlainPart (hparts c hmem)
      have hmark : Unmarked (name ++ rest) := by
        cases name with
        | nil => exact hrest.unmarked
        | cons c' name => exact .cons_of_isPlainPart (hparts c' List.mem_cons_self) _
      have hpiece := piece_of_isLetter hc hmark (endsInWord spaced before)
        (endsInPeriod spaced before)
      rw [List.takeWhile_append_of_pos hident, List.dropWhile_append_of_pos hident, htake, hdrop,
        List.append_nil] at hpiece
      exact h.token hpiece (by simp)

/-! ## Several words -/

def Word.lexeme (word : Word) (spaced : Bool) : Lexeme := ⟨.word word, spaced⟩

def periodLexeme : Lexeme := ⟨.symbol ".", false⟩

def spelled (names : List (List Char)) : List Char := [' '].intercalate names

def wordLexemes (spaced : Bool) : List (List Char) → List Lexeme
  | [] => []
  | name :: names => (Word.bare name).lexeme spaced :: wordLexemes true names

@[simp] theorem spelled_singleton (name : List Char) : spelled [name] = name :=
  List.intercalate_singleton

theorem spelled_cons_cons (name name' : List Char) (names : List (List Char)) :
    spelled (name :: name' :: names) = name ++ ' ' :: spelled (name' :: names) := by
  rw [spelled, List.intercalate_cons_cons, List.append_assoc]
  rfl

theorem exists_spelled {name : List Char} (h : isPlainName name = true)
    (names : List (List Char)) : ∃ c rest, spelled (name :: names) = c :: rest ∧
      isLetter c = true := by
  cases name with
  | nil => exact absurd h Bool.false_ne_true
  | cons c name =>
      rw [isPlainName, Bool.and_eq_true] at h
      cases names with
      | nil => exact ⟨c, name, spelled_singleton _, h.1⟩
      | cons name' names => exact ⟨c, _, spelled_cons_cons _ _ _, h.1⟩

theorem LexesTo.words {names : List (List Char)} (hne : names ≠ [])
    (hnames : ∀ name ∈ names, isPlainName name = true) (hrest : WordEnd rest)
    (h : LexesTo ((wordLexemes spaced names).reverse ++ before) false rest lexemes) :
    LexesTo before spaced (spelled names ++ rest) lexemes := by
  induction names generalizing before spaced with
  | nil => exact absurd rfl hne
  | cons name names ih =>
      obtain ⟨hname, hnames⟩ := List.forall_mem_cons.mp hnames
      cases names with
      | nil =>
          rw [spelled_singleton]
          exact .word hname hrest h
      | cons name' names =>
          rw [wordLexemes, List.reverse_cons, List.append_assoc] at h
          rw [spelled_cons_cons, List.append_assoc]
          exact .word hname (.space _) (.space (ih (List.cons_ne_nil _ _) hnames h))

def selectStar : List Lexeme :=
  [(Word.bare "SELECT".toList).lexeme false, ⟨.symbol "*", true⟩,
    (Word.bare "FROM".toList).lexeme true]

theorem lex_selectStar {name : List Char} {names schema : List (List Char)} (hne : schema ≠ [])
    (hschema : ∀ name ∈ schema, isPlainName name = true) (hname : isPlainName name = true)
    (hnames : ∀ name ∈ names, isPlainName name = true) :
    lex .tsql ("SELECT * FROM ".toList ++ spelled schema ++ '.' :: spelled (name :: names)) =
      some (selectStar ++ wordLexemes true schema ++
        periodLexeme :: wordLexemes false (name :: names)) := by
  obtain ⟨c, rest, hspelled, hc⟩ := exists_spelled hname names
  -- From the end to the front, as every step asks what the text behind it yields.
  have hitem : LexesTo (periodLexeme :: ((wordLexemes true schema).reverse ++ selectStar.reverse))
      false (c :: rest) ((wordLexemes false (name :: names)).reverse ++
        periodLexeme :: ((wordLexemes true schema).reverse ++ selectStar.reverse)).reverse := by
    rw [← hspelled, ← List.append_nil (spelled _)]
    exact .words (List.cons_ne_nil _ _) (List.forall_mem_cons.mpr ⟨hname, hnames⟩) .nil .nil
  have hselect : isPlainName "SELECT".toList = true := by decide
  have hfrom : isPlainName "FROM".toList = true := by decide
  have htext : LexesTo [] false ("SELECT".toList ++ ' ' :: '*' :: ' ' :: ("FROM".toList ++
      ' ' :: (spelled schema ++ '.' :: c :: rest))) _ :=
    .word hselect (.space _) (.space (.star (.space (.word hfrom (.space _) (.space
      (.words hne hschema (.period _) (.period hc hitem)))))))
  rw [List.append_assoc, hspelled]
  exact htext.lex_eq.trans (congrArg some (by simp))

end Texts

end Pieces

end TableLineage.Sql
