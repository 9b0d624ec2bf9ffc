import TableLineage.Proofs.Sql.PlainName
import TableLineage.Proofs.Sql.Reads
import TableLineage.Sql.Parse

/-!
# Queries of one table

A query that selects everything from one name is followed through the
productions, from the name outwards.  What meets no word of the name is computed.
Only `LATERAL` and `TABLE` are taken for something else at the front of a name; a
further word behind it is an alias.
-/

namespace TableLineage.Sql

open Sql.Parser

abbrev ground (depth steps : Nat) : Env := ⟨.tsql, depth, steps + 2, .plain⟩

variable {r : Rules} {depth steps : Nat} {s i word : Word} {spaced spaced' : Bool}
  {next : Lexeme} {left rest : List Lexeme}

inductive TableEnd : List Lexeme → Prop
  | nil : TableEnd []
  | period (rest : List Lexeme) : TableEnd (periodLexeme :: rest)

theorem TableEnd.reads_nothing {p : Parser α} {env : Env} {a : α} (h : TableEnd left)
    (hnil : Reads p env [] a [])
    (hperiod : ∀ rest, Reads p env (periodLexeme :: rest) a (periodLexeme :: rest)) :
    Reads p env left a left := by
  cases h with
  | nil => exact hnil
  | period rest => exact hperiod rest

def relationOf (words : List Word) : Mentions :=
  [.relation (words.map fun word => .ident word.ident)]

theorem reads_relation_one :
    Reads (relation r true) (ground depth steps)
      (s.lexeme spaced :: word.lexeme spaced' :: rest) (relationOf [s])
      (word.lexeme spaced' :: rest) := fun _ => rfl

theorem reads_relation_two :
    Reads (relation r true) (ground depth steps)
      (s.lexeme spaced :: periodLexeme :: i.lexeme false :: word.lexeme spaced' :: rest)
      (relationOf [s, i]) (word.lexeme spaced' :: rest) := fun _ => rfl

def aliasRefused : List String := "AS" :: "AT" :: "BEFORE" :: tableAliasReserved

theorem reads_version?_of_notMem (h : word.keyword ∉ aliasRefused) :
    Reads (Factor.version? r) (ground depth steps) (word.lexeme spaced :: rest) []
      (word.lexeme spaced :: rest) := by
  have hfor : word.keyword ≠ "FOR" := fun heq => h (heq ▸ by decide)
  have hat : word.keyword ∉ ["AT", "BEFORE"] := fun hmem =>
    h (List.mem_cons_of_mem _ (List.mem_append_left _ hmem))
  refine .bind (a := true) (fun _ => rfl) ?_
  refine .bind (reads_keywords?_of_ne hfor _) ?_
  exact .bind (reads_atAnyKeyword_of_notMem hat) (.pure rfl)

theorem reads_alias?_word (h : word.keyword ∉ aliasRefused) (hleft : TableEnd left) :
    Reads (Factor.alias? r) (ground depth steps) (word.lexeme spaced :: left) true left := by
  have has : word.keyword ≠ "AS" := fun heq => h (heq ▸ by decide)
  have hallowed : tableAliasAllowed .tsql word.keyword left = true := by
    have hreserved : word.keyword ∉ tableAliasReserved := fun hmem =>
      h (List.mem_append_right ["AS", "AT", "BEFORE"] hmem)
    simpa [tableAliasAllowed] using hreserved
  have hident : Reads (aliasIdent? tableAliasAllowed) (ground depth steps)
      (word.lexeme spaced :: left) (some word.ident) left := by
    refine .bind (a := .tsql) (fun _ => rfl) (.bind (reads_keyword?_of_ne has).unwritten ?_)
    refine .bind (a := word.lexeme spaced :: left) (fun _ => rfl) ?_
    change Reads (if (false || tableAliasAllowed .tsql word.keyword left) = true then _ else _) _
      _ _ _
    rw [hallowed]
    exact fun _ => rfl
  have halias : Reads (Sql.alias? tableAliasAllowed) (ground depth steps)
      (word.lexeme spaced :: left) true left := hident.bind fun _ => rfl
  exact halias.bind (hleft.reads_nothing (fun _ => rfl) fun _ _ => rfl)

theorem reads_namedTable_two :
    Reads (Factor.namedTable r) (ground depth steps)
      [s.lexeme spaced, periodLexeme, i.lexeme false]
      (Factor.plain false (relationOf [s, i])) [] := fun _ => rfl

theorem reads_namedTable_aliased {name : List Lexeme} {table : Mentions}
    (hname : Reads (relation r true) (ground depth steps)
      (name ++ word.lexeme spaced :: left) table (word.lexeme spaced :: left))
    (hword : word.keyword ∉ aliasRefused) (hleft : TableEnd left) :
    ∃ factor, Reads (Factor.namedTable r) (ground depth steps)
      (name ++ word.lexeme spaced :: left) factor left ∧ factor.mentions = table := by
  have hversion : Reads (Factor.version? r) (ground depth steps) (word.lexeme spaced :: left)
      [] (word.lexeme spaced :: left) := reads_version?_of_notMem hword
  obtain ⟨version, hversion⟩ := hversion.exists_apart
  have htrailing : Reads (Factor.hintsAndSample r version) (ground depth steps) left ([], [])
      left := hleft.reads_nothing (fun _ => rfl) fun _ _ => rfl
  obtain ⟨trailing, htrailing⟩ := htrailing.exists_apart
  have hwith : word.keyword ≠ "WITH" := fun heq => hword (heq ▸ by decide)
  refine ⟨⟨false, true, table ++ [] ++ [] ++ [] ++ [] ++ [], trailing⟩, ?_, by simp⟩
  unfold Factor.namedTable
  refine .bind (a := .tsql) (fun _ => rfl) (.bind hname ?_)
  refine .bind (a := []) (fun _ => rfl) (.bind (a := ()) (fun _ => rfl) ?_)
  refine .bind hversion (.bind (a := []) (fun _ => rfl) ?_)
  refine .bind (reads_keywords?_of_ne hwith _) (.bind (reads_alias?_word hword hleft) ?_)
  refine .bind htrailing (.bind (a := ()) (fun _ => rfl) ?_)
  refine .bind (a := ⟨false, true, _, trailing⟩)
    (hleft.reads_nothing (fun _ => rfl) fun _ _ => rfl) ?_
  refine .bind (a := false) (fun _ => rfl) ?_
  exact .pure rfl

theorem reads_functionWord?_of_not {env : Env} {first : Lexeme}
    (h : isSymbol "(" (some next.token) = false) (keyword : String) :
    Reads (Factor.functionWord? keyword) env (first :: next :: rest) false
      (first :: next :: rest) := by
  intro written
  change ((if isSymbol "(" (some next.token) = true then _ else _ : Parser Bool) env _).map _ = _
  rw [h]
  rfl

/-- A name whose first word opens neither another kind of table nor a call. -/
theorem reads_factor {factor : Factor} (hlateral : s.keyword ≠ "LATERAL")
    (htable : s.keyword ≠ "TABLE") (hnext : isSymbol "(" (some next.token) = false)
    (hnamed : Reads (Factor.namedTable r) (ground depth steps)
      (s.lexeme spaced :: next :: rest) factor left) :
    Reads (Factor.parse r) (ground depth steps) (s.lexeme spaced :: next :: rest) factor
      left := by
  have hcall (keyword : String) : Reads (Factor.functionWord? keyword) (ground depth steps)
      (s.lexeme spaced :: next :: rest) false (s.lexeme spaced :: next :: rest) :=
    reads_functionWord?_of_not hnext keyword
  unfold Factor.parse
  refine .bind (a := .tsql) (fun _ => rfl) ?_
  refine .bind (reads_keyword?_of_ne hlateral) (.bind (reads_keyword?_of_ne htable) ?_)
  -- No parenthesis, no rows of values and no array.
  refine .bind (a := false) (fun _ => rfl) (.bind (a := false) (fun _ => rfl) ?_)
  refine .bind (a := false) (fun _ => rfl) ?_
  refine .bind (hcall "JSON_TABLE") (.bind (hcall "OPENJSON") (.bind (hcall "XMLTABLE") ?_))
  exact .bind (a := false) (fun _ => rfl) hnamed

theorem refuses_factor (h : s.keyword = "LATERAL" ∨ s.keyword = "TABLE") :
    Runs (Factor.parse r) (ground depth steps) (s.lexeme spaced :: periodLexeme :: rest)
      (.error .mismatch) := by
  obtain ⟨text, quote, keyword⟩ := s
  obtain rfl | rfl := h <;> exact fun _ => rfl

/-- No production that follows goes on after what has been read, if anything has. -/
def EndsTable (result : Result d α) : Prop := ∀ a left, result = .ok (a, left) → TableEnd left

def mentionsOfFactor (result : Result .tsql Factor) : Result .tsql Mentions :=
  result.map fun read => (read.1.mentions, read.2)

theorem EndsTable.of_mentionsOfFactor {result : Result .tsql Factor}
    (h : EndsTable (mentionsOfFactor result)) : EndsTable result := by
  rintro factor left rfl
  exact h _ _ rfl

section Query

variable {budget : Nat} {ahead : List Lexeme}

theorem runs_withJoins {result : Result .tsql Factor}
    (hfactor : Runs (Factor.parse (Parse.rules budget)) (ground depth steps) ahead result)
    (hends : EndsTable result) :
    Runs (Factor.withJoins (Parse.rules (budget + 1))) (ground depth steps) ahead
      (mentionsOfFactor result) :=
  hfactor.followed fun factor left hread =>
    .bind (a := (0, [])) ((hends factor left hread).reads_nothing (fun _ => rfl) fun _ _ => rfl)
      (.pure (List.append_nil _))

variable {result : Result .tsql Mentions}

theorem runs_tables (htable : Runs (Factor.withJoins r) (ground depth steps) ahead result)
    (hends : EndsTable result) : Runs (Factor.tables r) (ground depth steps) ahead result := by
  refine .bind (a := .tsql) (fun _ => rfl) ?_
  have hlist := runs_separatedUntil_one (pure false) htable fun table left hread =>
    (hends table left hread).reads_nothing (fun _ => rfl) fun _ _ => rfl
  cases result with
  | error failure => exact hlist.bind_error _
  | ok read => exact .bind hlist (.pure (List.append_nil _))

theorem runs_parseFrom (htables : Runs (Factor.tables r) (ground depth steps) ahead result)
    (hends : EndsTable result) :
    Runs (Select.parseFrom r none) (ground depth steps) (selectStar ++ ahead) result := by
  unfold Select.parseFrom
  refine .bind (a := .tsql) (fun _ => rfl) (.bind (a := ()) (fun _ => rfl) ?_)
  refine .bind (a := ()) (fun _ => rfl) (.bind (a := []) (fun _ => rfl) ?_)
  refine .bind (a := []) (fun _ => rfl) (.bind (a := false) (fun _ => rfl) ?_)
  refine .bind (a := []) (fun _ => rfl) (.bind (a := ()) (fun _ => rfl) ?_)
  refine .kept (.bind (a := true) (fun _ => rfl) htables) fun tables left hread => ?_
  exact .bind (a := []) ((hends tables left hread).reads_nothing (fun _ => rfl) fun _ _ => rfl)
    (.pure (List.append_nil _))

theorem runs_parseBody (htables : Runs (Factor.tables r) (ground depth steps) ahead result)
    (hends : EndsTable result) :
    Runs (Query.parseBody r 0) (ground depth steps) (selectStar ++ ahead) result := by
  have hselect : Runs (Select.parse r) (ground depth steps) (selectStar ++ ahead) result := by
    refine .bind (a := false) (fun _ => rfl) (.bind (a := false) (fun _ => rfl) ?_)
    exact runs_parseFrom htables hends
  have hhead : Runs (Query.bodyHead r) (ground depth steps) (selectStar ++ ahead) result :=
    .bind (a := .tsql) (fun _ => rfl) (.bind (a := true) (fun _ => rfl) hselect)
  exact hhead.kept fun body left hread =>
    (hends body left hread).reads_nothing (fun _ => rfl) fun _ _ => rfl

theorem runs_parseUnbound
    (hbody : Runs (Query.parseBody (Parse.rules budget) 0) (ground depth steps) ahead result)
    (hends : EndsTable result) :
    Runs (Query.parseUnbound (Parse.rules (budget + 1))) (ground depth steps) ahead result := by
  refine hbody.kept fun body left hread => ?_
  have hend := hends body left hread
  -- Order and limits, then settings, and so on to the piped steps.
  refine .bind (a := []) (hend.reads_nothing (fun _ => rfl) fun _ _ => rfl) ?_
  refine .bind (a := []) (hend.reads_nothing (fun _ => rfl) fun _ _ => rfl) ?_
  refine .bind (a := none) (fun _ => rfl) ?_
  refine .bind (a := ()) (hend.reads_nothing (fun _ => rfl) fun _ _ => rfl) ?_
  refine .bind (a := ()) (hend.reads_nothing (fun _ => rfl) fun _ _ => rfl) ?_
  exact .bind (a := ()) (fun _ => rfl) (.bind (a := []) (fun _ => rfl) (.pure (by simp)))

theorem runs_query
    (hquery : Runs (Query.parseUnbound r) (ground depth steps) (selectStar ++ ahead) result) :
    Runs (Query.parse r) (ground depth steps) (selectStar ++ ahead) result := by
  refine .bind (a := []) (fun _ => rfl) (.bind (a := none) (fun _ => rfl) ?_)
  exact hquery.kept fun _ _ _ => .pure rfl

theorem runs_statement
    (hquery : Runs (Query.parse (Parse.rules budget)) (ground depth steps) (selectStar ++ ahead)
      result) :
    Runs (Statement.parse (Parse.rules (budget + 1))) (ground (depth + 1) steps)
      (selectStar ++ ahead) result := by
  refine .bind (a := none) (fun _ => rfl) ?_
  refine .bind (a := some (.word (Word.bare "SELECT".toList))) (fun _ => rfl) ?_
  exact hquery.nested

end Query

def wholeStatement (result : Result d Mentions) : Except (Failure d) (List Statement) :=
  match result with
  | .ok (mentions, []) => .ok [⟨mentions⟩]
  | .ok (_, _ :: _) => .error .mismatch
  | .error failure => .error failure

theorem statementsFrom_selectStar {env : Env} {table : List Lexeme}
    {result : Result env.dialect Mentions}
    (hstatement : Runs r.statement env (selectStar ++ table) result) (hends : EndsTable result)
    (budget : Nat) :
    Parse.statementsFrom r env (budget + 2) false (selectStar ++ table) =
      wholeStatement result := by
  change (r.statement env ⟨selectStar ++ table, []⟩ >>= fun read =>
    Parse.statementsFrom r env (budget + 1) true read.2.ahead >>= fun statements =>
      .ok (⟨read.1⟩ :: statements) : Except (Failure env.dialect) (List Statement)) = _
  cases result with
  | error failure =>
      rw [hstatement.eq_error]
      rfl
  | ok read =>
      obtain ⟨mentions, left⟩ := read
      obtain ⟨written, hread⟩ := hstatement.exists_written []
      rw [hread]
      cases hends _ _ rfl <;> rfl

theorem parse_selectStar {text : List Char} {table : List Lexeme} {result : Result .tsql Mentions}
    (hlex : lex .tsql text = some (selectStar ++ table))
    (hfactor : ∀ r depth steps, ∃ read, Runs (Factor.parse r) (ground depth steps) table read ∧
      mentionsOfFactor read = result)
    (hends : EndsTable result) : parse .tsql text = wholeStatement result := by
  have hstatement (budget depth steps : Nat) : Runs (Parse.rules (budget + 4)).statement
      (ground (depth + 2) steps) (selectStar ++ table) result := by
    obtain ⟨read, hread, rfl⟩ := hfactor (Parse.rules budget) depth steps
    have htables := runs_tables (runs_withJoins hread hends.of_mentionsOfFactor) hends
    have hquery := runs_query (runs_parseUnbound (runs_parseBody htables hends) hends)
    exact (runs_statement hquery).nested
  have hlength : (selectStar ++ table).length = table.length + 3 := by
    rw [List.length_append, Nat.add_comm]
    rfl
  rw [parse, hlex]
  dsimp only
  rw [hlength]
  exact statementsFrom_selectStar (hstatement (4 * (table.length + 52)) 48 (table.length + 2))
    hends _

/-! ## Names of one word and of two -/

section Names

def opensTable (name : List Char) : Bool :=
  ["LATERAL", "TABLE"].contains (Word.bare name).keyword

def isAliasName (name : List Char) : Bool :=
  isPlainName name && !aliasRefused.contains (Word.bare name).keyword

variable {schema schema' item item' : List Char}

theorem keyword_ne_of_opensTable (h : opensTable schema = false) :
    (Word.bare schema).keyword ≠ "LATERAL" ∧ (Word.bare schema).keyword ≠ "TABLE" := by
  simpa [opensTable] using h

theorem isPlainName_of_isAliasName (h : isAliasName item = true) : isPlainName item = true := by
  rw [isAliasName, Bool.and_eq_true] at h
  exact h.1

theorem notMem_of_isAliasName (h : isAliasName item = true) :
    (Word.bare item).keyword ∉ aliasRefused := by
  rw [isAliasName, Bool.and_eq_true] at h
  simpa using h.2

theorem plain_ident_bare (h : isPlainName item = true) :
    NamePart.plain (.ident (Word.bare item).ident) = String.ofList item := by
  have hunquoted : ∀ c ∈ item, (!isQuoteMark c) = true := by
    intro c hc
    have hpart := isPlainPart_of_mem h hc
    simp only [isQuoteMark, Bool.not_eq_true', Bool.or_eq_false_iff, beq_eq_false_iff_ne]
    refine ⟨⟨?_, ?_⟩, ?_⟩ <;> rintro rfl <;> exact absurd hpart (by decide)
  change String.ofList ((String.ofList item).toList.filter fun c => !isQuoteMark c) = _
  rw [String.toList_ofList, List.filter_eq_self.mpr hunquoted]

theorem statementTables_relationOf (hschema : isPlainName schema = true)
    (hitem : isPlainName item = true) :
    statementTables [⟨relationOf [Word.bare schema, Word.bare item]⟩] =
      [String.ofList schema ++ "." ++ String.ofList item] := by
  have hname : tableName [.ident (Word.bare schema).ident, .ident (Word.bare item).ident] =
      String.ofList schema ++ "." ++ String.ofList item := by
    change ".".intercalate [NamePart.plain _, NamePart.plain _] = _
    rw [plain_ident_bare hschema, plain_ident_bare hitem]
    rfl
  rw [← hname]
  rfl

def importText (schema item : List (List Char)) : List Char :=
  "SELECT * FROM ".toList ++ spelled schema ++ '.' :: spelled item

def importLexemes (schema item : List (List Char)) : List Lexeme :=
  wordLexemes true schema ++ periodLexeme :: wordLexemes false item

theorem resolve_importText {words words' : List (List Char)} {result : Result .tsql Mentions}
    (hwords : ∀ name ∈ schema :: words, isPlainName name = true)
    (hwords' : ∀ name ∈ item :: words', isPlainName name = true)
    (hfactor : ∀ r depth steps, ∃ read, Runs (Factor.parse r) (ground depth steps)
      (importLexemes (schema :: words) (item :: words')) read ∧ mentionsOfFactor read = result)
    (hends : EndsTable result) :
    resolve .tsql (String.ofList (importText (schema :: words) (item :: words'))) =
      (wholeStatement result).toOption.map statementTables := by
  obtain ⟨hitem, hwords'⟩ := List.forall_mem_cons.mp hwords'
  have hlex : lex .tsql (importText (schema :: words) (item :: words')) =
      some (selectStar ++ importLexemes (schema :: words) (item :: words')) :=
    (lex_selectStar (List.cons_ne_nil _ _) hwords hitem hwords').trans
      (congrArg some (List.append_assoc ..))
  rw [resolve, String.toList_ofList, parse_selectStar hlex hfactor hends]

theorem resolve_itself (hplain : isPlainName schema = true) (hitem : isPlainName item = true)
    (hschema : opensTable schema = false) :
    resolve .tsql (String.ofList (importText [schema] [item])) =
      some [String.ofList schema ++ "." ++ String.ofList item] := by
  obtain ⟨hlateral, htable⟩ := keyword_ne_of_opensTable hschema
  have hfactor (r : Rules) (depth steps : Nat) : ∃ read, Runs (Factor.parse r)
      (ground depth steps) (importLexemes [schema] [item]) read ∧ mentionsOfFactor read =
        .ok (relationOf [Word.bare schema, Word.bare item], []) :=
    ⟨_, reads_factor hlateral htable rfl reads_namedTable_two, rfl⟩
  have hresolve := resolve_importText (List.forall_mem_singleton.mpr hplain)
    (List.forall_mem_singleton.mpr hitem) hfactor (by rintro _ _ ⟨⟩; exact .nil)
  rw [hresolve]
  exact congrArg some (statementTables_relationOf hplain hitem)

theorem resolve_cutOff (hplain : isPlainName schema = true) (hitem : isPlainName item = true)
    (hschema : opensTable schema = false) (halias : isAliasName item' = true) :
    resolve .tsql (String.ofList (importText [schema] [item, item'])) =
      some [String.ofList schema ++ "." ++ String.ofList item] := by
  obtain ⟨hlateral, htable⟩ := keyword_ne_of_opensTable hschema
  have hfactor (r : Rules) (depth steps : Nat) : ∃ read, Runs (Factor.parse r)
      (ground depth steps) (importLexemes [schema] [item, item']) read ∧ mentionsOfFactor read =
        .ok (relationOf [Word.bare schema, Word.bare item], []) := by
    have hname : Reads (relation r true) (ground depth steps)
        ([(Word.bare schema).lexeme true, periodLexeme, (Word.bare item).lexeme false] ++
          [(Word.bare item').lexeme true]) (relationOf [Word.bare schema, Word.bare item])
        [(Word.bare item').lexeme true] := reads_relation_two
    obtain ⟨factor, hnamed, hmentions⟩ :=
      reads_namedTable_aliased hname (notMem_of_isAliasName halias) .nil
    exact ⟨_, reads_factor hlateral htable rfl hnamed, hmentions ▸ rfl⟩
  have hresolve := resolve_importText (List.forall_mem_singleton.mpr hplain)
    (List.forall_mem_cons.mpr
      ⟨hitem, List.forall_mem_singleton.mpr (isPlainName_of_isAliasName halias)⟩)
    hfactor (by rintro _ _ ⟨⟩; exact .nil)
  rw [hresolve]
  exact congrArg some (statementTables_relationOf hplain hitem)

theorem resolve_opening (hplain : isPlainName schema = true) (hschema : opensTable schema = true)
    {words : List (List Char)} (hwords : ∀ name ∈ item :: words, isPlainName name = true) :
    resolve .tsql (String.ofList (importText [schema] (item :: words))) = none := by
  have hkeyword : (Word.bare schema).keyword = "LATERAL" ∨
      (Word.bare schema).keyword = "TABLE" := by simpa [opensTable] using hschema
  have hfactor (r : Rules) (depth steps : Nat) : ∃ read, Runs (Factor.parse r)
      (ground depth steps) (importLexemes [schema] (item :: words)) read ∧
        mentionsOfFactor read = .error .mismatch := ⟨_, refuses_factor hkeyword, rfl⟩
  exact resolve_importText (List.forall_mem_singleton.mpr hplain) hwords hfactor nofun

theorem resolve_refused (hplain : isPlainName schema = true) (hschema : opensTable schema = false)
    (halias : isAliasName schema' = true) {words : List (List Char)}
    (hwords : ∀ name ∈ item :: words, isPlainName name = true) :
    resolve .tsql (String.ofList (importText [schema, schema'] (item :: words))) = none := by
  obtain ⟨hlateral, htable⟩ := keyword_ne_of_opensTable hschema
  have hleft : TableEnd (periodLexeme :: wordLexemes false (item :: words)) := .period _
  have hfactor (r : Rules) (depth steps : Nat) : ∃ read, Runs (Factor.parse r)
      (ground depth steps) (importLexemes [schema, schema'] (item :: words)) read ∧
        mentionsOfFactor read = .ok (relationOf [Word.bare schema],
          periodLexeme :: wordLexemes false (item :: words)) := by
    have hname : Reads (relation r true) (ground depth steps)
        ([(Word.bare schema).lexeme true] ++
          (Word.bare schema').lexeme true :: periodLexeme :: wordLexemes false (item :: words))
        (relationOf [Word.bare schema])
        ((Word.bare schema').lexeme true :: periodLexeme :: wordLexemes false (item :: words)) :=
      reads_relation_one
    obtain ⟨factor, hnamed, hmentions⟩ :=
      reads_namedTable_aliased hname (notMem_of_isAliasName halias) hleft
    exact ⟨_, reads_factor hlateral htable rfl hnamed, hmentions ▸ rfl⟩
  exact resolve_importText
    (List.forall_mem_cons.mpr
      ⟨hplain, List.forall_mem_singleton.mpr (isPlainName_of_isAliasName halias)⟩)
    hwords hfactor (by rintro _ _ ⟨⟩; exact hleft)

end Names

end TableLineage.Sql
