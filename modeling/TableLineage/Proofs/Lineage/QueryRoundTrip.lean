import TableLineage.Proofs.Formula.Classification
import TableLineage.Proofs.Lineage.Extraction

/-!
# Queries make a round trip

`extractDocument_queryLine`: a line that opens a database with a query gives
back host, database and query, whatever punctuation these are made of.
-/

namespace TableLineage.Lineage

open Formula Schema Text

/-- A line that opens a database with a query, by the texts it is made of. -/
structure QueryLine where
  front : List Char
  host : List Char
  database : List Char
  query : List Char
  tail : List Char
  front_free : '=' ∉ front
  host_free : '"' ∉ host
  database_free : '"' ∉ database
  query_single : ¬ ['"', '"'] <:+: query
  query_no_feed : ¬ lineFeedEscape <:+: query
  query_no_tab : ¬ tabEscape <:+: query
  tail_free : '"' ∉ tail
  tail_no_comment : ¬ ['/', '*'] <:+: tail

namespace QueryLine

/-- The text behind the second argument. -/
def expression (line : QueryLine) : List Char :=
  " [Query=".toList ++ (enquote (encodeQuery line.query) ++ line.tail)

/-- The text behind the parenthesis. -/
def inside (line : QueryLine) : List Char :=
  enquote line.host ++ ',' :: ([' '] ++ (enquote line.database ++ ',' :: line.expression))

def written (line : QueryLine) : List Char :=
  line.front ++ "= Sql.Database(".toList ++ line.inside

def record (line : QueryLine) (name : String) : Record where
  name := name
  host := String.ofList line.host
  database := String.ofList line.database
  expression := String.ofList line.expression
  query := String.ofList (line.query.map blankBreak)
  isTableDirectImport := false

theorem complete_expression (line : QueryLine) : Complete line.expression := by
  have htail := complete_of_unquoted line.tail_free line.tail_no_comment
  have hclosed : line.tail.head? ≠ some '"' := by
    intro hhead
    obtain ⟨tail, htail⟩ := List.head?_eq_some_iff.mp hhead
    exact line.tail_free (by simp [htail])
  have hquery := htail.shape (shape_enquote (doubled_encodeQuery line.query) hclosed)
  have hequal := hquery.shape (.equal (by simp [enquote]))
  have hname : Shape .identifier "Query".toList
      (['='] ++ (enquote (encodeQuery line.query) ++ line.tail)) := by
    have hspan : spanAhead inIdentifier "uery".toList = ("uery".toList, []) := by decide
    refine .identifier (.inl (by decide)) ⟨(nameTail_of_spanAhead hspan).2.1, ?_⟩
    rw [List.singleton_append, continues_cons_iff]
    simp [dottedPart]
    decide
  have hsquare := (hequal.shape hname).shape .leftSquare
  exact hsquare.gapPiece (.blank (by decide))

theorem splitArguments_inside (line : QueryLine) :
    splitArguments line.inside =
      ((splitArguments line.expression).push (' ' :: enquote line.database)).push
        (enquote line.host) := by
  have hexpression := complete_expression line
  rw [inside, splitArguments_first line.database_free .comma (by decide) hexpression line.host_free,
    splitArguments_enquote (doubled_of_not_mem line.database_free) hexpression (gap_space _)]
  rfl

theorem classify_written {line : QueryLine} {lines : List (List Char)}
    (h : lines[1]? = some line.written) :
    classify lines = .ok ⟨" Sql.Database".toList, splitArguments line.inside⟩ := by
  refine classify_eq_ok_iff.mpr ⟨_, line.front, _, line.inside, h, ?_, by decide +kernel, rfl⟩
  exact ⟨by simp [written], line.front_free, by decide⟩

theorem recordOfLines_written {line : QueryLine} {lines : List (List Char)} (name : String)
    (h : lines[1]? = some line.written) : recordOfLines name lines = .ok (line.record name) := by
  have hclassify := classify_written h
  rw [splitArguments_inside] at hclassify
  generalize hcall : Call.mk " Sql.Database".toList _ = call at hclassify
  have hhost : argumentText call 0 = .ok (String.ofList line.host) := by
    have hargument : call.argument? 0 = some ([] ++ enquote line.host) := by
      rw [← hcall]
      rfl
    exact argumentText_enquote (by simp [AllBlank]) hargument
  have hdatabase : argumentText call 1 = .ok (String.ofList line.database) := by
    have hargument : call.argument? 1 = some ([' '] ++ enquote line.database) := by
      rw [← hcall]
      rfl
    exact argumentText_enquote (by simp [AllBlank]; decide) hargument
  have hdirect : call.isDirectImport = false := by
    rw [← hcall]
    simp [Call.isDirectImport, Call.separatorCount, Arguments.push, Arguments.all]
  have hafter : call.textAfter? 1 = some line.expression := by
    rw [← hcall]
    exact congrArg some (splitArguments_written line.expression)
  have hspan : quotedSpan line.expression = encodeQuery line.query :=
    quotedSpan_enquote _ (by decide) line.tail_free
  have hquery : queryOf lines call = .ok (line.expression, line.query.map blankBreak) := by
    rw [queryOf, hdirect, hafter]
    simp only [Bool.false_eq_true, if_false, Option.getD_some]
    rw [hspan, normalizeQuery_encodeQuery line.query_single line.query_no_feed line.query_no_tab]
  simp only [recordOfLines, hclassify, hhost, hdatabase, hquery, hdirect, bind, Except.bind]
  rfl

end QueryLine

theorem extractDocument_queryLine (line : QueryLine) (name : String) (expression : Expression)
    (table : Table) (before after : List Partition) (tables tables' : List Table)
    (hline : expression.toLines[1]? = some line.written) (visible : table.marked = false)
    (hpartitions : table.partitions = some (before ++ partitionOf name expression :: after)) :
    extractDocument ⟨some ⟨some (tables ++ table :: tables')⟩⟩ =
      .ok ⟨(extractImports (importsBefore tables table before)).records ++
          line.record name :: (extractImports (importsAfter table after tables')).records,
        (extractImports (importsBefore tables table before)).warnings ++
          (extractImports (importsAfter table after tables')).warnings⟩ :=
  extractDocument_partition visible hpartitions
    (QueryLine.recordOfLines_written name hline) tables tables'

theorem extractDocument_queryLine_punctuated :
    extractDocument ⟨some ⟨some [{ partitions := some [partitionOf "Q" (.listed ["let",
      "S = Sql.Database(\"h,(é//\", \"d\", [Query=\"\"\"a\"\"#(lf)#(tab)as b\"])"])] }]⟩⟩ =
    .ok ⟨[{
      name := "Q"
      host := "h,(é//"
      database := "d"
      expression := " [Query=\"\"\"a\"\"#(lf)#(tab)as b\"])"
      query := "\"a\"  as b"
      isTableDirectImport := false }], []⟩ := by
  have hextract := extractDocument_queryLine
    ⟨"S ".toList, "h,(é//".toList, "d".toList, "\"a\"\n\tas b".toList, "])".toList,
      by decide, by decide, by decide, by decide, by decide, by decide, by decide, by decide⟩
    "Q" (.listed ["let",
      "S = Sql.Database(\"h,(é//\", \"d\", [Query=\"\"\"a\"\"#(lf)#(tab)as b\"])"])
    { partitions := some [_] } [] [] [] [] (by decide +kernel) rfl rfl
  exact hextract.trans (congrArg Except.ok (by decide +kernel))

end TableLineage.Lineage
