import TableLineage.Proofs.Formula.Classification
import TableLineage.Proofs.Formula.Navigation
import TableLineage.Proofs.Lineage.Extraction

/-!
# Direct imports make a round trip

`extractDocument_navigationLine`: a line that opens a database without a query
and a navigation line behind it give back host, database, schema and item,
however the navigation record is spaced and ordered.
-/

namespace TableLineage.Lineage

open Formula Schema Text

/-- A line that opens a database without a query, by the texts it is made of. -/
structure DatabaseLine where
  front : List Char
  blanks : List Char
  host : List Char
  database : List Char
  tail : List Char
  front_free : '=' ∉ front
  blank : AllBlank blanks
  host_free : '"' ∉ host
  database_free : '"' ∉ database
  tail_free : '"' ∉ tail
  tail_no_comment : ¬ ['/', '*'] <:+: tail

namespace DatabaseLine

def name (line : DatabaseLine) : List Char := line.blanks ++ databaseSource.toList

/-- The text behind the parenthesis. -/
def inside (line : DatabaseLine) : List Char :=
  enquote line.host ++ ',' :: ([' '] ++ (enquote line.database ++ ')' :: line.tail))

def written (line : DatabaseLine) : List Char :=
  line.front ++ '=' :: (line.name ++ '(' :: line.inside)

def call (line : DatabaseLine) : Call :=
  ⟨line.name, ⟨enquote line.host, [' ' :: enquote line.database], ')' :: line.tail⟩⟩

theorem callLine_written (line : DatabaseLine) :
    CallLine line.written line.front line.name line.inside := by
  refine ⟨rfl, line.front_free, ?_⟩
  rw [name, List.mem_append, not_or]
  exact ⟨line.blank.not_mem (by decide), by decide⟩

theorem trimmed_name (line : DatabaseLine) : trimmed line.name = databaseSource := by
  have hsource : trim databaseSource.toList = databaseSource.toList := by decide +kernel
  have htrim := trim_framed line.blank .nil hsource
  rw [List.append_nil] at htrim
  rw [trimmed, name, htrim, String.ofList_toList]

theorem splitArguments_inside (line : DatabaseLine) :
    splitArguments line.inside = line.call.arguments := by
  have htail := complete_of_unquoted line.tail_free line.tail_no_comment
  rw [inside, splitArguments_first line.database_free .rightParen (by decide) htail line.host_free,
    splitArguments_enquote_paren (doubled_of_not_mem line.database_free) htail (gap_space _)]
  rfl

theorem classify_written {line : DatabaseLine} {lines : List (List Char)}
    (h : lines[1]? = some line.written) : classify lines = .ok line.call := by
  refine classify_eq_ok_iff.mpr ⟨_, line.front, line.name, line.inside, h, line.callLine_written,
    line.trimmed_name, ?_⟩
  rw [splitArguments_inside]
  rfl

theorem argumentText_host (line : DatabaseLine) :
    argumentText line.call 0 = .ok (String.ofList line.host) := by
  have hargument : line.call.argument? 0 = some ([] ++ enquote line.host) := rfl
  exact argumentText_enquote .nil hargument

theorem argumentText_database (line : DatabaseLine) :
    argumentText line.call 1 = .ok (String.ofList line.database) := by
  have hargument : line.call.argument? 1 = some ([' '] ++ enquote line.database) := rfl
  exact argumentText_enquote (by decide) hargument

end DatabaseLine

/-- A line with a navigation record, by the texts it is made of. -/
structure NavigationLine where
  front : List Char
  beforeOpening : List Char
  schema : FieldText
  item : FieldText
  itemFirst : Bool
  afterClosing : List Char
  back : List Char
  front_free : '\x7b' ∉ front
  bracket_blanks : AllBlank beforeOpening ∧ AllBlank afterClosing
  schema_key : schema.key.map lowerAsciiChar = schemaKey
  item_key : item.key.map lowerAsciiChar = itemKey

namespace NavigationLine

def fields (line : NavigationLine) : List FieldText :=
  if line.itemFirst then [line.item, line.schema] else [line.schema, line.item]

def written (line : NavigationLine) : List Char :=
  line.front ++ '\x7b' :: (line.beforeOpening ++ ['['] ++ writeFields line.fields ++
    ']' :: line.afterClosing ++ '\x7d' :: line.back)

theorem keyText (line : NavigationLine) : ∀ field ∈ line.fields, KeyText field.key := by
  have hletters {key word : List Char} (hkey : key.map lowerAsciiChar = word)
      (letters : word.all isAsciiLetter = true) : KeyText key := by
    refine .of_letters fun c hc => List.all_eq_true.mp letters _ ?_
    rw [← hkey]
    exact List.mem_map_of_mem hc
  have hschema := hletters line.schema_key (by decide)
  have hitem := hletters line.item_key (by decide)
  rw [fields]
  split
  · exact List.forall_mem_cons.mpr ⟨hitem, List.forall_mem_singleton.mpr hschema⟩
  · exact List.forall_mem_cons.mpr ⟨hschema, List.forall_mem_singleton.mpr hitem⟩

theorem bracedFields?_written (line : NavigationLine) :
    bracedFields? line.written =
      some (Ordered.ofEntries (line.fields.map FieldText.entry)) := by
  refine Formula.bracedFields?_written line.front_free (.bracket line.bracket_blanks.1) ?_
    line.keyText (.bracket line.bracket_blanks.2) line.back
  rw [fields]
  split <;> exact List.cons_ne_nil _ _

theorem lookup_fields (line : NavigationLine) :
    Ordered.lookup schemaKey (Ordered.ofEntries (line.fields.map FieldText.entry)) =
        some line.schema.value ∧
      Ordered.lookup itemKey (Ordered.ofEntries (line.fields.map FieldText.entry)) =
        some line.item.value := by
  have hschema : line.schema.entry = (schemaKey, line.schema.value) :=
    congrArg (·, _) (lowercase_of_map line.schema_key (by decide))
  have hitem : line.item.entry = (itemKey, line.item.value) :=
    congrArg (·, _) (lowercase_of_map line.item_key (by decide))
  have hkeys : schemaKey ≠ itemKey := by decide
  rw [Ordered.lookup_ofEntries, Ordered.lookup_ofEntries, fields]
  split <;> simp [hschema, hitem, Ordered.lookup, hkeys, hkeys.symm]

theorem navigate_written {line : NavigationLine} {lines : List (List Char)}
    (h : lines[2]? = some line.written) :
    navigate lines = .ok (line.written, selectAll line.schema.value line.item.value) := by
  obtain ⟨hschema, hitem⟩ := line.lookup_fields
  rw [navigate, h]
  dsimp only
  rw [line.bracedFields?_written]
  dsimp only
  rw [hschema, hitem]

end NavigationLine

theorem ofList_selectAll (schema item : List Char) :
    String.ofList (selectAll schema item) =
      "SELECT * FROM " ++ String.ofList schema ++ "." ++ String.ofList item := by
  unfold selectAll
  rw [← String.toList_inj]
  simp

/-- The record of a table that is imported directly. -/
def tableRecord (database : DatabaseLine) (navigation : NavigationLine) (name : String) :
    Record where
  name := name
  host := String.ofList database.host
  database := String.ofList database.database
  expression := String.ofList navigation.written
  query := "SELECT * FROM " ++ String.ofList navigation.schema.value ++ "." ++
    String.ofList navigation.item.value
  isTableDirectImport := true

theorem recordOfLines_navigationLine {database : DatabaseLine} {navigation : NavigationLine}
    {lines : List (List Char)} (name : String) (hdatabase : lines[1]? = some database.written)
    (hnavigation : lines[2]? = some navigation.written) :
    recordOfLines name lines = .ok (tableRecord database navigation name) := by
  have hclassify := DatabaseLine.classify_written hdatabase
  have hhost := database.argumentText_host
  have hname := database.argumentText_database
  have hdirect : database.call.isDirectImport = true := rfl
  have hquery : queryOf lines database.call =
      .ok (navigation.written, selectAll navigation.schema.value navigation.item.value) := by
    rw [queryOf, if_pos hdirect, NavigationLine.navigate_written hnavigation]
  simp only [recordOfLines, hclassify, hhost, hname, hquery, hdirect, bind, Except.bind,
    ofList_selectAll]
  rfl

/-! ## Main result -/

theorem extractDocument_navigationLine (database : DatabaseLine) (navigation : NavigationLine)
    (name : String) (expression : Expression) (table : Table) (before after : List Partition)
    (tables tables' : List Table) (hdatabase : expression.toLines[1]? = some database.written)
    (hnavigation : expression.toLines[2]? = some navigation.written)
    (visible : table.marked = false)
    (hpartitions : table.partitions = some (before ++ partitionOf name expression :: after)) :
    extractDocument ⟨some ⟨some (tables ++ table :: tables')⟩⟩ =
      .ok ⟨(extractImports (importsBefore tables table before)).records ++
          tableRecord database navigation name ::
            (extractImports (importsAfter table after tables')).records,
        (extractImports (importsBefore tables table before)).warnings ++
          (extractImports (importsAfter table after tables')).warnings⟩ :=
  extractDocument_partition visible hpartitions
    (recordOfLines_navigationLine name hdatabase hnavigation) tables tables'

theorem extractDocument_navigationLine_spaced :
    extractDocument ⟨some ⟨some [{ partitions := some [partitionOf "T" (.listed ["let",
      "S = Sql.Database(\"h,(é//\", \"d)\"),",
      "T = S\x7b [\tiTEM = \"a=b\x7b[é c\"  ,Schema=\"dbo\"] \x7d[Data]"])] }]⟩⟩ =
    .ok ⟨[{
      name := "T"
      host := "h,(é//"
      database := "d)"
      expression := "T = S\x7b [\tiTEM = \"a=b\x7b[é c\"  ,Schema=\"dbo\"] \x7d[Data]"
      query := "SELECT * FROM dbo.a=b\x7b[é c"
      isTableDirectImport := true }], []⟩ := by
  have hextract := extractDocument_navigationLine
    ⟨"S ".toList, " ".toList, "h,(é//".toList, "d)".toList, ",".toList,
      by decide, by decide, by decide, by decide, by decide, by decide⟩
    ⟨"T = S".toList, " ".toList,
      ⟨[], "Schema".toList, [], [], "dbo".toList, [], by decide, by decide,
        ⟨by decide, by decide, by decide, by decide +kernel, by decide⟩⟩,
      ⟨['\t'], "iTEM".toList, [' '], [' '], "a=b\x7b[é c".toList, [' ', ' '], by decide, by decide,
        ⟨by decide, by decide, by decide, by decide +kernel, by decide⟩⟩,
      true, " ".toList, "[Data]".toList, by decide, by decide, by decide, by decide⟩
    "T" (.listed ["let",
      "S = Sql.Database(\"h,(é//\", \"d)\"),",
      "T = S\x7b [\tiTEM = \"a=b\x7b[é c\"  ,Schema=\"dbo\"] \x7d[Data]"])
    { partitions := some [_] } [] [] [] [] (by decide +kernel) (by decide +kernel) rfl rfl
  exact hextract.trans (congrArg Except.ok (by decide +kernel))

end TableLineage.Lineage
