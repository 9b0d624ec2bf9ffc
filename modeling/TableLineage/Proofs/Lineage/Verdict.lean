import TableLineage.Lineage.Extraction
import TableLineage.Proofs.Formula.Classification
import TableLineage.Proofs.Formula.Navigation

/-!
# What the lines of an expression amount to

`recordOfLines_eq_iff`: the record or the refusal that the lines yield, by the
texts they are made of.  `exists_record_iff`: which lines yield a record.
-/

namespace TableLineage.Lineage

open Formula Text

inductive Classified (lines : List (List Char)) : Except Refusal Call → Prop
  | noCallLine : lines[1]? = none → Classified lines (.error .noCallLine)
  | noAssignment {line : List Char} :
      lines[1]? = some line → '=' ∉ line →
        Classified lines (.error (.noAssignment (trimmed line)))
  | noCall {line lhs right : List Char} :
      lines[1]? = some line → line = lhs ++ '=' :: right → '=' ∉ lhs → '(' ∉ right →
        Classified lines (.error (.noCall (trimmed right)))
  | otherSource {line lhs source inside : List Char} :
      lines[1]? = some line → CallLine line lhs source inside →
        trimmed source ≠ databaseSource →
        Classified lines (.error (.otherSource (trimmed source)))
  | call {line lhs source inside : List Char} :
      lines[1]? = some line → CallLine line lhs source inside →
        trimmed source = databaseSource →
        Classified lines (.ok ⟨source, splitArguments inside⟩)

theorem Classified.classify_eq {lines : List (List Char)} {result : Except Refusal Call}
    (h : Classified lines result) : classify lines = result := by
  cases h with
  | noCallLine hline => rw [classify, hline]
  | noAssignment hline hequal => rw [classify_of_line hline, callOfLine_of_no_assignment hequal]
  | noCall hline hright hlhs hparen =>
      rw [classify_of_line hline, callOfLine_of_no_group hright hlhs hparen]
  | otherSource hline hcall hsource =>
      rw [classify_of_line hline, callOfLine_of_callLine hcall, if_neg hsource]
  | call hline hcall hsource =>
      rw [classify_of_line hline, callOfLine_of_callLine hcall, if_pos hsource]

theorem exists_classified (lines : List (List Char)) : ∃ result, Classified lines result := by
  cases hline : lines[1]? with
  | none => exact ⟨_, .noCallLine hline⟩
  | some line =>
      rcases noCall_or_callLine line with (hequal | ⟨lhs, right, hright, hlhs, hparen⟩) |
        ⟨lhs, source, inside, hcall⟩
      · exact ⟨_, .noAssignment hline hequal⟩
      · exact ⟨_, .noCall hline hright hlhs hparen⟩
      · by_cases hsource : trimmed source = databaseSource
        · exact ⟨_, .call hline hcall hsource⟩
        · exact ⟨_, .otherSource hline hcall hsource⟩

theorem classify_eq_iff {lines : List (List Char)} {result : Except Refusal Call} :
    classify lines = result ↔ Classified lines result := by
  refine ⟨?_, Classified.classify_eq⟩
  rintro rfl
  obtain ⟨result, hresult⟩ := exists_classified lines
  rwa [hresult.classify_eq]

inductive Navigated (lines : List (List Char)) : Except Refusal (List Char × List Char) → Prop
  | noLine : lines[2]? = none → Navigated lines (.error .noNavigationLine)
  | noRecord {line : List Char} :
      lines[2]? = some line → (∀ span, ¬ Braced span line) →
        Navigated lines (.error (.noNavigationRecord (trimmed line)))
  | incomplete {line span : List Char} :
      lines[2]? = some line → Braced span line →
        ¬ (Defines schemaKey line ∧ Defines itemKey line) →
        Navigated lines (.error (.incompleteNavigation (trimmed line)))
  | table {line schema item : List Char} {fields : List (List Char × List Char)} :
      lines[2]? = some line → bracedFields? line = some fields →
        Ordered.lookup schemaKey fields = some schema →
        Ordered.lookup itemKey fields = some item →
        Navigated lines (.ok (line, selectAll schema item))

theorem Navigated.navigate_eq {lines : List (List Char)}
    {result : Except Refusal (List Char × List Char)} (h : Navigated lines result) :
    navigate lines = result := by
  cases h with
  | noLine hline => rw [navigate, hline]
  | noRecord hline hspan =>
      rw [navigate, hline]
      dsimp only
      rw [bracedFields?_eq_none_iff.mpr hspan]
  | @incomplete line span hline hspan hkeys =>
      have hfields := bracedFields?_eq_some_iff.mpr ⟨span, hspan, rfl⟩
      rw [navigate, hline]
      dsimp only
      rw [hfields]
      dsimp only
      split
      · next schema item hschema hitem =>
          refine absurd ⟨?_, ?_⟩ hkeys
          · exact (isSome_lookup_bracedFields? hfields).mp (Option.isSome_of_eq_some hschema)
          · exact (isSome_lookup_bracedFields? hfields).mp (Option.isSome_of_eq_some hitem)
      · rfl
  | table hline hfields hschema hitem =>
      rw [navigate, hline]
      dsimp only
      rw [hfields]
      dsimp only
      rw [hschema, hitem]

theorem exists_navigated_of_defines {lines : List (List Char)} {line : List Char}
    (hline : lines[2]? = some line) (hschema : Defines schemaKey line)
    (hitem : Defines itemKey line) : ∃ found, Navigated lines (.ok found) := by
  obtain ⟨span, -, -, -, hspan, -⟩ := id hschema
  have hfields := bracedFields?_eq_some_iff.mpr ⟨span, hspan, rfl⟩
  rw [← isSome_lookup_bracedFields? hfields, Option.isSome_iff_exists] at hschema hitem
  obtain ⟨schema, hschema⟩ := hschema
  obtain ⟨item, hitem⟩ := hitem
  exact ⟨_, .table hline hfields hschema hitem⟩

theorem exists_navigated (lines : List (List Char)) : ∃ result, Navigated lines result := by
  cases hline : lines[2]? with
  | none => exact ⟨_, .noLine hline⟩
  | some line =>
      by_cases hspan : ∃ span, Braced span line
      · obtain ⟨span, hspan⟩ := hspan
        by_cases hkeys : Defines schemaKey line ∧ Defines itemKey line
        · obtain ⟨found, hfound⟩ := exists_navigated_of_defines hline hkeys.1 hkeys.2
          exact ⟨_, hfound⟩
        · exact ⟨_, .incomplete hline hspan hkeys⟩
      · exact ⟨_, .noRecord hline (not_exists.mp hspan)⟩

theorem navigate_eq_iff {lines : List (List Char)}
    {result : Except Refusal (List Char × List Char)} :
    navigate lines = result ↔ Navigated lines result := by
  refine ⟨?_, Navigated.navigate_eq⟩
  rintro rfl
  obtain ⟨result, hresult⟩ := exists_navigated lines
  rwa [hresult.navigate_eq]

theorem exists_table_iff {lines : List (List Char)} :
    (∃ found, Navigated lines (.ok found)) ↔
      ∃ line, lines[2]? = some line ∧ Defines schemaKey line ∧ Defines itemKey line := by
  constructor
  · rintro ⟨found, hfound⟩
    cases hfound with
    | table hline hfields hschema hitem =>
        refine ⟨_, hline, ?_, ?_⟩
        · exact (isSome_lookup_bracedFields? hfields).mp (Option.isSome_of_eq_some hschema)
        · exact (isSome_lookup_bracedFields? hfields).mp (Option.isSome_of_eq_some hitem)
  · rintro ⟨line, hline, hschema, hitem⟩
    exact exists_navigated_of_defines hline hschema hitem

/-- What a literal says; a text that is no literal is taken as it stands. -/
def literalText (argument : List Char) : String := String.ofList (unquote (trim argument))

inductive Verdict (name : String) (lines : List (List Char)) : Except Refusal Record → Prop
  | unclassified {refusal : Refusal} :
      Classified lines (.error refusal) → Verdict name lines (.error refusal)
  | oneArgument {call : Call} :
      Classified lines (.ok call) → call.arguments.others = [] →
        Verdict name lines (.error (.missingArgument 2 (trimmed call.text)))
  | astray {call : Call} {database : List Char} {refusal : Refusal} :
      Classified lines (.ok call) → call.arguments.others = [database] →
        Navigated lines (.error refusal) → Verdict name lines (.error refusal)
  | table {call : Call} {database expression query : List Char} :
      Classified lines (.ok call) → call.arguments.others = [database] →
        Navigated lines (.ok (expression, query)) →
        Verdict name lines (.ok {
          name
          host := literalText call.arguments.first
          database := literalText database
          expression := String.ofList expression
          query := String.ofList query
          isTableDirectImport := true })
  | query {call : Call} {database third : List Char} {others : List (List Char)} :
      Classified lines (.ok call) → call.arguments.others = database :: third :: others →
        Verdict name lines (.ok {
          name
          host := literalText call.arguments.first
          database := literalText database
          expression := String.ofList (Arguments.written ⟨third, others, call.arguments.rest⟩)
          query := String.ofList (normalizeQuery (quotedSpan
            (Arguments.written ⟨third, others, call.arguments.rest⟩)))
          isTableDirectImport := false })

theorem argumentText_first (call : Call) :
    argumentText call 0 = .ok (literalText call.arguments.first) := rfl

theorem argumentText_second_nil {call : Call} (h : call.arguments.others = []) :
    argumentText call 1 = .error (.missingArgument 2 (trimmed call.text)) := by
  rw [argumentText, Call.argument?, Arguments.all, h]
  rfl

theorem argumentText_second_cons {call : Call} {database : List Char} {others : List (List Char)}
    (h : call.arguments.others = database :: others) :
    argumentText call 1 = .ok (literalText database) := by
  rw [argumentText, Call.argument?, Arguments.all, h]
  rfl

theorem recordOfLines_of_two {lines : List (List Char)} {call : Call} {database : List Char}
    (hcall : Classified lines (.ok call)) (hothers : call.arguments.others = [database])
    (name : String) :
    recordOfLines name lines = (navigate lines).map fun found => {
      name
      host := literalText call.arguments.first
      database := literalText database
      expression := String.ofList found.1
      query := String.ofList found.2
      isTableDirectImport := true } := by
  have hdirect : call.isDirectImport = true := by
    rw [Call.isDirectImport, Call.separatorCount, hothers]
    rfl
  simp only [recordOfLines, hcall.classify_eq, argumentText_first,
    argumentText_second_cons hothers, queryOf, hdirect, bind, Except.bind, if_true]
  cases navigate lines <;> rfl

theorem Verdict.recordOfLines_eq {name : String} {lines : List (List Char)}
    {result : Except Refusal Record} (h : Verdict name lines result) :
    recordOfLines name lines = result := by
  cases h with
  | unclassified hcall =>
      simp only [recordOfLines, hcall.classify_eq, bind, Except.bind]
  | oneArgument hcall hothers =>
      simp only [recordOfLines, hcall.classify_eq, argumentText_first,
        argumentText_second_nil hothers, bind, Except.bind]
  | astray hcall hothers hnavigated =>
      rw [recordOfLines_of_two hcall hothers, hnavigated.navigate_eq]
      rfl
  | table hcall hothers hnavigated =>
      rw [recordOfLines_of_two hcall hothers, hnavigated.navigate_eq]
      rfl
  | @query call database third others hcall hothers =>
      have hdirect : call.isDirectImport = false := by
        simp [Call.isDirectImport, Call.separatorCount, hothers]
      have hafter : call.textAfter? 1 =
          some (Arguments.written ⟨third, others, call.arguments.rest⟩) := by
        rw [Call.textAfter?, hothers]
        rfl
      simp only [recordOfLines, hcall.classify_eq, argumentText_first,
        argumentText_second_cons hothers, queryOf, hdirect, hafter, bind, Except.bind,
        Bool.false_eq_true, if_false, Option.getD_some]

theorem exists_verdict (name : String) (lines : List (List Char)) :
    ∃ result, Verdict name lines result := by
  cases hcall : classify lines with
  | error refusal => exact ⟨_, .unclassified (classify_eq_iff.mp hcall)⟩
  | ok call =>
      have hclassified := classify_eq_iff.mp hcall
      cases hothers : call.arguments.others with
      | nil => exact ⟨_, .oneArgument hclassified hothers⟩
      | cons database others =>
          cases others with
          | nil =>
              cases hfound : navigate lines with
              | error refusal =>
                  exact ⟨_, .astray hclassified hothers (navigate_eq_iff.mp hfound)⟩
              | ok found => exact ⟨_, .table hclassified hothers (navigate_eq_iff.mp hfound)⟩
          | cons third others => exact ⟨_, .query hclassified hothers⟩

theorem recordOfLines_eq_iff {name : String} {lines : List (List Char)}
    {result : Except Refusal Record} :
    recordOfLines name lines = result ↔ Verdict name lines result := by
  refine ⟨?_, Verdict.recordOfLines_eq⟩
  rintro rfl
  obtain ⟨result, hresult⟩ := exists_verdict name lines
  rwa [hresult.recordOfLines_eq]

/-! ## Lines that yield a record -/

/-- The call opens a database with at least two arguments, and if there are just two, the next
line names schema and item. -/
def Traceable (lines : List (List Char)) : Prop :=
  ∃ line lhs source inside, lines[1]? = some line ∧ CallLine line lhs source inside ∧
    trimmed source = databaseSource ∧ 2 ≤ (splitArguments inside).all.length ∧
    ((splitArguments inside).all.length = 2 →
      ∃ navigation, lines[2]? = some navigation ∧ Defines schemaKey navigation ∧
        Defines itemKey navigation)

/-- The line of the call names a source of another type. -/
def Foreign (lines : List (List Char)) : Prop :=
  ∃ line lhs source inside, lines[1]? = some line ∧ CallLine line lhs source inside ∧
    trimmed source ≠ databaseSource

theorem exists_record_iff {name : String} {lines : List (List Char)} :
    (∃ record, Verdict name lines (.ok record)) ↔ Traceable lines := by
  constructor
  · rintro ⟨record, h⟩
    cases h with
    | table hcall hothers hnavigated =>
        cases hcall with
        | call hline hcall hsource =>
            dsimp only at hothers
            refine ⟨_, _, _, _, hline, hcall, hsource, ?_, ?_⟩
            · simp [Arguments.all, hothers]
            · exact fun _ => exists_table_iff.mp ⟨_, hnavigated⟩
    | query hcall hothers =>
        cases hcall with
        | call hline hcall hsource =>
            dsimp only at hothers
            refine ⟨_, _, _, _, hline, hcall, hsource, ?_, ?_⟩
            · simp [Arguments.all, hothers]
            · simp [Arguments.all, hothers]
  · rintro ⟨line, lhs, source, inside, hline, hcall, hsource, hslots, hnavigation⟩
    have hclassified := Classified.call hline hcall hsource
    rw [Arguments.all] at hslots hnavigation
    cases hothers : (splitArguments inside).others with
    | nil => simp [hothers] at hslots
    | cons database others =>
        cases others with
        | nil =>
            obtain ⟨found, hfound⟩ := exists_table_iff.mpr (hnavigation (by simp [hothers]))
            exact ⟨_, .table hclassified hothers hfound⟩
        | cons third others => exact ⟨_, .query hclassified hothers⟩

theorem exists_otherSource_iff {name : String} {lines : List (List Char)} :
    (∃ found, Verdict name lines (.error (.otherSource found))) ↔ Foreign lines := by
  constructor
  · rintro ⟨found, h⟩
    cases h with
    | unclassified hcall =>
        cases hcall with
        | otherSource hline hcall hsource => exact ⟨_, _, _, _, hline, hcall, hsource⟩
    | astray _ _ hnavigated => cases hnavigated
  · rintro ⟨line, lhs, source, inside, hline, hcall, hsource⟩
    exact ⟨_, .unclassified (.otherSource hline hcall hsource)⟩

end TableLineage.Lineage
