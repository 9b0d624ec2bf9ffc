import TableLineage.Proofs.Lineage.Outcome
import TableLineage.Proofs.Text.Lines

/-!
# Lines and whole texts are interchangeable

An expression that is kept as a list of lines may be put together to one text.
An empty line at the end gets lost then; it names no source and no table, so the
partition is refused with it and without it.  `extractDocument_rejoined`: the
records of a document stay as they are and the same partitions are dropped.
-/

namespace TableLineage.Lineage

open Formula Schema Text

inductive Agrees : Except Refusal Record → Except Refusal Record → Prop
  | refl (result : Except Refusal Record) : Agrees result result
  | refused {refusal refusal' : Refusal} :
      refusal.isOtherSource = false → refusal'.isOtherSource = false →
        Agrees (.error refusal) (.error refusal')

theorem Agrees.toOption_eq {result result' : Except Refusal Record} (h : Agrees result result') :
    result.toOption = result'.toOption := by
  cases h <;> rfl

theorem classify_congr {found found' : List (List Char)} (h : found[1]? = found'[1]?) :
    classify found = classify found' := by
  rw [classify, classify, h]

theorem navigate_congr {found found' : List (List Char)} (h : found[2]? = found'[2]?) :
    navigate found = navigate found' := by
  rw [navigate, navigate, h]

/-- Only the line of the call and the line behind it are looked at. -/
theorem recordOfLines_congr {found found' : List (List Char)} (hcall : found[1]? = found'[1]?)
    (hnavigation : found[2]? = found'[2]?) (name : String) :
    recordOfLines name found = recordOfLines name found' := by
  simp only [recordOfLines, queryOf, classify_congr hcall, navigate_congr hnavigation]

theorem agrees_of_no_call {found found' : List (List Char)} (hfound : found[1]? = none)
    (hfound' : found'[1]? = some []) (name : String) :
    Agrees (recordOfLines name found) (recordOfLines name found') := by
  have hmissing : Verdict name found (.error .noCallLine) := .unclassified (.noCallLine hfound)
  have hempty : Verdict name found' (.error (.noAssignment (trimmed []))) :=
    .unclassified (.noAssignment hfound' List.not_mem_nil)
  rw [hmissing.recordOfLines_eq, hempty.recordOfLines_eq]
  exact .refused rfl rfl

theorem agrees_of_no_navigation {found found' : List (List Char)}
    (hcall : found[1]? = found'[1]?) (hfound : found[2]? = none) (hfound' : found'[2]? = some [])
    (name : String) : Agrees (recordOfLines name found) (recordOfLines name found') := by
  have hclassify {result : Except Refusal Call} (h : Classified found result) :
      Classified found' result := by
    rw [← classify_eq_iff, ← classify_congr hcall, h.classify_eq]
  obtain ⟨result, hverdict⟩ := exists_verdict name found
  rw [hverdict.recordOfLines_eq]
  cases hverdict with
  | unclassified h =>
      rw [(Verdict.unclassified (hclassify h)).recordOfLines_eq]
      exact .refl _
  | oneArgument h hothers =>
      rw [(Verdict.oneArgument (hclassify h) hothers).recordOfLines_eq]
      exact .refl _
  | query h hothers =>
      rw [(Verdict.query (hclassify h) hothers).recordOfLines_eq]
      exact .refl _
  | astray h hothers hnavigated =>
      -- Refused on both sides, here for the missing line and there for the empty one.
      have hspan : ∀ span, ¬ Braced span ([] : List Char) := by
        rintro span ⟨front, back, heq, -, -⟩
        exact absurd heq (by simp)
      have hempty : Verdict name found' (.error (.noNavigationRecord (trimmed []))) :=
        .astray (hclassify h) hothers (.noRecord hfound' hspan)
      rw [hempty.recordOfLines_eq]
      cases hnavigated with
      | noLine => exact .refused rfl rfl
      | noRecord hline => rw [hfound] at hline; cases hline
      | incomplete hline => rw [hfound] at hline; cases hline
  | table h hothers hnavigated =>
      cases hnavigated with
      | table hline => rw [hfound] at hline; cases hline

theorem recordOfLines_dropFinalEmpty (name : String) (found : List (List Char)) :
    Agrees (recordOfLines name (dropFinalEmpty found)) (recordOfLines name found) := by
  rcases dropFinalEmpty_cases found with ⟨heq, -⟩ | heq
  · rw [heq]
    exact .refl _
  · generalize dropFinalEmpty found = kept at heq
    subst heq
    -- Only the second and the third line are read, so the loss shows behind one line or two.
    rcases kept with _ | ⟨first, _ | ⟨second, _ | ⟨third, rest⟩⟩⟩
    · have hsame : recordOfLines name [] = recordOfLines name ([] ++ [[]]) :=
        recordOfLines_congr rfl rfl name
      rw [hsame]
      exact .refl _
    · exact agrees_of_no_call rfl rfl name
    · have hcall : [first, second][1]? = ([first, second] ++ [[]])[1]? := rfl
      exact agrees_of_no_navigation hcall rfl rfl name
    · have hsame : recordOfLines name (first :: second :: third :: rest) =
          recordOfLines name (first :: second :: third :: rest ++ [[]]) :=
        recordOfLines_congr rfl rfl name
      rw [hsame]
      exact .refl _

/-- An expression as it is, or a list of lines and the same lines in one text. -/
inductive RejoinedExpression : Expression → Expression → Prop
  | same (expression : Expression) : RejoinedExpression expression expression
  | joined {lines : List String} {text : String} :
      (∀ line ∈ lines, Unbroken line.toList) → LinesJoined (lines.map String.toList) text.toList →
        RejoinedExpression (.listed lines) (.whole text)

structure RejoinedSource (source source' : Source) : Prop where
  kind_eq : source'.kind = source.kind
  expression : Option.Rel RejoinedExpression source.expression source'.expression

structure RejoinedPartition (partition partition' : Partition) : Prop where
  name_eq : partition'.name = partition.name
  mode_eq : partition'.mode = partition.mode
  source : Option.Rel RejoinedSource partition.source partition'.source

theorem rejoinedPartition_partitionOf (name : String) {lines : List String} {text : String}
    (unbroken : ∀ line ∈ lines, Unbroken line.toList)
    (h : LinesJoined (lines.map String.toList) text.toList) :
    RejoinedPartition (partitionOf name (.listed lines)) (partitionOf name (.whole text)) :=
  ⟨rfl, rfl, .some ⟨rfl, .some (.joined unbroken h)⟩⟩

structure RejoinedTable (table table' : Table) : Prop where
  name_eq : table'.name = table.name
  marked_eq : table'.marked = table.marked
  partitions :
    Option.Rel (List.Forall₂ RejoinedPartition) table.partitions table'.partitions

/-- The second document is the first one with the lines of some expressions put together. -/
def RejoinedDocument (document document' : Document) : Prop :=
  Option.Rel
    (fun model model' => Option.Rel (List.Forall₂ RejoinedTable) model.tables model'.tables)
    document.model document'.model

structure RejoinedImport (item item' : Import) : Prop where
  table_eq : item'.table = item.table
  name_eq : item'.name = item.name
  expression : RejoinedExpression item.expression item'.expression

def RejoinedPlacement (place place' : Table × Partition) : Prop :=
  RejoinedTable place.1 place'.1 ∧ RejoinedPartition place.2 place'.2

theorem RejoinedExpression.toLines_eq {lines : List String} {text : String}
    (unbroken : ∀ line ∈ lines, Unbroken line.toList)
    (h : LinesJoined (lines.map String.toList) text.toList) :
    (Expression.whole text).toLines = dropFinalEmpty (Expression.listed lines).toLines := by
  refine lines_joined h fun line hline => ?_
  obtain ⟨listed, hlisted, rfl⟩ := List.mem_map.mp hline
  exact unbroken listed hlisted

theorem RejoinedImport.agrees {item item' : Import} (h : RejoinedImport item item') :
    Agrees (recordOf item') (recordOf item) := by
  have hexpression := h.expression
  rw [recordOf, recordOf, h.name_eq]
  generalize item.expression = expression, item'.expression = expression' at hexpression
  cases hexpression with
  | same => exact .refl _
  | joined unbroken hjoined =>
      rw [RejoinedExpression.toLines_eq unbroken hjoined]
      exact recordOfLines_dropFinalEmpty _ _

theorem placements_rejoined {tables tables' : List Table}
    (h : List.Forall₂ RejoinedTable tables tables') :
    List.Forall₂ RejoinedPlacement (placements tables) (placements tables') := by
  refine List.rel_flatMap h fun table table' htable => ?_
  rw [List.forall₂_map_left_iff, List.forall₂_map_right_iff]
  have hpartitions := htable.partitions
  generalize table.partitions = partitions, table'.partitions = partitions' at hpartitions
  cases hpartitions with
  | none => exact .nil
  | some hpartitions => exact hpartitions.imp fun _ _ hpartition => ⟨htable, hpartition⟩

theorem formula?_rejoined {source source' : Source} (h : RejoinedSource source source') :
    Option.Rel RejoinedExpression source.formula? source'.formula? := by
  rw [Source.formula?, Source.formula?, h.kind_eq]
  split
  · exact h.expression
  · exact .none

theorem import?_rejoined {table : Option String} {partition partition' : Partition}
    (h : RejoinedPartition partition partition') :
    Option.Rel RejoinedImport (partition.import? table) (partition'.import? table) := by
  have hformula : Option.Rel RejoinedExpression (partition.source.bind Source.formula?)
      (partition'.source.bind Source.formula?) := by
    have hsource := h.source
    generalize partition.source = source, partition'.source = source' at hsource
    cases hsource with
    | none => exact .none
    | some hsource => exact formula?_rejoined hsource
  rw [Partition.import?, Partition.import?, h.mode_eq, h.name_eq]
  generalize partition.source.bind Source.formula? = found,
    partition'.source.bind Source.formula? = found' at hformula
  split
  · cases hformula with
    | none => cases partition.name <;> exact .none
    | some hexpression =>
        cases partition.name with
        | none => exact .none
        | some name => exact .some ⟨rfl, rfl, hexpression⟩
  · exact .none

theorem selected?_rejoined {place place' : Table × Partition} (h : RejoinedPlacement place place') :
    Option.Rel RejoinedImport (selected? place) (selected? place') := by
  obtain ⟨htable, hpartition⟩ := h
  have hlisted : place'.1.partitions.isSome = place.1.partitions.isSome := by
    have hpartitions := htable.partitions
    generalize place.1.partitions = partitions, place'.1.partitions = partitions' at hpartitions
    cases hpartitions <;> rfl
  rw [selected?, selected?, Table.eligible, Table.eligible, hlisted, htable.marked_eq,
    htable.name_eq]
  split
  · exact import?_rejoined hpartition
  · exact .none

/-- Two outcomes are equal, or both are warnings. -/
inductive Outcome.Alike : Outcome → Outcome → Prop
  | refl (outcome : Outcome) : Alike outcome outcome
  | warning (text text' : String) : Alike (.warning text) (.warning text')

theorem Outcome.Alike.record?_eq {outcome outcome' : Outcome} (h : Alike outcome outcome') :
    outcome'.record? = outcome.record? := by
  cases h <;> rfl

theorem RejoinedImport.alike {item item' : Import} (h : RejoinedImport item item') :
    (importOutcome item).Alike (importOutcome item') := by
  have hagrees := h.agrees
  rw [importOutcome, importOutcome]
  generalize recordOf item = result, recordOf item' = result' at hagrees
  cases hagrees with
  | refl =>
      cases result with
      | ok record => exact .refl _
      | error refusal =>
          dsimp only
          split
          · exact .refl _
          · exact .warning _ _
  | refused hrefusal hrefusal' =>
      dsimp only
      rw [hrefusal, hrefusal', if_neg Bool.false_ne_true, if_neg Bool.false_ne_true]
      exact .warning _ _

theorem outcomeOf_rejoined {place place' : Table × Partition} (h : RejoinedPlacement place place') :
    (outcomeOf place).Alike (outcomeOf place') := by
  have hselected := selected?_rejoined h
  rw [outcomeOf, outcomeOf]
  generalize selected? place = item?, selected? place' = item?' at hselected
  cases hselected with
  | none => exact .refl _
  | some hitem => exact hitem.alike

theorem filterMap_record?_of_alike {outcomes outcomes' : List Outcome}
    (h : List.Forall₂ Outcome.Alike outcomes outcomes') :
    outcomes'.filterMap Outcome.record? = outcomes.filterMap Outcome.record? := by
  induction h with
  | nil => rfl
  | cons houtcome _ ih => rw [List.filterMap_cons, List.filterMap_cons, houtcome.record?_eq, ih]

theorem outcomes_rejoined {tables tables' : List Table}
    (h : List.Forall₂ RejoinedTable tables tables') :
    List.Forall₂ Outcome.Alike ((placements tables).map outcomeOf)
      ((placements tables').map outcomeOf) := by
  rw [List.forall₂_map_left_iff, List.forall₂_map_right_iff]
  exact (placements_rejoined h).imp fun _ _ => outcomeOf_rejoined

/-! ## Main result -/

theorem extractDocument_rejoined :
    (∀ lines text, (∀ line ∈ lines, Unbroken line.toList) →
      LinesJoined (lines.map String.toList) text.toList →
      (Expression.whole text).toLines = dropFinalEmpty (Expression.listed lines).toLines) ∧
    (∀ name found, (recordOfLines name (dropFinalEmpty found)).toOption =
      (recordOfLines name found).toOption) ∧
    ∀ document document', RejoinedDocument document document' →
      (extractDocument document = .error .missingRoot ∧
        extractDocument document' = .error .missingRoot) ∨
      ∃ tables tables' found found', document.tables? = some tables ∧
        document'.tables? = some tables' ∧ extractDocument document = .ok found ∧
        extractDocument document' = .ok found' ∧ found'.records = found.records ∧
        List.Forall₂ (fun place place' => ∃ outcome outcome', Ends place outcome ∧
            Ends place' outcome' ∧ outcome.Alike outcome')
          (placements tables) (placements tables') := by
  refine ⟨fun _ _ => RejoinedExpression.toLines_eq,
    fun name found => (recordOfLines_dropFinalEmpty name found).toOption_eq, ?_⟩
  rintro ⟨model⟩ ⟨model'⟩ h
  rw [RejoinedDocument] at h
  dsimp only at h
  cases h with
  | none => exact .inl ⟨rfl, rfl⟩
  | @some model model' h =>
      obtain ⟨tables⟩ := model
      obtain ⟨tables'⟩ := model'
      dsimp only at h
      cases h with
      | none => exact .inl ⟨rfl, rfl⟩
      | @some tables tables' h =>
          refine .inr ⟨tables, tables', _, _, rfl, rfl, rfl, rfl, ?_, ?_⟩
          · rw [extractImports_importsOf, extractImports_importsOf]
            exact filterMap_record?_of_alike (outcomes_rejoined h)
          · refine (placements_rejoined h).imp fun place place' hplace => ?_
            exact ⟨_, _, outcomeOf_eq_iff.mp rfl, outcomeOf_eq_iff.mp rfl,
              outcomeOf_rejoined hplace⟩

/-- Of two partitions the empty line at the end gets lost, which stands for the navigation record of
the second one. -/
theorem extractDocument_rejoined_final_break :
    ∃ found found',
      extractDocument ⟨some ⟨some [{ partitions := some [
        partitionOf "A" (.listed ["let", "S = Sql.Database(\"h\", \"d\", \"q\")", ""]),
        partitionOf "B" (.listed ["let", "S = Sql.Database(\"h\", \"d\")", ""])] }]⟩⟩ =
          .ok found ∧
      extractDocument ⟨some ⟨some [{ partitions := some [
        partitionOf "A" (.whole "let\r\nS = Sql.Database(\"h\", \"d\", \"q\")\n"),
        partitionOf "B" (.whole "let\nS = Sql.Database(\"h\", \"d\")\r\n")] }]⟩⟩ =
          .ok found' ∧
      found'.records = found.records := by
  have hfirst : LinesJoined (["let", "S = Sql.Database(\"h\", \"d\", \"q\")", ""].map String.toList)
      "let\r\nS = Sql.Database(\"h\", \"d\", \"q\")\n".toList := by
    have htext : "let\r\nS = Sql.Database(\"h\", \"d\", \"q\")\n".toList =
        "let".toList ++ '\r' :: '\n' ::
          ("S = Sql.Database(\"h\", \"d\", \"q\")".toList ++ '\n' :: "".toList) := by
      decide +kernel
    rw [htext]
    exact .returned (.lineFeed (.single _))
  have hsecond : LinesJoined (["let", "S = Sql.Database(\"h\", \"d\")", ""].map String.toList)
      "let\nS = Sql.Database(\"h\", \"d\")\r\n".toList := by
    have htext : "let\nS = Sql.Database(\"h\", \"d\")\r\n".toList =
        "let".toList ++ '\n' ::
          ("S = Sql.Database(\"h\", \"d\")".toList ++ '\r' :: '\n' :: "".toList) := by
      decide +kernel
    rw [htext]
    exact .lineFeed (.returned (.single _))
  have hA := rejoinedPartition_partitionOf "A" (by decide +kernel) hfirst
  have hB := rejoinedPartition_partitionOf "B" (by decide +kernel) hsecond
  have hdocument {partitions partitions' : List Partition}
      (h : List.Forall₂ RejoinedPartition partitions partitions') :
      RejoinedDocument ⟨some ⟨some [{ partitions := some partitions }]⟩⟩
        ⟨some ⟨some [{ partitions := some partitions' }]⟩⟩ :=
    .some (.some (List.Forall₂.cons ⟨rfl, rfl, .some h⟩ .nil))
  rcases extractDocument_rejoined.2.2 _ _ (hdocument (.cons hA (.cons hB .nil))) with ⟨h, -⟩ |
    ⟨_, _, found, found', -, -, h, h', hrecords, -⟩
  · cases h
  · exact ⟨found, found', h, h', hrecords⟩

end TableLineage.Lineage
