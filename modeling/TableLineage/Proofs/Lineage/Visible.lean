import TableLineage.Proofs.Json.Printing
import TableLineage.Proofs.Lineage.Outcome
import TableLineage.Proofs.Schema.Unseen

/-!
# Only what is looked at has an effect

Records and warnings depend on a document through its visible tables alone.
-/

namespace TableLineage.Schema

open Json

def PartitionView.toPartition (view : PartitionView) : Partition where
  name := view.name
  mode := view.mode
  source := some ⟨view.kind, view.expression⟩

def TableView.imports (view : TableView) : List Import :=
  view.partitions.filterMap fun partition => partition.toPartition.import? view.name

theorem Partition.import?_ofPartition (table : Option String) (partition : Partition) :
    (PartitionView.ofPartition partition).toPartition.import? table = partition.import? table := by
  obtain ⟨name, mode, source⟩ := partition
  cases source with
  | some source => rfl
  | none => cases name <;> simp [PartitionView.ofPartition, PartitionView.toPartition,
      Partition.import?, Source.formula?]

theorem Table.imports_ofTable? (table : Table) :
    table.imports = ((TableView.ofTable? table).map TableView.imports).getD [] := by
  obtain ⟨name, partitions, marked⟩ := table
  cases partitions with
  | none => cases marked <;> rfl
  | some partitions =>
      cases marked with
      | true => rfl
      | false =>
          change partitions.filterMap (Partition.import? name) =
            (partitions.map PartitionView.ofPartition).filterMap fun partition =>
              partition.toPartition.import? name
          rw [List.filterMap_map]
          exact congrArg (List.filterMap · partitions)
            (funext fun partition => (partition.import?_ofPartition name).symm)

theorem importsOf_views (tables : List Table) :
    importsOf tables = (tables.filterMap TableView.ofTable?).flatMap TableView.imports := by
  induction tables with
  | nil => rfl
  | cons table tables ih =>
      have hcons : importsOf (table :: tables) = table.imports ++ importsOf tables := rfl
      rw [hcons, ih, Table.imports_ofTable?]
      cases hview : TableView.ofTable? table with
      | none => rw [List.filterMap_cons_none hview]; rfl
      | some view => rw [List.filterMap_cons_some hview]; rfl

end TableLineage.Schema

namespace TableLineage.Lineage

open Schema Json

/-- A text that is read as a document, with its tree, in which each record is written as an
object. -/
structure IsDocument (text : List Char) (root : Tree) (tables : List Tree) : Prop where
  reads : ∃ document, Document.ofText text = .ok document
  isTreeOf : root.IsTreeOf text
  asObjects : documentAsObjects root = true
  listsTables : tablesOfTree? root = some tables

theorem IsDocument.extractText_eq {text : List Char} {root : Tree} {tables : List Tree}
    (h : IsDocument text root tables) :
    extractText text =
      .ok (extractImports ((tables.filterMap TableView.ofTree?).flatMap TableView.imports)) := by
  obtain ⟨document, hread⟩ := h.reads
  obtain ⟨root', hroot', hfits⟩ := Document.exists_tree hread
  obtain rfl := h.isTreeOf.unique hroot'
  have hviews := hfits h.asObjects
  rw [h.listsTables, Option.map_some] at hviews
  obtain ⟨found, hfound, hviews⟩ := Option.map_eq_some_iff.mp hviews
  have hvisible : found.filterMap TableView.ofTable? = tables.filterMap TableView.ofTree? := by
    have h := congrArg (List.filterMap id) hviews
    rwa [List.filterMap_map, List.filterMap_map, Function.id_comp, Function.id_comp] at h
  rw [extractText, hread]
  dsimp only
  rw [extractDocument, Document.imports?, hfound, Option.map_some]
  dsimp only
  rw [importsOf_views, hvisible]

theorem same_of_eqvGen {root root' : Tree}
    (h : Relation.EqvGen (Unseen (.record .document)) root root') :
    Level.document.Same root root' := by
  have hequivalence : Equivalence Level.document.Same := ⟨fun _ => rfl, Eq.symm, Eq.trans⟩
  exact hequivalence.eqvGen_iff.mp (h.mono fun _ _ h => h.same)

theorem exists_ok {ε α : Type} {result : Except ε α} (h : result.toOption.isSome = true) :
    ∃ a, result = .ok a := by
  cases result with
  | error e => cases h
  | ok a => exact ⟨a, rfl⟩

/-! ## Main result -/

theorem extractText_visible :
    (∀ text document, Document.ofText text = .ok document → ∃! root : Tree, root.IsTreeOf text) ∧
    ∀ (first second : List Char) (root root' : Tree) (tables tables' : List Tree),
      IsDocument first root tables → IsDocument second root' tables' →
      (tables.filterMap TableView.ofTree? = tables'.filterMap TableView.ofTree? →
        ∃ found, extractText first = .ok found ∧ extractText second = .ok found) ∧
      (Relation.EqvGen (Unseen (.record .document)) root root' →
        extractText first = extractText second) ∧
      ∀ before hidden behind, tables = before ++ hidden :: behind → tables' = before ++ behind →
        (hidden.member? "isHidden").isSome = true → extractText first = extractText second := by
  refine ⟨fun text document hread => ?_, ?_⟩
  · obtain ⟨root, hroot, -⟩ := Document.exists_tree hread
    exact ⟨root, hroot, fun root' hroot' => hroot'.unique hroot⟩
  · intro first second root root' tables tables' hfirst hsecond
    have hagree (h : tables.filterMap TableView.ofTree? = tables'.filterMap TableView.ofTree?) :
        extractText first = extractText second := by
      rw [hfirst.extractText_eq, hsecond.extractText_eq, h]
    refine ⟨fun h => ⟨_, hfirst.extractText_eq, ?_⟩, fun hunseen => ?_, ?_⟩
    · rw [← hagree h, hfirst.extractText_eq]
    · have hsame : Level.document.Same root root' := same_of_eqvGen hunseen
      rw [Level.Same, hfirst.listsTables, hsecond.listsTables, Option.map_some, Option.map_some,
        Option.some.injEq] at hsame
      exact hagree hsame
    · rintro before hidden behind rfl rfl hmarked
      have hnone : TableView.ofTree? hidden = none := if_pos hmarked
      refine hagree ?_
      rw [List.filterMap_append, List.filterMap_append, List.filterMap_cons_none hnone]

def nameMember : String × Value := ("name", .string "U")

def partitionsMember : String × Value :=
  ("partitions", .array [.object [
    ("name", .string "P"),
    ("mode", .string "import"),
    ("source", .object [
      ("type", .string "m"),
      ("expression", .array [.string "let",
        .string "S = Sql.Database(\"srv\", \"db\", [Query=\"select 1\"])"])])]])

def filledTable : Value := .object [nameMember, partitionsMember]

def markedTable : Value := .object [("isHidden", .null), nameMember, partitionsMember]

def turnedTable : Value := .object [partitionsMember, nameMember]

/-- A document that lists tables and nothing else. -/
def listing (tables : List Value) : String × Value := ("model", .object [("tables", .array tables)])

def filledDocument : Value := .object [listing [filledTable]]

def crowdedDocument : Value := .object [("x", .array [.null]), listing [markedTable, turnedTable]]

theorem plain_filledTable : filledTable.Plain := by
  simp [filledTable, nameMember, partitionsMember]

theorem isDocument_filledDocument : IsDocument (Printer.compact filledDocument)
    filledDocument.tree [filledTable.tree] := by
  have hplain : filledDocument.Plain := by simp [filledDocument, listing, plain_filledTable]
  exact ⟨exists_ok (by decide +kernel), isTreeOf_compact hplain, by decide +kernel, rfl⟩

theorem isDocument_crowdedDocument : IsDocument (Printer.compact crowdedDocument)
    crowdedDocument.tree [markedTable.tree, turnedTable.tree] := by
  have hplain : crowdedDocument.Plain := by
    simp [crowdedDocument, listing, markedTable, turnedTable, nameMember, partitionsMember,
      Value.Plain.null]
  exact ⟨exists_ok (by decide +kernel), isTreeOf_compact hplain, by decide +kernel, rfl⟩

theorem unseen_listing {tables tables' : List Value}
    (h : Unseen (.field .model "tables") (Value.array tables).tree (Value.array tables').tree) :
    Unseen (.record .document) (Value.object [listing tables]).tree
      (Value.object [listing tables']).tree := by
  have hmodel : Unseen (.record .model) (Value.object [("tables", .array tables)]).tree
      (Value.object [("tables", .array tables')]).tree :=
    @Unseen.member (escapedText "tables") _ _ _ _ [] [] (by decide +kernel) h
  exact @Unseen.member (escapedText "model") _ _ _ _ [] [] (by decide +kernel) (.model hmodel)

/-- The members are turned round, the marked table is put in, and then the other member. -/
theorem unseen_crowdedDocument :
    Relation.EqvGen (Unseen (.record .document)) filledDocument.tree crowdedDocument.tree := by
  have hturned : Unseen (.record .table) filledTable.tree turnedTable.tree :=
    @Unseen.swap (_, _) (_, _) .table [] [] (by decide +kernel)
  have htables : Unseen (.field .model "tables") (Value.array [filledTable]).tree
      (Value.array [turnedTable]).tree := @Unseen.table _ _ [] [] hturned
  have hmarked : Unseen (.field .model "tables") (Value.array [turnedTable]).tree
      (Value.array [markedTable, turnedTable]).tree :=
    @Unseen.unlisted _ [] [_] (by decide +kernel)
  have hother : Unseen (.record .document) (Value.object [listing [markedTable, turnedTable]]).tree
      crowdedDocument.tree := @Unseen.other (escapedText "x") _ [] [_] _ (by decide +kernel)
  exact .trans _ _ _ (.rel _ _ (unseen_listing htables))
    (.trans _ _ _ (.rel _ _ (unseen_listing hmarked)) (.rel _ _ hother))

theorem extractText_visible_crowded :
    (∃ found, found.records.length = 1 ∧
      extractText (Printer.compact filledDocument) = .ok found ∧
      extractText (Printer.compact crowdedDocument) = .ok found) ∧
      extractText (Printer.compact filledDocument) =
        extractText (Printer.compact crowdedDocument) := by
  obtain ⟨hviews, hunseen, -⟩ := extractText_visible.2 _ _ _ _ _ _ isDocument_filledDocument
    isDocument_crowdedDocument
  obtain ⟨found, hfilled, hcrowded⟩ := hviews (by decide +kernel)
  have hlength : (extractText (Printer.compact filledDocument)).toOption.map
      (·.records.length) = some 1 := by
    decide +kernel
  rw [hfilled] at hlength
  exact ⟨⟨found, Option.some.inj hlength, hfilled, hcrowded⟩, hunseen unseen_crowdedDocument⟩

end TableLineage.Lineage
