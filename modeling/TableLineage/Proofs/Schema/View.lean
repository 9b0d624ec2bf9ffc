import TableLineage.Proofs.Schema.Exact

/-!
# What is looked at of a document

Of the tables that are not marked and have partitions the name is looked at, and
of their partitions what they are called, how they are filled and from where.
This is the same whether it is taken from the tree of a text or from the
document that the text is read as.
-/

namespace TableLineage.Json

def Tree.member? (name : String) : Tree → Option Tree
  | .object members => memberOf? name members
  | _ => none

def Tree.field? (name : String) (tree : Tree) : Option Tree :=
  match tree.member? name with
  | some .null => none
  | found => found

def Tree.textAt? (name : String) (tree : Tree) : Option String := (tree.field? name).bind Tree.text?

def Tree.items? : Tree → Option (List Tree)
  | .array items => some items
  | _ => none

def Tree.itemsAt? (name : String) (tree : Tree) : Option (List Tree) :=
  (tree.field? name).bind Tree.items?

def Tree.isObject : Tree → Bool
  | .object _ => true
  | _ => false

end TableLineage.Json

namespace TableLineage.Schema

open Json Json.Reader

def Expression.ofTree? : Tree → Option Expression
  | .string body => (bodyText? body).map .whole
  | .array items => (items.mapM Tree.text?).map .listed
  | _ => none

structure PartitionView where
  name : Option String
  mode : Option String
  kind : Option String
  expression : Option Expression
deriving DecidableEq, Repr

namespace PartitionView

def ofPartition (partition : Partition) : PartitionView where
  name := partition.name
  mode := partition.mode
  kind := partition.source.bind (·.kind)
  expression := partition.source.bind (·.expression)

def ofTree (tree : Tree) : PartitionView where
  name := tree.textAt? "name"
  mode := tree.textAt? "mode"
  kind := (tree.field? "source").bind (·.textAt? "type")
  expression := (tree.field? "source").bind fun source =>
    (source.field? "expression").bind Expression.ofTree?

end PartitionView

structure TableView where
  name : Option String
  partitions : List PartitionView
deriving DecidableEq, Repr

namespace TableView

def ofTable? (table : Table) : Option TableView :=
  if table.marked then none
  else table.partitions.map fun partitions =>
    ⟨table.name, partitions.map PartitionView.ofPartition⟩

def ofTree? (tree : Tree) : Option TableView :=
  if (tree.member? "isHidden").isSome then none
  else (tree.itemsAt? "partitions").map fun items =>
    ⟨tree.textAt? "name", items.map PartitionView.ofTree⟩

end TableView

def tablesOfTree? (root : Tree) : Option (List Tree) :=
  (root.field? "model").bind (·.itemsAt? "tables")

def sourceAsObject (partition : Tree) : Bool := (partition.field? "source").all Tree.isObject

def partitionAsObjects (tree : Tree) : Bool := tree.isObject && sourceAsObject tree

def tableAsObjects (tree : Tree) : Bool :=
  tree.isObject && (tree.itemsAt? "partitions").all (·.all partitionAsObjects)

def modelAsObjects (tree : Tree) : Bool :=
  tree.isObject && (tree.itemsAt? "tables").all (·.all tableAsObjects)

/-- Each record of a document is written as an object and not as a list of its fields. -/
def documentAsObjects (root : Tree) : Bool :=
  root.isObject && (root.field? "model").all modelAsObjects

theorem KeepsText.text? {depth : Nat} {text : String} {tree : Tree}
    (h : KeepsText depth text tree) : tree.text? = some text := by
  cases h with
  | string htext => exact htext.text

theorem mapM_text? {depth : Nat} {lines : List String} {items : List Tree}
    (h : List.Forall₂ (Keeps depth) (lines.map .string) items) :
    items.mapM Tree.text? = some lines := by
  induction lines generalizing items with
  | nil =>
      cases h
      rfl
  | cons line lines ih =>
      obtain ⟨item, items, hline, hlines, rfl⟩ := List.forall₂_cons_left_iff.mp h
      rw [List.mapM_cons, ih hlines, KeepsText.text? (keeps_string_iff.mp hline)]
      rfl

theorem KeepsExpression.ofTree? {depth : Nat} {expression : Expression} {tree : Tree}
    (h : KeepsExpression depth expression tree) : Expression.ofTree? tree = some expression := by
  cases expression with
  | whole text =>
      obtain ⟨htext⟩ := keeps_string_iff.mp h
      rw [Expression.ofTree?, htext.text, Option.map_some]
  | listed lines =>
      rcases keeps_iff.mp h with h | h
      · cases h
      · cases h with
        | array hitems => rw [Expression.ofTree?, mapM_text? hitems, Option.map_some]

section Fields

variable {α σ : Type} {Fits : α → Tree → Prop} {fields : List (FieldReader σ)}
  {Sets : String → Tree → σ → σ → Prop} {get : σ → Option α} {name : String}
  {members : List (List Char × Tree)} {seen : List String} {start record : σ}

/-- A field has what fits the tree of its member, and nothing if there is no such member. -/
theorem field?_fits (hpart : SetsPart Sets name get (Optionally Fits))
    (hnull : ∀ a, ¬ Fits a .null) (hname : name ∈ fields.map (·.name)) (hstart : get start = none)
    (h : Folds (FieldStep fields Sets) members ([], start) (seen, record)) :
    ((Tree.object members).field? name = none ∧ get record = none) ∨
      ∃ tree a, (Tree.object members).field? name = some tree ∧ get record = some a ∧
        Fits a tree := by
  obtain ⟨hmember, hget⟩ | ⟨tree, hmember, ⟨hget, rfl⟩ | ⟨a, hget, hfits⟩⟩ :=
    h.get_of_unseen hpart hname List.not_mem_nil
  · exact .inl ⟨by rw [Tree.field?, Tree.member?, hmember], hget.trans hstart⟩
  · exact .inl ⟨by rw [Tree.field?, Tree.member?, hmember], hget⟩
  · refine .inr ⟨tree, a, ?_, hget, hfits⟩
    cases tree with
    | null => exact absurd hfits (hnull a)
    | _ => rw [Tree.field?, Tree.member?, hmember]

theorem field?_bind {view : Tree → Option α} (hpart : SetsPart Sets name get (Optionally Fits))
    (hview : ∀ a tree, Fits a tree → view tree = some a) (hnull : ∀ a, ¬ Fits a .null)
    (hname : name ∈ fields.map (·.name)) (hstart : get start = none)
    (h : Folds (FieldStep fields Sets) members ([], start) (seen, record)) :
    get record = ((Tree.object members).field? name).bind view := by
  obtain ⟨hfield, hget⟩ | ⟨tree, a, hfield, hget, hfits⟩ := field?_fits hpart hnull hname hstart h
  · rw [hfield, hget, Option.bind_none]
  · rw [hfield, hget, Option.bind_some, hview a tree hfits]

theorem field?_text {depth : Nat} {get : σ → Option String}
    (hpart : SetsPart Sets name get (Optionally (KeepsText depth)))
    (hname : name ∈ fields.map (·.name)) (hstart : get start = none)
    (h : Folds (FieldStep fields Sets) members ([], start) (seen, record)) :
    get record = (Tree.object members).textAt? name :=
  field?_bind hpart (fun _ _ => KeepsText.text?) (not_keepsText_null depth) hname hstart h

end Fields

variable {depth : Nat}

def FitsSource (source : Source) (tree : Tree) : Prop :=
  tree.isObject = true →
    source.kind = tree.textAt? "type" ∧
    source.expression = (tree.field? "expression").bind Expression.ofTree?

theorem KeepsSource.fits {source : Source} {tree : Tree} (h : KeepsSource depth source tree) :
    FitsSource source tree := by
  cases h with
  | items => rintro ⟨⟩
  | @members depth members seen _ hfolds =>
      have hkind : SetsPart (SetsSource depth) "type" Source.kind
          (Optionally (KeepsText depth)) := by
        rintro other tree state _ (⟨rfl, a, rfl, h⟩ | ⟨rfl, a, rfl, h⟩) <;> simp [h]
      have hexpression : SetsPart (SetsSource depth) "expression" Source.expression
          (Optionally (KeepsExpression depth)) := by
        rintro other tree state _ (⟨rfl, a, rfl, h⟩ | ⟨rfl, a, rfl, h⟩) <;> simp [h]
      refine fun _ => ⟨?_, ?_⟩
      · exact field?_text hkind (by simp [sourceFields]) rfl hfolds
      · exact field?_bind hexpression (fun _ _ => KeepsExpression.ofTree?)
          (not_keepsExpression_null depth) (by simp [sourceFields]) rfl hfolds

def FitsPartition (partition : Partition) (tree : Tree) : Prop :=
  partitionAsObjects tree = true →
    PartitionView.ofPartition partition = PartitionView.ofTree tree

theorem KeepsPartition.fits {partition : Partition} {tree : Tree}
    (h : KeepsPartition depth partition tree) : FitsPartition partition tree := by
  cases h with
  | items => rintro ⟨⟩
  | @members depth members seen _ hfolds =>
      have hname : SetsPart (SetsPartition depth) "name" Partition.name
          (Optionally (KeepsText depth)) := by
        rintro other tree state _ (⟨rfl, a, rfl, h⟩ | ⟨rfl, a, rfl, h⟩ | ⟨rfl, a, rfl, h⟩) <;>
          simp [h]
      have hmode : SetsPart (SetsPartition depth) "mode" Partition.mode
          (Optionally (KeepsText depth)) := by
        rintro other tree state _ (⟨rfl, a, rfl, h⟩ | ⟨rfl, a, rfl, h⟩ | ⟨rfl, a, rfl, h⟩) <;>
          simp [h]
      have hsource : SetsPart (SetsPartition depth) "source" Partition.source
          (Optionally (KeepsSource depth)) := by
        rintro other tree state _ (⟨rfl, a, rfl, h⟩ | ⟨rfl, a, rfl, h⟩ | ⟨rfl, a, rfl, h⟩) <;>
          simp [h]
      intro hobjects
      have hname := field?_text hname (by simp [partitionFields]) rfl hfolds
      have hmode := field?_text hmode (by simp [partitionFields]) rfl hfolds
      have hsource := field?_fits hsource (not_keepsRecord_null depth) (by simp [partitionFields])
        rfl hfolds
      rw [PartitionView.ofPartition, PartitionView.ofTree, hname, hmode]
      obtain ⟨hfield, hsource⟩ | ⟨tree, source, hfield, hsource, hkeeps⟩ := hsource
      · rw [hsource, hfield]
        rfl
      · have hobject : tree.isObject = true := by
          rw [partitionAsObjects, sourceAsObject, hfield, Bool.and_eq_true] at hobjects
          exact hobjects.2
        obtain ⟨hkind, hexpression⟩ := KeepsSource.fits hkeeps hobject
        rw [hsource, hfield, Option.bind_some, Option.bind_some, Option.bind_some,
          Option.bind_some, hkind, hexpression]

def FitsTable (table : Table) (tree : Tree) : Prop :=
  tableAsObjects tree = true → TableView.ofTable? table = TableView.ofTree? tree

theorem map_ofPartition {partitions : List Partition} {items : List Tree}
    (h : List.Forall₂ (KeepsPartition depth) partitions items)
    (hobjects : items.all partitionAsObjects = true) :
    partitions.map PartitionView.ofPartition = items.map PartitionView.ofTree := by
  induction h with
  | nil => rfl
  | cons hkeeps _ ih =>
      rw [List.all_cons, Bool.and_eq_true] at hobjects
      rw [List.map_cons, List.map_cons, KeepsPartition.fits hkeeps hobjects.1, ih hobjects.2]

theorem KeepsTable.fits {table : Table} {tree : Tree} (h : KeepsTable depth table tree) :
    FitsTable table tree := by
  cases h with
  | items => rintro ⟨⟩
  | @members depth members seen _ hfolds =>
      have hname : SetsPart (SetsTable depth) "name" Table.name
          (Optionally (KeepsText depth)) := by
        rintro other tree state _ (⟨rfl, a, rfl, h⟩ | ⟨rfl, a, rfl, h⟩ | ⟨rfl, rfl, -⟩)
        · simpa using h
        · simp
        · simp
      have hpartitions : SetsPart (SetsTable depth) "partitions" Table.partitions
          (Optionally (Each KeepsPartition depth)) := by
        rintro other tree state _ (⟨rfl, a, rfl, h⟩ | ⟨rfl, a, rfl, h⟩ | ⟨rfl, rfl, -⟩)
        · simp
        · simpa using h
        · simp
      have hmarked : SetsPart (SetsTable depth) "isHidden" Table.marked
          fun marked _ => marked = true := by
        rintro other tree state _ (⟨rfl, a, rfl, h⟩ | ⟨rfl, a, rfl, h⟩ | ⟨rfl, rfl, -⟩) <;> simp
      intro hobjects
      have hname := field?_text hname (by simp [tableFields]) rfl hfolds
      have hpartitions := field?_fits hpartitions (not_each_null depth) (by simp [tableFields]) rfl
        hfolds
      have hmarked := hfolds.get_of_unseen hmarked (by simp [tableFields]) List.not_mem_nil
      rw [TableView.ofTable?, TableView.ofTree?, Tree.member?]
      obtain ⟨hmember, hmarked⟩ | ⟨tree, hmember, hmarked⟩ := hmarked
      · have hmarked : table.marked = false := hmarked
        rw [hmember, hmarked, if_neg Bool.false_ne_true, Option.isSome_none,
          if_neg Bool.false_ne_true, hname]
        obtain ⟨hfield, hfound⟩ | ⟨_, partitions, hfield, hfound, heach⟩ := hpartitions
        · rw [hfound, Tree.itemsAt?, hfield]
          rfl
        · cases heach with
          | array hitems =>
              rw [tableAsObjects, Tree.itemsAt?, hfield, Bool.and_eq_true] at hobjects
              rw [hfound, Tree.itemsAt?, hfield, Option.map_some,
                map_ofPartition hitems hobjects.2]
              rfl
      · rw [hmember, hmarked, if_pos rfl, Option.isSome_some, if_pos rfl]

def FitsModel (model : Model) (tree : Tree) : Prop :=
  modelAsObjects tree = true →
    model.tables.map (·.map TableView.ofTable?) =
      (tree.itemsAt? "tables").map (·.map TableView.ofTree?)

theorem map_ofTable? {tables : List Table} {items : List Tree}
    (h : List.Forall₂ (KeepsTable depth) tables items)
    (hobjects : items.all tableAsObjects = true) :
    tables.map TableView.ofTable? = items.map TableView.ofTree? := by
  induction h with
  | nil => rfl
  | cons hkeeps _ ih =>
      rw [List.all_cons, Bool.and_eq_true] at hobjects
      rw [List.map_cons, List.map_cons, KeepsTable.fits hkeeps hobjects.1, ih hobjects.2]

theorem KeepsModel.fits {model : Model} {tree : Tree} (h : KeepsModel depth model tree) :
    FitsModel model tree := by
  cases h with
  | items => rintro ⟨⟩
  | @members depth members seen _ hfolds =>
      have htables : SetsPart (SetsModel depth) "tables" Model.tables
          (Optionally (Each KeepsTable depth)) := by
        rintro other tree state _ ⟨rfl, a, rfl, h⟩
        simpa using h
      intro hobjects
      obtain ⟨hfield, hfound⟩ | ⟨_, tables, hfield, hfound, heach⟩ :=
        field?_fits htables (not_each_null depth) (by simp [modelFields]) rfl hfolds
      · rw [hfound, Tree.itemsAt?, hfield]
        rfl
      · cases heach with
        | array hitems =>
            rw [modelAsObjects, Tree.itemsAt?, hfield, Bool.and_eq_true] at hobjects
            rw [hfound, Tree.itemsAt?, hfield, Option.map_some, map_ofTable? hitems hobjects.2]
            rfl

def FitsDocument (document : Document) (root : Tree) : Prop :=
  documentAsObjects root = true →
    document.tables?.map (·.map TableView.ofTable?) =
      (tablesOfTree? root).map (·.map TableView.ofTree?)

theorem KeepsDocument.fits {document : Document} {root : Tree}
    (h : KeepsDocument depth document root) : FitsDocument document root := by
  cases h with
  | items => rintro ⟨⟩
  | @members depth members seen _ hfolds =>
      have hmodel : SetsPart (SetsDocument depth) "model" Document.model
          (Optionally (KeepsModel depth)) := by
        rintro other tree state _ ⟨rfl, a, rfl, h⟩
        simpa using h
      intro hobjects
      rw [Document.tables?, tablesOfTree?]
      obtain ⟨hfield, hmodel⟩ | ⟨tree, model, hfield, hmodel, hkeeps⟩ :=
        field?_fits hmodel (not_keepsRecord_null depth) (by simp [documentFields]) rfl hfolds
      · rw [hmodel, hfield]
        rfl
      · rw [documentAsObjects, hfield, Bool.and_eq_true] at hobjects
        rw [hmodel, hfield]
        exact KeepsModel.fits hkeeps hobjects.2

/-! ## Documents -/

/-- What is read has been the text of a tree, and its tables are looked at as the ones there. -/
theorem Document.exists_tree {text : List Char} {document : Document}
    (h : Document.ofText text = .ok document) :
    ∃ root, Tree.IsTreeOf root text ∧ FitsDocument document root := by
  obtain ⟨root, hroot, hkeeps⟩ := Document.exists_keeps h
  exact ⟨root, hroot, KeepsDocument.fits hkeeps⟩

end TableLineage.Schema
