import TableLineage.Proofs.Json.Accepting
import TableLineage.Schema.Reading

/-!
# What the data model is read from

For each part of a document the trees it is read from, under the limit on
nesting: as an object, where it may have other members, or as a list of its
fields.  The readers are exact, so that a document is read if its tree is one of
these and not otherwise.
-/

namespace TableLineage.Json

open Reader

section Keeps

variable {depth : Nat} {tree : Tree}

theorem keeps_string_iff {text : String} :
    Keeps depth (.string text) tree ↔ KeepsText depth text tree := by
  rw [keeps_iff]
  constructor
  · rintro (h | h)
    · cases h with
      | string htext => exact .string htext
    · cases h
  · rintro ⟨htext⟩
    exact .scalar (.string htext)

end Keeps

end TableLineage.Json

namespace TableLineage.Schema

open Json Json.Reader

def Expression.toValue : Expression → Value
  | .whole text => .string text
  | .listed lines => .array (lines.map .string)

def KeepsExpression (depth : Nat) (expression : Expression) (tree : Tree) : Prop :=
  Keeps depth expression.toValue tree

theorem exact_expression : Exact expression KeepsExpression := by
  constructor
  · intro limits cursor a cursor' hsteps h
    obtain ⟨found, middle, hvalue, h⟩ := bind_eq_ok.mp h
    obtain ⟨start, tree, hblanks, hwritten, hkeeps⟩ := readsTree_value hsteps hvalue
    cases found with
    | string text =>
        obtain ⟨rfl, rfl⟩ := pure_eq_ok.mp h
        exact ⟨start, tree, hblanks, hwritten, hkeeps⟩
    | array values =>
        dsimp only at h
        cases hlines : values.mapM Value.text? with
        | some lines =>
            rw [hlines] at h
            obtain ⟨rfl, rfl⟩ := pure_eq_ok.mp h
            obtain rfl := mapM_text?_iff.mp hlines
            exact ⟨start, tree, hblanks, hwritten, hkeeps⟩
        | none =>
            rw [hlines] at h
            exact absurd h failAround_ne_ok
    | _ => exact absurd h failAround_ne_ok
  · intro limits s start a tree t hblanks hvalue hends hkeeps hsteps
    refine .bind (takesTree_value hblanks hvalue hends hkeeps hsteps) ?_
    cases a with
    | whole text => exact .pure _ _
    | listed lines =>
        have hlines := mapM_text?_iff.mpr (rfl : lines.map Value.string = lines.map .string)
        rw [Expression.toValue]
        dsimp only
        rw [hlines]
        exact .pure _ _

def SetsSource (depth : Nat) (name : String) (tree : Tree) (state state' : Source) : Prop :=
  (name = "type" ∧ ∃ a, state' = { state with kind := a } ∧ Optionally (KeepsText depth) a tree) ∨
  (name = "expression" ∧ ∃ a, state' = { state with expression := a } ∧
    Optionally (KeepsExpression depth) a tree)

def KeepsSource : Nat → Source → Tree → Prop := KeepsRecord sourceFields SetsSource {}

def SetsPartition (depth : Nat) (name : String) (tree : Tree) (state state' : Partition) : Prop :=
  (name = "name" ∧ ∃ a, state' = { state with name := a } ∧ Optionally (KeepsText depth) a tree) ∨
  (name = "mode" ∧ ∃ a, state' = { state with mode := a } ∧ Optionally (KeepsText depth) a tree) ∨
  (name = "source" ∧ ∃ a, state' = { state with source := a } ∧
    Optionally (KeepsSource depth) a tree)

def KeepsPartition : Nat → Partition → Tree → Prop :=
  KeepsRecord partitionFields SetsPartition {}

def SetsTable (depth : Nat) (name : String) (tree : Tree) (state state' : Table) : Prop :=
  (name = "name" ∧ ∃ a, state' = { state with name := a } ∧ Optionally (KeepsText depth) a tree) ∨
  (name = "partitions" ∧ ∃ a, state' = { state with partitions := a } ∧
    Optionally (Each KeepsPartition depth) a tree) ∨
  (name = "isHidden" ∧ state' = { state with marked := true } ∧ Kept depth tree)

def KeepsTable : Nat → Table → Tree → Prop := KeepsRecord tableFields SetsTable {}

def SetsModel (depth : Nat) (name : String) (tree : Tree) (state state' : Model) : Prop :=
  name = "tables" ∧ ∃ a, state' = { state with tables := a } ∧
    Optionally (Each KeepsTable depth) a tree

def KeepsModel : Nat → Model → Tree → Prop := KeepsRecord modelFields SetsModel {}

def SetsDocument (depth : Nat) (name : String) (tree : Tree) (state state' : Document) : Prop :=
  name = "model" ∧ ∃ a, state' = { state with model := a } ∧ Optionally (KeepsModel depth) a tree

def KeepsDocument : Nat → Document → Tree → Prop := KeepsRecord documentFields SetsDocument {}

section Null

theorem not_keepsText_null (depth : Nat) (text : String) : ¬ KeepsText depth text .null := by
  rintro ⟨⟩

theorem not_keepsExpression_null (depth : Nat) (expression : Expression) :
    ¬ KeepsExpression depth expression .null := by
  cases expression with
  | whole text => exact fun h => not_keepsText_null depth text (keeps_string_iff.mp h)
  | listed lines =>
      intro h
      rcases keeps_iff.mp h with h | h <;> cases h

theorem not_each_null {α : Type} {Fits : Nat → α → Tree → Prop} (depth : Nat) (found : List α) :
    ¬ Each Fits depth found .null := by
  rintro ⟨⟩

theorem not_keepsRecord_null {σ : Type} {fields : List (FieldReader σ)}
    {Sets : Nat → String → Tree → σ → σ → Prop} {start : σ} (depth : Nat) (state : σ) :
    ¬ KeepsRecord fields Sets start depth state .null := by
  rintro ⟨⟩

end Null

theorem exact_source : Exact source KeepsSource := by
  refine .record (fun field hfield state => ?_) _ _
  simp only [sourceFields, List.mem_cons, List.not_mem_nil, or_false] at hfield
  rcases hfield with rfl | rfl
  · exact ((exact_string.optional not_keepsText_null).map _).congr fun _ _ _ => by
      simp [SetsSource]
  · exact ((exact_expression.optional not_keepsExpression_null).map _).congr fun _ _ _ => by
      simp [SetsSource]

theorem exact_partition : Exact partition KeepsPartition := by
  refine .record (fun field hfield state => ?_) _ _
  simp only [partitionFields, List.mem_cons, List.not_mem_nil, or_false] at hfield
  rcases hfield with rfl | rfl | rfl
  · exact ((exact_string.optional not_keepsText_null).map _).congr fun _ _ _ => by
      simp [SetsPartition]
  · exact ((exact_string.optional not_keepsText_null).map _).congr fun _ _ _ => by
      simp [SetsPartition]
  · exact ((exact_source.optional not_keepsRecord_null).map _).congr fun _ _ _ => by
      simp [SetsPartition]

theorem exact_table : Exact table KeepsTable := by
  refine .record (fun field hfield state => ?_) _ _
  simp only [tableFields, List.mem_cons, List.not_mem_nil, or_false] at hfield
  rcases hfield with rfl | rfl | rfl
  · exact ((exact_string.optional not_keepsText_null).map _).congr fun _ _ _ => by
      simp [SetsTable]
  · exact ((exact_partition.sequence.optional not_each_null).map _).congr fun _ _ _ => by
      simp [SetsTable]
  · exact (exact_value.map _).congr fun _ _ _ => by
      simp [SetsTable, Kept]

theorem exact_model : Exact model KeepsModel := by
  refine .record (fun field hfield state => ?_) _ _
  obtain rfl := List.mem_singleton.mp hfield
  exact ((exact_table.sequence.optional not_each_null).map _).congr fun _ _ _ => by
    simp [SetsModel]

theorem exact_document : Exact document KeepsDocument := by
  refine .record (fun field hfield state => ?_) _ _
  obtain rfl := List.mem_singleton.mp hfield
  exact ((exact_model.optional not_keepsRecord_null).map _).congr fun _ _ _ => by
    simp [SetsDocument]

/-! ## Texts -/

section Texts

variable {text : List Char} {root : Tree} {document : Document}

theorem Document.ofText_eq_ok_iff :
    Document.ofText text = .ok document ↔ Reader.ofText Schema.document text = .ok document := by
  rw [Document.ofText]
  cases Reader.ofText Schema.document text <;> simp

theorem Document.ofText_iff_keeps (hroot : root.IsTreeOf text) :
    Document.ofText text = .ok document ↔ KeepsDocument depthLimit document root := by
  rw [Document.ofText_eq_ok_iff, exact_document.ofText_eq_ok_iff hroot]

theorem Document.exists_keeps (h : Document.ofText text = .ok document) :
    ∃ root : Tree, root.IsTreeOf text ∧ KeepsDocument depthLimit document root :=
  Reader.ofText_eq_ok exact_document.reads (Document.ofText_eq_ok_iff.mp h)

end Texts

end TableLineage.Schema
