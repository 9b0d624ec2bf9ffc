import TableLineage.Proofs.Schema.View

/-!
# A mark is put on a table

A frame is a record with a place for the one field it is read from, and a
document is a frame around a frame around its tables.  What stands in the place
can be exchanged: whether the document is read then depends on what is put there
and on nothing else.
-/

namespace TableLineage.Json

open Reader

theorem Folds.name_of_seen {σ : Type} {fields : List (FieldReader σ)}
    {Step : String → Tree → σ → σ → Prop} {members : List (List Char × Tree)}
    {before after : List String × σ} {name : String}
    (h : Folds (FieldStep fields Step) members before after) (hname : name ∈ after.1) :
    name ∈ before.1 ∨ ∃ member ∈ members, bodyText? member.1 = some name := by
  induction h with
  | nil => exact .inl hname
  | cons hother hstep _ ih =>
      cases hstep with
      | field =>
          obtain hseen | ⟨member, hmem, htext⟩ := ih hname
          · obtain rfl | hseen := List.mem_cons.mp hseen
            · exact .inr ⟨_, List.mem_cons_self, hother.text⟩
            · exact .inl hseen
          · exact .inr ⟨member, List.mem_cons_of_mem _ hmem, htext⟩
      | other =>
          obtain hseen | ⟨member, hmem, htext⟩ := ih hname
          · exact .inl hseen
          · exact .inr ⟨member, List.mem_cons_of_mem _ hmem, htext⟩

inductive Frame
  | member (front : List (List Char × Tree)) (key : List Char) (back : List (List Char × Tree))
  | item

namespace Frame

def fill : Frame → Tree → Tree
  | .member front key back, tree => .object (front ++ (key, tree) :: back)
  | .item, tree => .array [tree]

def Names (name : String) : Frame → Prop
  | .member _ key _ => bodyText? key = some name
  | .item => True

theorem fill_ne_null (frame : Frame) (tree : Tree) : frame.fill tree ≠ .null := by
  cases frame <;> rintro ⟨⟩

end Frame

section Frames

variable {σ : Type} {field : FieldReader σ} {Sets : Nat → String → Tree → σ → σ → Prop}
  {Fits : Nat → σ → Tree → Prop} {start state state' : σ} {depth : Nat} {frame : Frame}
  {tree tree' : Tree}

theorem Folds.others {Step : String → Tree → σ → σ → Prop} {members : List (List Char × Tree)}
    {before after : List String × σ} (h : Folds (FieldStep [field] Step) members before after)
    (hseen : field.name ∈ before.1) :
    before = after ∧ ∀ state,
      Folds (FieldStep [field] Step) members (before.1, state) (before.1, state) := by
  induction h with
  | nil => exact ⟨rfl, fun _ => .nil⟩
  | cons hname hstep _ ih =>
      cases hstep with
      | field hfield hunseen =>
          obtain ⟨found, hmem, rfl⟩ := hfield
          obtain rfl := List.mem_singleton.mp hmem
          exact absurd hseen hunseen
      | other hother hvalid =>
          obtain ⟨hafter, hrest⟩ := ih hseen
          exact ⟨hafter, fun state => .cons hname (.other hother hvalid) (hrest state)⟩

/-- A record that is read with one tree in its place is read with another one too, if its field is
read from that. -/
theorem Frame.keepsRecord_fill_iff
    (h : KeepsRecord [field] Sets start (depth + 1) state (frame.fill tree))
    (hframe : frame.Names field.name)
    (hsets : ∀ depth tree state state', Sets depth field.name tree state state' ↔
      Fits depth state' tree) :
    KeepsRecord [field] Sets start (depth + 1) state' (frame.fill tree') ↔
      Fits depth state' tree' := by
  cases frame with
  | item =>
      constructor
      · rintro (hitems | _)
        cases hitems with
        | cons hset hnil =>
            cases hnil
            exact (hsets ..).mp hset
      · exact fun hfits => .items (.cons ((hsets depth tree' start state').mpr hfits) .nil)
  | member front key back =>
      have hkey {name : String} (hname : Spells key name) : name = field.name :=
        Option.some.inj (hname.text.symm.trans hframe)
      constructor
      · rintro (_ | ⟨hfolds, -⟩)
        obtain ⟨middle, -, hback⟩ := Folds.append_iff.mp hfolds
        cases hback with
        | cons hname hstep hrest =>
            obtain rfl := hkey hname
            cases hstep with
            | field _ _ hset =>
                cases (hrest.others List.mem_cons_self).1
                exact (hsets ..).mp hset
            | other hother => exact absurd rfl (hother field List.mem_cons_self)
      · intro hfits
        -- The members in front of the place are read as before; those behind it are skipped, since
        -- the only field has been seen.
        cases h with
        | members hfolds hrequired =>
            obtain ⟨middle, hfront, hback⟩ := Folds.append_iff.mp hfolds
            cases hback with
            | cons hname hstep hrest =>
                obtain rfl := hkey hname
                cases hstep with
                | field hfield hunseen hset =>
                    obtain ⟨hafter, hothers⟩ := hrest.others List.mem_cons_self
                    cases hafter
                    exact .members (Folds.append_iff.mpr ⟨_, hfront, .cons hname
                      (.field hfield hunseen ((hsets ..).mpr hfits)) (hothers state')⟩) hrequired
                | other hother => exact absurd rfl (hother field List.mem_cons_self)

theorem Folds.exists_member {Step : String → Tree → σ → σ → Prop}
    {members : List (List Char × Tree)} {before after : List String × σ}
    (h : Folds (FieldStep [field] Step) members before after) :
    before.2 = after.2 ∨ ∃ front key tree back, members = front ++ (key, tree) :: back ∧
      bodyText? key = some field.name := by
  induction h with
  | nil => exact .inl rfl
  | cons hname hstep _ ih =>
      cases hstep with
      | field hfield =>
          obtain ⟨found, hmem, rfl⟩ := hfield
          obtain rfl := List.mem_singleton.mp hmem
          exact .inr ⟨[], _, _, _, rfl, hname.text⟩
      | other =>
          obtain hsame | ⟨front, key, tree, back, rfl, hkey⟩ := ih
          · exact .inl hsame
          · exact .inr ⟨_ :: front, key, tree, back, rfl, hkey⟩

/-- A record that is not the blank one has its field somewhere. -/
theorem exists_frame (htrailing : field.trailing = false) (hstart : state ≠ start)
    (h : KeepsRecord [field] Sets start depth state tree) :
    ∃ (frame : Frame) (tree' : Tree), frame.Names field.name ∧ tree = frame.fill tree' := by
  cases h with
  | items hitems =>
      cases hitems with
      | cons _ hnil =>
          cases hnil
          exact ⟨.item, _, trivial, rfl⟩
      | trailing htrailing' =>
          rw [htrailing] at htrailing'
          cases htrailing'
  | members hfolds =>
      obtain hsame | ⟨front, key, tree, back, rfl, hkey⟩ := hfolds.exists_member
      · exact absurd hsame.symm hstart
      · exact ⟨.member front key back, tree, hkey, rfl⟩

end Frames

end TableLineage.Json

namespace TableLineage.Schema

open Json Json.Reader

/-- A document with a place for its tables. -/
structure Surroundings where
  document : Frame
  model : Frame
  document_names : document.Names "model"
  model_names : model.Names "tables"

def Surroundings.fill (around : Surroundings) (tables : List Tree) : Tree :=
  around.document.fill (around.model.fill (.array tables))

def Document.ofTables (tables : List Table) : Document := ⟨some ⟨some tables⟩⟩

section Surroundings

variable {depth : Nat} {around : Surroundings} {items items' : List Tree}

theorem setsModel_iff {tree : Tree} {state state' : Model} :
    SetsModel depth "tables" tree state state' ↔
      Optionally (Each KeepsTable depth) state'.tables tree := by
  obtain ⟨tables⟩ := state'
  simp [SetsModel]

theorem setsDocument_iff {tree : Tree} {state state' : Document} :
    SetsDocument depth "model" tree state state' ↔
      Optionally (KeepsModel depth) state'.model tree := by
  obtain ⟨model⟩ := state'
  simp [SetsDocument]

theorem optionally_iff {α : Type} {Fits : α → Tree → Prop} {a : Option α} {tree : Tree}
    (hne : tree ≠ .null) : Optionally Fits a tree ↔ ∃ b, a = some b ∧ Fits b tree := by
  simp [Optionally, hne]

theorem optionally_some_iff {α : Type} {Fits : α → Tree → Prop} {a : α} {tree : Tree} :
    Optionally Fits (some a) tree ↔ Fits a tree := by
  simp [Optionally]

/-- The tables of a document can be exchanged for others that are read. -/
theorem keepsDocument_fill_iff {document document' : Document}
    (h : KeepsDocument (depth + 3) document (around.fill items)) :
    KeepsDocument (depth + 3) document' (around.fill items') ↔
      ∃ tables, document' = .ofTables tables ∧
        List.Forall₂ (KeepsTable depth) tables items' := by
  have hdocument {document' : Document} {tree : Tree} :
      KeepsDocument (depth + 3) document' (around.document.fill tree) ↔
        Optionally (KeepsModel (depth + 2)) document'.model tree :=
    Frame.keepsRecord_fill_iff h around.document_names fun _ _ _ _ => setsDocument_iff
  obtain ⟨model, -, hmodel⟩ := (optionally_iff (Frame.fill_ne_null _ _)).mp (hdocument.mp h)
  have hmodel {model' : Model} {tree : Tree} :
      KeepsModel (depth + 2) model' (around.model.fill tree) ↔
        Optionally (Each KeepsTable (depth + 1)) model'.tables tree :=
    Frame.keepsRecord_fill_iff hmodel around.model_names fun _ _ _ _ => setsModel_iff
  have hitems : Tree.array items' ≠ .null := by rintro ⟨⟩
  obtain ⟨found⟩ := document'
  rw [Surroundings.fill, hdocument, optionally_iff (Frame.fill_ne_null _ _)]
  constructor
  · rintro ⟨⟨tables⟩, rfl, hkeeps⟩
    obtain ⟨tables, rfl, heach⟩ := (optionally_iff hitems).mp (hmodel.mp hkeeps)
    cases heach with
    | array htables => exact ⟨tables, rfl, htables⟩
  · rintro ⟨tables, hfound, htables⟩
    refine ⟨⟨some tables⟩, congrArg Document.model hfound, ?_⟩
    exact hmodel.mpr ((optionally_iff hitems).mpr ⟨tables, rfl, .array htables⟩)

theorem exists_surroundings {document : Document} {root : Tree} {tables : List Table}
    (h : KeepsDocument (depth + 3) document root) (htables : document.tables? = some tables) :
    ∃ (around : Surroundings) (items : List Tree), root = around.fill items ∧
      List.Forall₂ (KeepsTable depth) tables items := by
  obtain ⟨found⟩ := document
  obtain ⟨⟨found⟩, rfl, rfl⟩ := Option.bind_eq_some_iff.mp htables
  obtain ⟨document, tree, hdocument, rfl⟩ := exists_frame rfl (by rintro ⟨⟩) h
  have hmodel : KeepsModel (depth + 2) ⟨some tables⟩ tree := optionally_some_iff.mp
    ((Frame.keepsRecord_fill_iff h hdocument fun _ _ _ _ => setsDocument_iff).mp h)
  obtain ⟨model, tree, hnames, rfl⟩ := exists_frame rfl (by rintro ⟨⟩) hmodel
  have heach : Each KeepsTable (depth + 1) tables tree := optionally_some_iff.mp
    ((Frame.keepsRecord_fill_iff hmodel hnames fun _ _ _ _ => setsModel_iff).mp hmodel)
  cases heach with
  | array hitems => exact ⟨⟨document, model, hdocument, hnames⟩, _, rfl, hitems⟩

end Surroundings

/-! ## Marks -/

section Marks

variable {depth : Nat} {front back : List (List Char × Tree)} {key : List Char} {value : Tree}
  {table : Table}

def Table.mark (table : Table) : Table := { table with marked := true }

/-- A member besides the mark has the same effect on a marked table. -/
theorem fieldStep_mark {name : String} {tree : Tree} {seen seen' marked : List String}
    {table table' : Table} (hname : name ≠ "isHidden")
    (hmarked : ∀ other, other ∈ marked ↔ other = "isHidden" ∨ other ∈ seen)
    (h : FieldStep tableFields (SetsTable depth) name tree (seen, table) (seen', table')) :
    ∃ marked', (∀ other, other ∈ marked' ↔ other = "isHidden" ∨ other ∈ seen') ∧
      FieldStep tableFields (SetsTable depth) name tree (marked, table.mark)
        (marked', table'.mark) := by
  cases h with
  | field hfield hunseen hset =>
      refine ⟨name :: marked, fun other => ?_, .field hfield ?_ ?_⟩
      · rw [List.mem_cons, List.mem_cons, hmarked, or_left_comm]
      · rw [hmarked]
        exact not_or.mpr ⟨hname, hunseen⟩
      · obtain ⟨rfl, a, rfl, hfits⟩ | ⟨rfl, a, rfl, hfits⟩ | ⟨rfl, -⟩ := hset
        · exact .inl ⟨rfl, a, rfl, hfits⟩
        · exact .inr (.inl ⟨rfl, a, rfl, hfits⟩)
        · exact absurd rfl hname
  | other hother hvalid => exact ⟨marked, hmarked, .other hother hvalid⟩

theorem folds_mark {members : List (List Char × Tree)} {before after : List String × Table}
    (h : Folds (FieldStep tableFields (SetsTable depth)) members before after)
    (hmembers : ∀ member ∈ members, bodyText? member.1 ≠ some "isHidden") {marked : List String}
    (hmarked : ∀ other, other ∈ marked ↔ other = "isHidden" ∨ other ∈ before.1) :
    ∃ marked', Folds (FieldStep tableFields (SetsTable depth)) members
      (marked, before.2.mark) (marked', after.2.mark) := by
  -- At every point the names seen are those of the table without the mark and the mark's own.
  induction h generalizing marked with
  | nil => exact ⟨marked, .nil⟩
  | cons hname hstep _ ih =>
      obtain ⟨hmember, hmembers⟩ := List.forall_mem_cons.mp hmembers
      have hne : _ ≠ "isHidden" := fun h => hmember (hname.text.trans (congrArg some h))
      obtain ⟨marked', hmarked, hstep⟩ := fieldStep_mark hne hmarked hstep
      obtain ⟨last, hrest⟩ := ih hmembers hmarked
      exact ⟨last, .cons hname hstep hrest⟩

theorem isHidden_tableFields : ∃ field ∈ tableFields, field.name = "isHidden" := by
  simp [tableFields]

theorem KeepsTable.mark (h : KeepsTable (depth + 1) table (.object (front ++ back)))
    (hmembers : ∀ member ∈ front ++ back, bodyText? member.1 ≠ some "isHidden")
    (hkey : Spells key "isHidden") (hkept : Kept depth value) :
    KeepsTable (depth + 1) table.mark (.object (front ++ (key, value) :: back)) := by
  cases h with
  | members hfolds =>
      obtain ⟨⟨seen, middle⟩, hfront, hback⟩ := Folds.append_iff.mp hfolds
      have hunseen : "isHidden" ∉ seen := by
        intro hseen
        obtain h | ⟨member, hmem, hname⟩ := hfront.name_of_seen hseen
        · cases h
        · exact hmembers member (List.mem_append_left _ hmem) hname
      have hstep : FieldStep tableFields (SetsTable depth) "isHidden" value (seen, middle)
          ("isHidden" :: seen, middle.mark) :=
        .field isHidden_tableFields hunseen (.inr (.inr ⟨rfl, rfl, hkept⟩))
      obtain ⟨marked, hback⟩ := folds_mark hback
        (fun member hmem => hmembers member (List.mem_append_right _ hmem))
        (fun other => List.mem_cons)
      exact .members (Folds.append_iff.mpr ⟨_, hfront, .cons hkey hstep hback⟩)
        (by simp [tableFields])

theorem KeepsTable.kept_of_mark
    (h : KeepsTable (depth + 1) table (.object (front ++ (key, value) :: back)))
    (hkey : bodyText? key = some "isHidden") : Kept depth value := by
  cases h with
  | members hfolds =>
      obtain ⟨middle, -, hback⟩ := Folds.append_iff.mp hfolds
      cases hback with
      | cons hname hstep _ =>
          cases hname.text.symm.trans hkey
          cases hstep with
          | field _ _ hset =>
              obtain ⟨h, -⟩ | ⟨h, -⟩ | ⟨-, -, hkept⟩ := hset
              · exact absurd h (by decide)
              · exact absurd h (by decide)
              · exact hkept
          | other hother =>
              obtain ⟨field, hmem, hname⟩ := isHidden_tableFields
              exact absurd hname (hother field hmem)

end Marks

end TableLineage.Schema
