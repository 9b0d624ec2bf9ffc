import Mathlib.Logic.Relation
import TableLineage.Proofs.Schema.View

/-!
# Changes that are not looked at

Members of other names, the order of members, and tables that are marked or have
no partitions make no difference to what is looked at of a document.
-/

namespace TableLineage.Json

section Members

variable {name : String} {front back : List (List Char × Tree)} {body : List Char}
  {tree tree' : Tree}

theorem memberOf?_append :
    memberOf? name (front ++ back) = (memberOf? name front).or (memberOf? name back) := by
  induction front with
  | nil => rfl
  | cons member front ih =>
      obtain ⟨body, tree⟩ := member
      rw [List.cons_append, memberOf?, memberOf?]
      split
      · rfl
      · exact ih

theorem memberOf?_other (h : bodyText? body ≠ some name) :
    memberOf? name (front ++ (body, tree) :: back) = memberOf? name (front ++ back) := by
  rw [memberOf?_append, memberOf?_append, memberOf?, if_neg h]

theorem memberOf?_swap {a b : List Char × Tree} (h : bodyText? a.1 ≠ bodyText? b.1) :
    memberOf? name (front ++ a :: b :: back) = memberOf? name (front ++ b :: a :: back) := by
  obtain ⟨body, tree⟩ := a
  obtain ⟨body', tree'⟩ := b
  rw [memberOf?_append, memberOf?_append]
  refine congrArg _ ?_
  by_cases hbody : bodyText? body = some name
  · have hbody' : bodyText? body' ≠ some name := fun h' => h (hbody.trans h'.symm)
    simp only [memberOf?, if_pos hbody, if_neg hbody']
  · simp only [memberOf?, if_neg hbody]

/-- A member that is replaced may stand behind another of its name. -/
theorem memberOf?_replace :
    memberOf? name (front ++ (body, tree) :: back) =
        memberOf? name (front ++ (body, tree') :: back) ∨
      bodyText? body = some name ∧ memberOf? name (front ++ (body, tree) :: back) = some tree ∧
        memberOf? name (front ++ (body, tree') :: back) = some tree' := by
  rw [memberOf?_append, memberOf?_append]
  cases hfront : memberOf? name front with
  | some found => exact .inl rfl
  | none =>
      by_cases hbody : bodyText? body = some name
      · exact .inr ⟨hbody, by simp [memberOf?, hbody], by simp [memberOf?, hbody]⟩
      · exact .inl (by simp only [memberOf?, if_neg hbody])

theorem Tree.field?_congr (h : tree.member? name = tree'.member? name) :
    tree.field? name = tree'.field? name := by
  rw [Tree.field?, Tree.field?, h]

theorem Tree.field?_of_member? (h : tree.member? name = some tree') (hne : tree' ≠ .null) :
    tree.field? name = some tree' := by
  cases tree' with
  | null => exact absurd rfl hne
  | _ => rw [Tree.field?, h]

end Members

end TableLineage.Json

namespace TableLineage.Schema

open Json

inductive Level
  | document | model | table | partition | source

/-- The members that a record is read from. -/
def Level.names : Level → List String
  | .document => ["model"]
  | .model => ["tables"]
  | .table => ["name", "partitions", "isHidden"]
  | .partition => ["name", "mode", "source"]
  | .source => ["type", "expression"]

inductive Spot
  | record (level : Level)
  | field (level : Level) (name : String)

inductive Unseen : Spot → Tree → Tree → Prop
  | other : (∀ name ∈ level.names, bodyText? body ≠ some name) →
      Unseen (.record level) (.object (front ++ back)) (.object (front ++ (body, tree) :: back))
  | swap : bodyText? a.1 ≠ bodyText? b.1 →
      Unseen (.record level) (.object (front ++ a :: b :: back)) (.object (front ++ b :: a :: back))
  | member : bodyText? body = some name → Unseen (.field level name) tree tree' →
      Unseen (.record level) (.object (front ++ (body, tree) :: back))
        (.object (front ++ (body, tree') :: back))
  | model : Unseen (.record .model) tree tree' → Unseen (.field .document "model") tree tree'
  | source : Unseen (.record .source) tree tree' → Unseen (.field .partition "source") tree tree'
  | table : Unseen (.record .table) tree tree' → Unseen (.field .model "tables")
      (.array (before ++ tree :: behind)) (.array (before ++ tree' :: behind))
  | partition : Unseen (.record .partition) tree tree' → Unseen (.field .table "partitions")
      (.array (before ++ tree :: behind)) (.array (before ++ tree' :: behind))
  | unlisted : TableView.ofTree? tree = none → Unseen (.field .model "tables")
      (.array (before ++ behind)) (.array (before ++ tree :: behind))

/-! ## What they leave as it is -/

def Level.Same : Level → Tree → Tree → Prop
  | .document, tree, tree' =>
      (tablesOfTree? tree).map (·.filterMap TableView.ofTree?) =
        (tablesOfTree? tree').map (·.filterMap TableView.ofTree?)
  | .model, tree, tree' =>
      (tree.itemsAt? "tables").map (·.filterMap TableView.ofTree?) =
        (tree'.itemsAt? "tables").map (·.filterMap TableView.ofTree?)
  | .table, tree, tree' => TableView.ofTree? tree = TableView.ofTree? tree'
  | .partition, tree, tree' => PartitionView.ofTree tree = PartitionView.ofTree tree'
  | .source, tree, tree' => tree.textAt? "type" = tree'.textAt? "type" ∧
      (tree.field? "expression").bind Expression.ofTree? =
        (tree'.field? "expression").bind Expression.ofTree?

/-- What is looked at of the part of a record that is not a text is the same. -/
def Level.SamePart : Level → Tree → Tree → Prop
  | .document, tree, tree' => Level.model.Same tree tree'
  | .model, tree, tree' => tree.items?.map (·.filterMap TableView.ofTree?) =
      tree'.items?.map (·.filterMap TableView.ofTree?)
  | .table, tree, tree' =>
      tree.items?.map (·.map PartitionView.ofTree) = tree'.items?.map (·.map PartitionView.ofTree)
  | .partition, tree, tree' => Level.source.Same tree tree'
  | .source, tree, tree' => tree = tree'

def Level.part? : Level → Option String
  | .document => some "model"
  | .model => some "tables"
  | .table => some "partitions"
  | .partition => some "source"
  | .source => none

def Spot.Same : Spot → Tree → Tree → Prop
  | .record level, tree, tree' => level.Same tree tree'
  | .field level _, tree, tree' => tree ≠ .null ∧ tree' ≠ .null ∧ level.SamePart tree tree'

section Same

variable {level : Level} {tree tree' : Tree} {name : String}

theorem Level.same_of_member? (h : ∀ name ∈ level.names, tree.member? name = tree'.member? name) :
    level.Same tree tree' := by
  cases level with
  | document =>
      simp only [Level.names, List.forall_mem_cons] at h
      rw [Level.Same, tablesOfTree?, tablesOfTree?, Tree.field?_congr h.1]
  | model =>
      simp only [Level.names, List.forall_mem_cons] at h
      rw [Level.Same, Tree.itemsAt?, Tree.itemsAt?, Tree.field?_congr h.1]
  | table =>
      simp only [Level.names, List.forall_mem_cons] at h
      obtain ⟨hname, hpartitions, hmark, -⟩ := h
      rw [Level.Same, TableView.ofTree?, TableView.ofTree?, Tree.textAt?, Tree.textAt?,
        Tree.itemsAt?, Tree.itemsAt?, Tree.field?_congr hname, Tree.field?_congr hpartitions, hmark]
  | partition =>
      simp only [Level.names, List.forall_mem_cons] at h
      obtain ⟨hname, hmode, hsource, -⟩ := h
      rw [Level.Same, PartitionView.ofTree, PartitionView.ofTree, Tree.textAt?, Tree.textAt?,
        Tree.textAt?, Tree.textAt?, Tree.field?_congr hname, Tree.field?_congr hmode,
        Tree.field?_congr hsource]
  | source =>
      simp only [Level.names, List.forall_mem_cons] at h
      obtain ⟨hkind, hexpression, -⟩ := h
      rw [Level.Same, Tree.textAt?, Tree.textAt?, Tree.field?_congr hkind,
        Tree.field?_congr hexpression]
      exact ⟨rfl, rfl⟩

/-- Of the members that are looked at only the one that is not a text differs. -/
theorem Level.same_of_part? {part part' : Tree} (hname : level.part? = some name)
    (hothers : ∀ other, other ≠ name → tree.member? other = tree'.member? other)
    (hpart : tree.field? name = some part) (hpart' : tree'.field? name = some part')
    (hsame : level.SamePart part part') : level.Same tree tree' := by
  cases level with
  | document =>
      cases hname
      rw [Level.Same, tablesOfTree?, tablesOfTree?, hpart, hpart']
      exact hsame
  | model =>
      cases hname
      rw [Level.Same, Tree.itemsAt?, Tree.itemsAt?, hpart, hpart']
      exact hsame
  | table =>
      cases hname
      have hmark := hothers "isHidden" (by decide)
      have hname := Tree.field?_congr (hothers "name" (by decide))
      have hitems : ((tree.itemsAt? "partitions").map (·.map PartitionView.ofTree)) =
          (tree'.itemsAt? "partitions").map (·.map PartitionView.ofTree) := by
        rw [Tree.itemsAt?, Tree.itemsAt?, hpart, hpart']
        exact hsame
      have hviews := congrArg (Option.map (TableView.mk (tree'.textAt? "name"))) hitems
      rw [Option.map_map, Option.map_map] at hviews
      rw [Level.Same, TableView.ofTree?, TableView.ofTree?, hmark, Tree.textAt?, hname]
      exact congrArg (ite _ none) hviews
  | partition =>
      cases hname
      have hname := Tree.field?_congr (hothers "name" (by decide))
      have hmode := Tree.field?_congr (hothers "mode" (by decide))
      rw [Level.Same, PartitionView.ofTree, PartitionView.ofTree, hpart, hpart', Tree.textAt?,
        Tree.textAt?, Tree.textAt?, Tree.textAt?, hname, hmode]
      obtain ⟨hkind, hexpression⟩ := hsame
      rw [Option.bind_some, Option.bind_some, Option.bind_some, Option.bind_some, hkind,
        hexpression]
  | source => cases hname

theorem Unseen.ne_null {spot : Spot} (h : Unseen spot tree tree') :
    tree ≠ .null ∧ tree' ≠ .null := by
  induction h with
  | model _ ih => exact ih
  | source _ ih => exact ih
  | _ => exact ⟨by rintro ⟨⟩, by rintro ⟨⟩⟩

theorem Unseen.part? (h : Unseen (.field level name) tree tree') : level.part? = some name := by
  cases h <;> rfl

theorem Unseen.same {spot : Spot} (h : Unseen spot tree tree') : spot.Same tree tree' := by
  induction h with
  | other hother =>
      refine Level.same_of_member? fun name hname => ?_
      exact (memberOf?_other (hother name hname)).symm
  | swap hne => exact Level.same_of_member? fun name _ => memberOf?_swap hne
  | @member body name level tree tree' front back hbody hunseen ih =>
      obtain ⟨hne, hne', hpart⟩ := ih
      have hothers (other : String) (hother : other ≠ name) :
          memberOf? other (front ++ (body, tree) :: back) =
            memberOf? other (front ++ (body, tree') :: back) := by
        obtain hsame | ⟨hbody', -⟩ := memberOf?_replace
        · exact hsame
        · rw [hbody, Option.some.injEq] at hbody'
          exact absurd hbody'.symm hother
      obtain hsame | ⟨-, hmember, hmember'⟩ := memberOf?_replace
      · refine Level.same_of_member? fun other _ => ?_
        by_cases hother : other = name
        · subst hother
          exact hsame
        · exact hothers other hother
      · exact Level.same_of_part? hunseen.part? hothers (Tree.field?_of_member? hmember hne)
          (Tree.field?_of_member? hmember' hne') hpart
  | model hunseen ih => exact ⟨hunseen.ne_null.1, hunseen.ne_null.2, ih⟩
  | source hunseen ih => exact ⟨hunseen.ne_null.1, hunseen.ne_null.2, ih⟩
  | table hunseen ih =>
      refine ⟨by rintro ⟨⟩, by rintro ⟨⟩, ?_⟩
      have ih : TableView.ofTree? _ = TableView.ofTree? _ := ih
      simp only [Level.SamePart, Tree.items?, Option.map_some, List.filterMap_append,
        List.filterMap_cons, ih]
  | partition hunseen ih =>
      refine ⟨by rintro ⟨⟩, by rintro ⟨⟩, ?_⟩
      have ih : PartitionView.ofTree _ = PartitionView.ofTree _ := ih
      simp only [Level.SamePart, Tree.items?, Option.map_some, List.map_append, List.map_cons, ih]
  | unlisted hnone =>
      refine ⟨by rintro ⟨⟩, by rintro ⟨⟩, ?_⟩
      simp only [Level.SamePart, Tree.items?, Option.map_some, List.filterMap_append,
        List.filterMap_cons_none hnone]

end Same

end TableLineage.Schema
