import TableLineage.Proofs.Json.Printing
import TableLineage.Proofs.Lineage.Visible
import TableLineage.Proofs.Schema.Marking

/-!
# A marked table is as good as none

A table that is marked with any value that is kept takes no part in the lineage
of its document, and the other tables have the lineage they have without it.  A
value that cannot be kept makes the whole document unreadable.
-/

namespace TableLineage.Lineage

open Json Json.Reader Schema

/-- A table without a mark among the tables of a document, and a mark to put among its members. -/
structure Marking where
  around : Surroundings
  before : List Tree
  behind : List Tree
  front : List (List Char × Tree)
  back : List (List Char × Tree)
  key : List Char
  value : Tree
  unmarked : ∀ member ∈ front ++ back, bodyText? member.1 ≠ some "isHidden"
  spells : Spells key "isHidden"
  valid : value.Valid

namespace Marking

variable (marking : Marking)

def table : Tree := .object (marking.front ++ marking.back)

def markedTable : Tree :=
  .object (marking.front ++ (marking.key, marking.value) :: marking.back)

def original : Tree := marking.around.fill (marking.before ++ marking.table :: marking.behind)

def marked : Tree := marking.around.fill (marking.before ++ marking.markedTable :: marking.behind)

def removed : Tree := marking.around.fill (marking.before ++ marking.behind)

end Marking

section Tables

variable {depth : Nat} {marking : Marking} {document : Document}

theorem forall₂_split {α β : Type} {R : α → β → Prop} {found : List α} {before behind : List β}
    {b : β} (h : List.Forall₂ R found (before ++ b :: behind)) :
    ∃ front a back, found = front ++ a :: back ∧ List.Forall₂ R front before ∧ R a b ∧
      List.Forall₂ R back behind := by
  have hfront := List.forall₂_take_append found before (b :: behind) h
  obtain ⟨a, back, ha, hback, hdrop⟩ := List.forall₂_cons_right_iff.mp
    (List.forall₂_drop_append found before (b :: behind) h)
  refine ⟨_, a, back, ?_, hfront, ha, hback⟩
  rw [← hdrop, List.take_append_drop]

/-- The tables of the other two documents, out of those of the one that is read. -/
theorem Marking.exists_tables (h : KeepsDocument (depth + 4) document marking.original) :
    ∃ front table back,
      KeepsDocument (depth + 4) (.ofTables (front ++ back)) marking.removed ∧
      (Kept depth marking.value → KeepsDocument (depth + 4)
        (.ofTables (front ++ Table.mark table :: back)) marking.marked) := by
  obtain ⟨tables, -, htables⟩ := (keepsDocument_fill_iff h).mp h
  obtain ⟨front, table, back, -, hfront, htable, hback⟩ := forall₂_split htables
  refine ⟨front, table, back, ?_, fun hkept => ?_⟩
  · exact (keepsDocument_fill_iff h).mpr ⟨_, rfl, List.rel_append hfront hback⟩
  · have hmark := KeepsTable.mark htable marking.unmarked marking.spells hkept
    exact (keepsDocument_fill_iff h).mpr ⟨_, rfl, List.rel_append hfront (.cons hmark hback)⟩

theorem Marking.kept_value {document' : Document}
    (h : KeepsDocument (depth + 4) document marking.original)
    (hmarked : KeepsDocument (depth + 4) document' marking.marked) :
    Kept depth marking.value := by
  obtain ⟨tables, -, htables⟩ := (keepsDocument_fill_iff h).mp hmarked
  obtain ⟨_, table, _, -, -, htable, -⟩ := forall₂_split htables
  exact KeepsTable.kept_of_mark htable marking.spells.text

theorem importsOf_mark (front back : List Table) (table : Table) :
    importsOf (front ++ table.mark :: back) = importsOf (front ++ back) := by
  have hnone : table.mark.imports = [] := by
    simp [Table.imports, Table.eligible, Table.mark]
  simp [importsOf, hnone]

theorem extractText_ofTables {text : List Char} {root : Tree} (hroot : root.IsTreeOf text)
    {tables : List Table} (h : KeepsDocument depthLimit (.ofTables tables) root) :
    extractText text = .ok (extractImports (importsOf tables)) := by
  rw [extractText, (Document.ofText_iff_keeps hroot).mpr h]
  rfl

end Tables

/-! ## Main result -/

/-- How many composite values may be opened inside of a mark, the document, the model, its list of
tables and the table being open around it. -/
def markDepth : Nat := 123

theorem extractText_marked {text : List Char} {document : Document}
    (hread : Document.ofText text = .ok document) :
    (∀ tables, document.tables? = some tables → ∃ (around : Surroundings) (items : List Tree),
      (around.fill items).IsTreeOf text ∧ items.length = tables.length) ∧
    ∀ (marking : Marking) (marked removed : List Char),
      marking.original.IsTreeOf text → marking.marked.IsTreeOf marked →
      marking.removed.IsTreeOf removed →
      ((∃ document, Document.ofText marked = .ok document) ↔
        ¬ marking.value.Refused markDepth) ∧
      ∃ found, extractText removed = .ok found ∧
        (¬ marking.value.Refused markDepth → extractText marked = .ok found) := by
  constructor
  · intro tables htables
    obtain ⟨root, hroot, hkeeps⟩ := Document.exists_keeps hread
    obtain ⟨around, items, rfl, hitems⟩ := @exists_surroundings 124 _ _ _ hkeeps htables
    exact ⟨around, items, hroot, hitems.length_eq.symm⟩
  · intro marking marked removed horiginal hmarked hremoved
    have hkeeps : KeepsDocument (markDepth + 4) document marking.original :=
      (Document.ofText_iff_keeps horiginal).mp hread
    obtain ⟨front, table, back, hothers, hall⟩ := Marking.exists_tables hkeeps
    simp only [← marking.valid.kept_iff]
    refine ⟨⟨?_, fun hkept => ?_⟩, _, extractText_ofTables hremoved hothers, fun hkept => ?_⟩
    · rintro ⟨document', hread'⟩
      exact Marking.kept_value hkeeps ((Document.ofText_iff_keeps hmarked).mp hread')
    · exact ⟨_, (Document.ofText_iff_keeps hmarked).mpr (hall hkept)⟩
    · rw [extractText_ofTables hmarked (hall hkept), importsOf_mark]

/-! A table without partitions is marked, in front of one with lineage. -/

def surroundings : Surroundings :=
  ⟨.member [] "model".toList [], .member [] "tables".toList [], by exact rfl, by exact rfl⟩

def sparseMembers : List (List Char × Tree) :=
  [("name".toList, .string "T".toList), ("partitions".toList, .array [])]

def sparseMarking (value : Tree) (valid : value.Valid) : Marking where
  around := surroundings
  before := []
  behind := [filledTable.tree]
  front := sparseMembers
  back := []
  key := "isHidden".toList
  value := value
  unmarked := by decide +kernel
  spells := ⟨by decide +kernel, by decide +kernel⟩
  valid := valid

def documentText (tables : List Char) : List Char :=
  "\x7b\"model\":\x7b\"tables\":[".toList ++ (tables ++ "]\x7d\x7d".toList)

/-- The first table has `more` behind its members. -/
def twoTables (more : List Char) : List Char :=
  '\x7b' :: '"' :: ("name".toList ++ '"' :: ':' :: '"' :: ("T".toList ++ '"' :: ',' :: '"' ::
    ("partitions".toList ++ '"' :: ':' :: '[' :: ']' ::
      (more ++ '\x7d' :: ',' :: Printer.compact filledTable))))

def markText (mark : List Char) : List Char :=
  ',' :: '"' :: ("isHidden".toList ++ '"' :: ':' :: mark)

/-- A member with a plain name, the first one or behind a comma, and no blanks. -/
theorem written_member (first : Bool) {name : List Char} {tree : Tree}
    {members : List (List Char × Tree)} {s t u : List Char} (hname : isPlain name = true)
    (hvalue : Written (.value tree) s t) (hmembers : Written (.members false members) t u) :
    Written (.members first ((name, tree) :: members))
      ((if first then [] else [',']) ++ '"' :: (name ++ '"' :: ':' :: s)) u := by
  refine .member ?_ (Body.of_isPlain hname) (.refl _) (.refl _) hvalue hmembers
  cases first with
  | true => exact .refl _
  | false => exact ⟨_, .refl _, .refl _⟩

theorem written_noItem (t : List Char) : Written (.value (.array [])) ('[' :: ']' :: t) t :=
  .array (.noItem (.refl _))

theorem written_name (t : List Char) :
    Written (.value (.string "T".toList)) ('"' :: ("T".toList ++ '"' :: t)) t :=
  .string (Body.of_isPlain rfl)

theorem isTreeOf_documentText {tables : List Char} {items : List Tree}
    (h : ∀ t, Written (.items true items) (tables ++ ']' :: t) (']' :: t)) :
    (surroundings.fill items).IsTreeOf (documentText tables) := by
  have htext : documentText tables = '\x7b' :: '"' :: ("model".toList ++ '"' :: ':' ::
      '\x7b' :: '"' :: ("tables".toList ++ '"' :: ':' :: '[' ::
        (tables ++ ']' :: '\x7d' :: '\x7d' :: []))) := rfl
  rw [htext]
  exact ⟨_, [], .refl _, .object (written_member true rfl
    (.object (written_member true rfl (.array (h _)) (.noMember (.refl _))))
      (.noMember (.refl _))), .refl _⟩

theorem written_filledTable (t : List Char) :
    Written (.items true [filledTable.tree]) (Printer.compact filledTable ++ ']' :: t)
      (']' :: t) :=
  .item (.refl _) (written_compact plain_filledTable _) (.noItem (.refl _))

theorem written_twoTables {more : List Char} {members : List (List Char × Tree)}
    (h : ∀ t, Written (.members false members) (more ++ '\x7d' :: t) ('\x7d' :: t))
    (t : List Char) :
    Written (.items true [.object (sparseMembers ++ members), filledTable.tree])
      (twoTables more ++ ']' :: t) (']' :: t) := by
  have htext : twoTables more ++ ']' :: t = '\x7b' :: '"' :: ("name".toList ++ '"' :: ':' ::
      '"' :: ("T".toList ++ '"' :: ',' :: '"' :: ("partitions".toList ++ '"' :: ':' :: '[' :: ']' ::
        (more ++ '\x7d' :: ',' :: (Printer.compact filledTable ++ ']' :: t))))) := by
    simp only [twoTables, List.cons_append, List.append_assoc]
  have hmembers (s : List Char) : Written
      (.members true (("name".toList, .string "T".toList) :: ("partitions".toList, .array []) ::
        members)) _ ('\x7d' :: s) :=
    written_member true (by decide) (written_name _)
      (written_member false (by decide) (written_noItem _) (h s))
  rw [htext]
  exact .item (.refl _) (.object (hmembers _)) (.item ⟨_, .refl _, .refl _⟩
    (written_compact plain_filledTable _) (.noItem (.refl _)))

theorem written_markText {mark : List Char} {value : Tree}
    (h : ∀ t, Json.Ends t → Written (.value value) (mark ++ t) t) (t : List Char) :
    Written (.members false [("isHidden".toList, value)]) (markText mark ++ '\x7d' :: t)
      ('\x7d' :: t) := by
  have htext : markText mark ++ '\x7d' :: t = ',' :: '"' :: ("isHidden".toList ++ '"' :: ':' ::
      (mark ++ '\x7d' :: t)) := by
    simp only [markText, List.cons_append, List.append_assoc]
  rw [htext]
  exact written_member false rfl (h _ (ends_cons rfl)) (.noMember (.refl _))

section Sample

variable {value : Tree} {mark : List Char}

theorem isTreeOf_original (valid : value.Valid) :
    (sparseMarking value valid).original.IsTreeOf (documentText (twoTables [])) :=
  isTreeOf_documentText (written_twoTables fun _ => .noMember (.refl _))

theorem isTreeOf_marked (valid : value.Valid)
    (h : ∀ t, Json.Ends t → Written (.value value) (mark ++ t) t) :
    (sparseMarking value valid).marked.IsTreeOf (documentText (twoTables (markText mark))) :=
  isTreeOf_documentText (written_twoTables (written_markText h))

theorem isTreeOf_removed (valid : value.Valid) :
    (sparseMarking value valid).removed.IsTreeOf
      (documentText (Printer.compact filledTable)) :=
  isTreeOf_documentText written_filledTable

theorem reads_original : ∃ document tables,
    Document.ofText (documentText (twoTables [])) = .ok document ∧
      document.tables? = some tables ∧ tables.length = 2 := by
  have hlength : (Document.ofText (documentText (twoTables []))).toOption.bind
      (fun document => document.tables?.map List.length) = some 2 := by
    decide +kernel
  cases hread : Document.ofText (documentText (twoTables [])) with
  | error error =>
      rw [hread] at hlength
      cases hlength
  | ok document =>
      rw [hread] at hlength
      obtain ⟨tables, htables, hlength⟩ := Option.map_eq_some_iff.mp hlength
      exact ⟨document, tables, rfl, htables, hlength⟩

end Sample

def toolMark : Tree := .object [("by".toList, .string "tool".toList)]

def toolText : List Char := '\x7b' :: '"' :: ("by".toList ++ '"' :: ':' :: '"' ::
  ("tool".toList ++ '"' :: '\x7d' :: []))

theorem valid_toolMark : toolMark.Valid := by
  refine .object ?_ ?_ <;> simp only [List.forall_mem_singleton]
  · exact ⟨by decide +kernel, by decide +kernel⟩
  · exact .string ⟨by decide +kernel, by decide +kernel⟩

theorem written_toolText (t : List Char) : Written (.value toolMark) (toolText ++ t) t := by
  have htext : toolText ++ t = '\x7b' :: '"' :: ("by".toList ++ '"' :: ':' :: '"' ::
      ("tool".toList ++ '"' :: '\x7d' :: t)) := by
    simp only [toolText, List.cons_append, List.append_assoc, List.nil_append]
  rw [htext]
  exact .object (written_member true rfl (.string (Body.of_isPlain rfl)) (.noMember (.refl _)))

theorem not_refused_toolMark : ¬ toolMark.Refused markDepth := by
  rw [← valid_toolMark.kept_iff]
  refine kept_object_iff.mpr ?_
  simp only [List.forall_mem_singleton]
  exact ⟨⟨"by", ⟨by decide +kernel, by decide +kernel⟩⟩,
    kept_string_iff.mpr ⟨"tool", ⟨by decide +kernel, by decide +kernel⟩⟩⟩

theorem extractText_marked_tool :
    (∃ (around : Surroundings) (items : List Tree),
      (around.fill items).IsTreeOf (documentText (twoTables [])) ∧ items.length = 2) ∧
    ∃ found, found.records.length = 1 ∧
      extractText (documentText (Printer.compact filledTable)) = .ok found ∧
      extractText (documentText (twoTables (markText toolText))) = .ok found := by
  obtain ⟨document, tables, hread, htables, hlength⟩ := reads_original
  obtain ⟨hsurroundings, hmark⟩ := extractText_marked hread
  obtain ⟨around, items, htree, hitems⟩ := hsurroundings tables htables
  obtain ⟨-, found, hremoved, hmarked⟩ :=
    hmark (sparseMarking toolMark valid_toolMark) _ _ (isTreeOf_original _)
      (isTreeOf_marked _ fun t _ => written_toolText t) (isTreeOf_removed _)
  have hrecord : (extractText (documentText (Printer.compact filledTable))).toOption.map
      (fun found => found.records.length) = some 1 := by
    decide +kernel
  refine ⟨⟨around, items, htree, hitems.trans hlength⟩, found, ?_, hremoved,
    hmarked not_refused_toolMark⟩
  simpa [hremoved, Except.toOption] using hrecord

theorem isNumber_huge : IsNumber false ⟨['1'], [], some (false, "400".toList)⟩ "1e400".toList := by
  have hwhole : IsWhole ['1'] := ⟨by decide +kernel, by simp, by simp⟩
  have hexponent : IsExponent (some (false, "400".toList)) "e400".toList :=
    .some (.inl rfl) .none (by decide +kernel) (by decide +kernel)
  exact .positive (.intro hwhole .none hexponent)

/-- A number out of range takes the lineage of the other table with it. -/
theorem ofText_marked_huge :
    (∃ document, Document.ofText (documentText (twoTables [])) = .ok document) ∧
      (∃ valid : (Tree.number "1e400".toList).Valid,
        (sparseMarking _ valid).original.IsTreeOf (documentText (twoTables [])) ∧
        (sparseMarking _ valid).marked.IsTreeOf
          (documentText (twoTables (markText "1e400".toList)))) ∧
      ¬ ∃ document, Document.ofText (documentText (twoTables (markText "1e400".toList))) =
        .ok document := by
  obtain ⟨document, -, hread, -⟩ := reads_original
  refine ⟨⟨document, hread⟩, ⟨.number isNumber_huge, isTreeOf_original _,
    isTreeOf_marked _ fun t _ => isNumber_huge.written t⟩, ?_⟩
  rintro ⟨document, hread⟩
  have hnone : (Document.ofText (documentText (twoTables (markText "1e400".toList)))).toOption =
      none := by
    decide +kernel
  rw [hread] at hnone
  cases hnone

end TableLineage.Lineage
