import TableLineage.Proofs.Ordered
import TableLineage.Sql.Collector
import TableLineage.Sql.Parse

/-!
# What a collector has met

A collector holds at every time of a walk what the events so far say, in their
order: `Holds.visit` for one event and `Holds.visitAll` for all of them.  From
this it follows what is reported at the end, and that it does not matter where
on the walk a name is bound.
-/

namespace TableLineage.Sql

theorem commonTableNames_append (first second : Mentions) :
    commonTableNames (first ++ second) = commonTableNames first ++ commonTableNames second :=
  List.flatMap_append

theorem relationNames_append (first second : Mentions) :
    relationNames (first ++ second) = relationNames first ++ relationNames second :=
  List.filterMap_append

theorem mem_commonTableNames {mentions : Mentions} {name : String} :
    name ∈ commonTableNames mentions ↔
      ∃ aliases, .commonTables aliases ∈ mentions ∧ name ∈ aliases := by
  rw [commonTableNames, List.mem_flatMap]
  constructor
  · rintro ⟨aliases | object, hmention, hname⟩
    · exact ⟨aliases, hmention, hname⟩
    · exact absurd hname List.not_mem_nil
  · rintro ⟨aliases, hmention, hname⟩
    exact ⟨.commonTables aliases, hmention, hname⟩

theorem mem_relationNames {mentions : Mentions} {name : String} :
    name ∈ relationNames mentions ↔
      ∃ object, .relation object ∈ mentions ∧ tableName object = name := by
  rw [relationNames, List.mem_filterMap]
  constructor
  · rintro ⟨aliases | object, hmention, hname⟩
    · contradiction
    · exact ⟨object, hmention, Option.some.inj hname⟩
  · rintro ⟨object, hmention, rfl⟩
    exact ⟨.relation object, hmention, rfl⟩

theorem tableName_append (front : ObjectName) (first second : NamePart) :
    tableName (front ++ [first, second]) = first.plain ++ "." ++ second.plain := by
  have hdrop : (front ++ [first, second]).drop ((front ++ [first, second]).length - 2) =
      [first, second] := by simp
  rw [tableName, hdrop]
  rfl

theorem tableName_singleton (part : NamePart) : tableName [part] = part.plain := rfl

def bindsName (mentions : Mentions) (name : String) : Bool :=
  (commonTableNames mentions).any fun other => equalIgnoringAsciiCase other name

theorem tablesOf_eq_eraseDups (mentions : Mentions) :
    tablesOf mentions =
      ((relationNames mentions).filter fun name => !bindsName mentions name).eraseDups := by
  rw [← Ordered.firstSeen_eq_eraseDups, ← Ordered.filter_firstSeen]
  rfl

theorem mem_tablesOf {mentions : Mentions} {name : String} :
    name ∈ tablesOf mentions ↔ name ∈ relationNames mentions ∧ bindsName mentions name = false := by
  rw [tablesOf_eq_eraseDups, List.mem_eraseDups, List.mem_filter, Bool.not_eq_true']

theorem bindsName_eq_false_iff {mentions : Mentions} {name : String} :
    bindsName mentions name = false ↔ ∀ aliases, .commonTables aliases ∈ mentions →
      ∀ other ∈ aliases, equalIgnoringAsciiCase other name = false := by
  rw [bindsName, List.any_eq_false]
  constructor
  · intro h aliases hmention other hother
    exact Bool.eq_false_iff.mpr (h other (mem_commonTableNames.mpr ⟨aliases, hmention, hother⟩))
  · intro h other hother
    obtain ⟨aliases, hmention, hother⟩ := mem_commonTableNames.mp hother
    exact Bool.eq_false_iff.mp (h aliases hmention other hother)

theorem tablesOf_congr {first second : Mentions}
    (hrelations : relationNames first = relationNames second)
    (hbound : ∀ name, name ∈ commonTableNames first ↔ name ∈ commonTableNames second) :
    tablesOf first = tablesOf second := by
  have hbinds : bindsName first = bindsName second := by
    funext name
    rw [Bool.eq_iff_iff, bindsName, bindsName, List.any_eq_true, List.any_eq_true]
    simp only [hbound]
  rw [tablesOf_eq_eraseDups, tablesOf_eq_eraseDups, hrelations, hbinds]

theorem tablesOf_commonTables_move (before middle after : Mentions) (aliases : List String) :
    tablesOf (before ++ .commonTables aliases :: (middle ++ after)) =
      tablesOf (before ++ (middle ++ .commonTables aliases :: after)) := by
  apply tablesOf_congr
  · rw [← List.singleton_append, ← List.singleton_append]
    simp only [relationNames_append]
    rfl
  · intro name
    rw [mem_commonTableNames, mem_commonTableNames]
    simp [or_left_comm]

namespace Collector

structure Holds (collector : Collector) (visited : Mentions) : Prop where
  bound : collector.bound = commonTableNames visited
  relations : collector.relations = Ordered.firstSeen (relationNames visited)

theorem holds_start : Holds start [] := ⟨rfl, rfl⟩

theorem Holds.visit {collector : Collector} {visited : Mentions} (h : Holds collector visited)
    (mention : Mention) : Holds (collector.visit mention) (visited ++ [mention]) := by
  constructor
  · rw [commonTableNames_append, ← h.bound]
    cases mention <;> simp [Collector.visit, commonTableNames, Mention.aliases]
  · rw [relationNames_append, Ordered.firstSeen_append, ← h.relations]
    cases mention <;> rfl

theorem Holds.visitAll {collector : Collector} {visited : Mentions} (h : Holds collector visited)
    (mentions : Mentions) : Holds (collector.visitAll mentions) (visited ++ mentions) := by
  induction mentions generalizing collector visited with
  | nil => rwa [List.append_nil]
  | cons mention mentions ih =>
      have hrest := ih (h.visit mention)
      rwa [List.append_assoc, List.singleton_append] at hrest

theorem Holds.walk {collector : Collector} {visited : Mentions} (h : Holds collector visited)
    (statements : List Statement) :
    Holds (collector.walk statements) (visited ++ statements.flatMap Statement.mentions) := by
  induction statements generalizing collector visited with
  | nil => rwa [List.flatMap_nil, List.append_nil]
  | cons statement statements ih =>
      have hrest := ih (h.visitAll statement.mentions)
      rwa [List.append_assoc, ← List.flatMap_cons] at hrest

/-! ## Main result -/

theorem Holds.tables_eq {collector : Collector} {visited : Mentions}
    (h : Holds collector visited) : collector.tables = tablesOf visited := by
  rw [tables, h.bound, h.relations]
  rfl

theorem tables_visitAll_eq (mentions : Mentions) :
    (start.visitAll mentions).tables = tablesOf mentions :=
  (holds_start.visitAll mentions).tables_eq

theorem tables_walk_eq (statements : List Statement) :
    (start.walk statements).tables = statementTables statements :=
  (holds_start.walk statements).tables_eq

example : (start.visitAll
    [.relation [.ident ⟨"T", none⟩], .relation [.ident ⟨"dbo", none⟩, .ident ⟨"t", none⟩],
      .commonTables ["t"], .relation [.ident ⟨"t", none⟩]]).tables = ["dbo.t"] := by decide

end Collector

end TableLineage.Sql
