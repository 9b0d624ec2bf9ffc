import TableLineage.Proofs.Ordered
import TableLineage.Sql.Parse

/-!
# Statements side by side

A name that a `WITH` binds is no table in any statement of the same text,
whatever its letter case.  So the tables of two lists of statements are those of
each list, except where one list binds what the other reads.
-/

namespace TableLineage.Sql

/-- Whether a `WITH` in one of the statements binds a name. -/
def binds (statements : List Statement) (name : String) : Bool :=
  (commonTableNames (statements.flatMap Statement.mentions)).any fun other =>
    equalIgnoringAsciiCase other name

theorem binds_append (first second : List Statement) (name : String) :
    binds (first ++ second) name = (binds first name || binds second name) := by
  simp only [binds, commonTableNames, List.flatMap_append, List.any_append]

def namedRelations (statements : List Statement) : List String :=
  relationNames (statements.flatMap Statement.mentions)

theorem namedRelations_append (first second : List Statement) :
    namedRelations (first ++ second) = namedRelations first ++ namedRelations second := by
  simp only [namedRelations, relationNames, List.flatMap_append, List.filterMap_append]

theorem statementTables_eq (statements : List Statement) :
    statementTables statements =
      Ordered.firstSeen ((namedRelations statements).filter fun name => !binds statements name) :=
  Ordered.filter_firstSeen ..

theorem mem_statementTables {statements : List Statement} {name : String} :
    name ∈ statementTables statements ↔
      name ∈ namedRelations statements ∧ binds statements name = false := by
  rw [statementTables_eq, Ordered.mem_firstSeen, List.mem_filter, Bool.not_eq_true']

theorem statementTables_append (first second : List Statement) :
    statementTables (first ++ second) =
      (Ordered.firstSeen (statementTables first ++ statementTables second)).filter fun name =>
        !(binds first name || binds second name) := by
  have hfirst (name : String) :
      (!(binds first name || binds second name) && !binds first name) =
        !(binds first name || binds second name) := by
    cases binds first name <;> simp
  have hsecond (name : String) :
      (!(binds first name || binds second name) && !binds second name) =
        !(binds first name || binds second name) := by
    cases binds second name <;> simp
  rw [statementTables_eq first, statementTables_eq second, Ordered.firstSeen_append_firstSeen,
    Ordered.filter_firstSeen, List.filter_append, List.filter_filter, List.filter_filter,
    statementTables_eq, namedRelations_append, List.filter_append]
  simp only [hfirst, hsecond, binds_append]

theorem mem_statementTables_append {first second : List Statement} {name : String} :
    name ∈ statementTables (first ++ second) ↔
      name ∈ statementTables first ∧ binds second name = false ∨
        name ∈ statementTables second ∧ binds first name = false := by
  rw [mem_statementTables, mem_statementTables, mem_statementTables, namedRelations_append,
    List.mem_append, binds_append, Bool.or_eq_false_iff]
  tauto

/-- Nothing is lost exactly when neither list binds a table of the other. -/
theorem statementTables_append_eq_iff (first second : List Statement) :
    statementTables (first ++ second) =
        Ordered.firstSeen (statementTables first ++ statementTables second) ↔
      (∀ name ∈ statementTables first, binds second name = false) ∧
        ∀ name ∈ statementTables second, binds first name = false := by
  rw [statementTables_append, List.filter_eq_self]
  simp only [Ordered.mem_firstSeen, List.mem_append, or_imp, forall_and, Bool.not_eq_true',
    Bool.or_eq_false_iff]
  constructor
  · rintro ⟨⟨-, hsecond⟩, hfirst, -⟩
    exact ⟨hfirst, hsecond⟩
  · rintro ⟨hfirst, hsecond⟩
    refine ⟨⟨?_, hsecond⟩, hfirst, ?_⟩
    · exact fun name hname => (mem_statementTables.mp hname).2
    · exact fun name hname => (mem_statementTables.mp hname).2

theorem resolve_of_parse {d : Dialect} {query : String} {statements : List Statement}
    (h : parse d query.toList = .ok statements) :
    resolve d query = some (statementTables statements) := by
  rw [resolve, h]
  rfl

/-- One text may hide in another what it binds, and only that, if the parser reads the statements
of both behind each other. -/
theorem resolve_beside (first second : List Statement) :
    statementTables (first ++ second) =
        (Ordered.firstSeen (statementTables first ++ statementTables second)).filter (fun name =>
          !(binds first name || binds second name)) ∧
      (statementTables (first ++ second) =
          Ordered.firstSeen (statementTables first ++ statementTables second) ↔
        (∀ name ∈ statementTables first, binds second name = false) ∧
          ∀ name ∈ statementTables second, binds first name = false) ∧
      ∀ (d : Dialect) (q q' : String), parse d q.toList = .ok first →
        parse d q'.toList = .ok second →
        parse d (q ++ "; " ++ q').toList = .ok (first ++ second) →
        ∃ tables tables' both, resolve d q = some tables ∧ resolve d q' = some tables' ∧
          resolve d (q ++ "; " ++ q') = some both ∧
          ∀ name, name ∈ both ↔ name ∈ tables ∧ binds second name = false ∨
            name ∈ tables' ∧ binds first name = false := by
  refine ⟨statementTables_append first second, statementTables_append_eq_iff first second, ?_⟩
  intro d q q' hq hq' hboth
  exact ⟨_, _, _, resolve_of_parse hq, resolve_of_parse hq', resolve_of_parse hboth,
    fun _ => mem_statementTables_append⟩

theorem resolve_beside_bound :
    ∃ tables tables' both,
      resolve .tsql "WITH T AS (SELECT * FROM dbo.a) SELECT * FROM T" = some tables ∧
        resolve .tsql "SELECT * FROM t JOIN dbo.b ON 1 = 1" = some tables' ∧
        resolve .tsql ("WITH T AS (SELECT * FROM dbo.a) SELECT * FROM T" ++ "; " ++
          "SELECT * FROM t JOIN dbo.b ON 1 = 1") = some both ∧
        both = ["dbo.a", "dbo.b"] ∧ tables = ["dbo.a"] ∧ tables' = ["t", "dbo.b"] := by
  obtain ⟨tables, tables', both, hfirst, hsecond, hboth, -⟩ := (resolve_beside
    [⟨[.commonTables ["T"], .relation [.ident ⟨"dbo", none⟩, .ident ⟨"a", none⟩],
      .relation [.ident ⟨"T", none⟩]]⟩]
    [⟨[.relation [.ident ⟨"t", none⟩],
      .relation [.ident ⟨"dbo", none⟩, .ident ⟨"b", none⟩]]⟩]).2.2 .tsql
    "WITH T AS (SELECT * FROM dbo.a) SELECT * FROM T" "SELECT * FROM t JOIN dbo.b ON 1 = 1"
    (by decide +kernel) (by decide +kernel) (by decide +kernel)
  refine ⟨tables, tables', both, hfirst, hsecond, hboth, ?_, ?_, ?_⟩
  · exact Option.some.inj (hboth.symm.trans (by decide +kernel))
  · exact Option.some.inj (hfirst.symm.trans (by decide +kernel))
  · exact Option.some.inj (hsecond.symm.trans (by decide +kernel))

/-- A name bound in one statement hides the table of another in other letters, and a comment that
ends the first text swallows the second. -/
theorem not_resolved_independently :
    (∃ first second, parse .tsql "WITH T AS (SELECT * FROM dbo.a) SELECT * FROM T".toList =
        .ok first ∧ parse .tsql "SELECT * FROM t".toList = .ok second ∧
      statementTables (first ++ second) ≠
        Ordered.firstSeen (statementTables first ++ statementTables second)) ∧
    (resolve .tsql "WITH T AS (SELECT * FROM dbo.a) SELECT * FROM T" = some ["dbo.a"] ∧
      resolve .tsql "SELECT * FROM t" = some ["t"] ∧
      resolve .tsql ("WITH T AS (SELECT * FROM dbo.a) SELECT * FROM T" ++ "; " ++
        "SELECT * FROM t") = some ["dbo.a"]) ∧
    resolve .tsql "SELECT 1 -- one" = some [] ∧
      resolve .tsql ("SELECT 1 -- one" ++ "; " ++ "SELECT * FROM t") = some [] := by
  refine ⟨⟨[⟨[.commonTables ["T"], .relation [.ident ⟨"dbo", none⟩, .ident ⟨"a", none⟩],
    .relation [.ident ⟨"T", none⟩]]⟩], [⟨[.relation [.ident ⟨"t", none⟩]]⟩], ?_⟩, ?_⟩
  · exact ⟨by decide +kernel, by decide +kernel, by decide⟩
  · exact ⟨⟨by decide +kernel, by decide +kernel, by decide +kernel⟩, by decide +kernel,
      by decide +kernel⟩

end TableLineage.Sql
