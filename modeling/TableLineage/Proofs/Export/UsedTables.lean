import TableLineage.Export.UsedTables
import TableLineage.Proofs.Ordered

/-!
# What is listed as used

A table is listed under a database exactly if a record of that database was
resolved to it.
-/

namespace TableLineage.Export

open Lineage

variable {pair : String × String} {used : UsedTables}

theorem mem_pairs_cons {entry : String × List String} :
    pair ∈ UsedTables.pairs (entry :: used) ↔
      (pair.1 = entry.1 ∧ pair.2 ∈ entry.2) ∨ pair ∈ used.pairs := by
  rw [UsedTables.pairs, List.flatMap_cons, List.mem_append, ← UsedTables.pairs]
  refine or_congr_left ?_
  obtain ⟨object, table⟩ := pair
  simp [and_comm, eq_comm]

theorem mem_pairs_update {object : String} {tables : List String} :
    pair ∈ UsedTables.pairs (Ordered.update object [] (Ordered.addAll · tables) used) ↔
      pair ∈ used.pairs ∨ (pair.1 = object ∧ pair.2 ∈ tables) := by
  induction used with
  | nil =>
      rw [Ordered.update, mem_pairs_cons, or_comm, Ordered.mem_addAll]
      exact or_congr_right (and_congr_right fun _ => or_iff_right List.not_mem_nil)
  | cons entry used ih =>
      rw [Ordered.update]
      split
      · next hobject =>
          rw [mem_pairs_cons, mem_pairs_cons, Ordered.mem_addAll, and_or_left, ← hobject]
          exact or_right_comm
      · rw [mem_pairs_cons, mem_pairs_cons, ih, or_assoc]

theorem mem_pairs_addRecord {resolved : ResolvedRecord} :
    pair ∈ (addRecord used resolved).pairs ↔ pair ∈ used.pairs ∨
      ∃ tables, resolved.tables = some tables ∧ pair.1 = objectName resolved.record ∧
        pair.2 ∈ tables := by
  rw [addRecord]
  cases resolved.tables with
  | none => simp
  | some tables => simp [mem_pairs_update]

theorem mem_pairs_usedTables {records : List ResolvedRecord} :
    pair ∈ (usedTables records).pairs ↔
      ∃ resolved ∈ records, ∃ tables, resolved.tables = some tables ∧
        pair.1 = objectName resolved.record ∧ pair.2 ∈ tables := by
  induction records using List.reverseRecOn with
  | nil => simp [usedTables, UsedTables.pairs]
  | append_singleton records resolved ih =>
      rw [usedTables, List.foldl_append, ← usedTables, List.foldl_cons, List.foldl_nil,
        mem_pairs_addRecord, ih]
      simp [or_and_right, exists_or]

end TableLineage.Export
