import Mathlib.Data.List.Basic
import Mathlib.Order.Basic
import TableLineage.CommandLine.Path
import TableLineage.Proofs.Text.Utf8

/-!
# Paths of the entries of a directory

The path of an entry and its path from the root are the path of the directory
with the name of the entry behind it.  Entries have paths that are shown apart
just if their names are.
-/

namespace TableLineage.CommandLine.Path

structure IsEntryName (name : Path) : Prop where
  ne_empty : name.bytes ≠ []
  ne_dot : name.bytes ≠ [dot]
  no_slash : slash ∉ name.bytes

instance : DecidablePred IsEntryName := fun name =>
  decidable_of_iff (name.bytes ≠ [] ∧ name.bytes ≠ [dot] ∧ slash ∉ name.bytes)
    ⟨fun ⟨hempty, hdot, hslash⟩ => ⟨hempty, hdot, hslash⟩,
      fun ⟨hempty, hdot, hslash⟩ => ⟨hempty, hdot, hslash⟩⟩

theorem bytes_injective : Function.Injective bytes := fun ⟨_⟩ ⟨_⟩ h => congrArg mk h

theorem IsEntryName.exists_cons {name : Path} (h : IsEntryName name) :
    ∃ byte rest, name.bytes = byte :: rest ∧ byte ≠ slash := by
  obtain ⟨byte, rest, hname⟩ := List.exists_cons_of_ne_nil h.ne_empty
  exact ⟨byte, rest, hname, fun hslash => h.no_slash (by simp [hname, hslash])⟩

theorem endsInSlash_join (directory : Path) {name : Path} (h : IsEntryName name) :
    endsInSlash (join directory name) = false := by
  rw [endsInSlash, decide_eq_false_iff_not, join, List.getLast?_append_of_ne_nil _ h.ne_empty]
  exact fun hslash => h.no_slash (List.mem_of_getLast? hslash)

theorem lead_eq (directory : Path) :
    directory.bytes = [] ∧ directory.lead = [] ∨
      ∃ front, directory.lead = front ++ [slash] ∧
        (directory.bytes = front ∨ directory.bytes = front ++ [slash]) := by
  rw [lead]
  split
  · next h =>
      obtain hempty | hslash := h
      · exact .inl ⟨hempty, hempty⟩
      · rw [endsInSlash, decide_eq_true_eq, List.getLast?_eq_some_iff] at hslash
        obtain ⟨front, hfront⟩ := hslash
        exact .inr ⟨front, hfront, .inr hfront⟩
  · exact .inr ⟨directory.bytes, rfl, .inl rfl⟩

theorem names_join (directory : Path) {name : Path} (h : IsEntryName name) :
    names (join directory name) = names directory ++ [name] := by
  have hname : (name.bytes.splitOn slash).filter (fun name => name ≠ [] ∧ name ≠ [dot]) =
      [name.bytes] := by
    rw [List.splitOn_eq_singleton h.no_slash]
    simp [h.ne_empty, h.ne_dot]
  rw [names, names, join]
  obtain ⟨hempty, hlead⟩ | ⟨front, hlead, hdirectory⟩ := directory.lead_eq
  · rw [hlead, List.nil_append, hname, hempty]
    rfl
  · -- A slash at the end of the directory only leads to one more name that is empty.
    have hfront : (directory.bytes.splitOn slash).filter (fun name => name ≠ [] ∧ name ≠ [dot]) =
        (front.splitOn slash).filter (fun name => name ≠ [] ∧ name ≠ [dot]) := by
      rcases hdirectory with hdirectory | hdirectory
      · rw [hdirectory]
      · rw [hdirectory, List.splitOn_append_cons_self]
        simp
    rw [hlead, List.append_assoc, List.singleton_append, List.splitOn_append_cons_self,
      List.filter_append, hname, hfront, List.map_append]
    rfl

theorem root?_join (directory : Path) {name : Path} (h : IsEntryName name) :
    root? (join directory name) = root? directory := by
  obtain ⟨byte, rest, hname, hbyte⟩ := h.exists_cons
  rw [root?, root?, join, lead, endsInSlash, hname]
  match directory.bytes with
  | [] => simp [hbyte]
  | [first] => by_cases hfirst : first = slash <;> simp [hfirst, hbyte]
  | [first, second] =>
      by_cases hfirst : first = slash <;> by_cases hsecond : second = slash <;>
        simp [hfirst, hsecond, hbyte]
  | first :: second :: third :: more =>
      by_cases hlast : (third :: more).getLast? = some slash <;> simp [hlast]

theorem below_join (root directory : Path) {name : Path} (h : IsEntryName name) :
    (join directory name).below root = join ((names directory).foldl join root) name := by
  rw [below, names_join directory h, List.foldl_append, endsInSlash_join directory h]
  rfl

/-- The slash in front of a name keeps it apart from what stands before. -/
theorem shown_join_inj {directory name name' : Path} :
    (join directory name).shown = (join directory name').shown ↔ name.shown = name'.shown := by
  rw [shown, shown, shown, shown, String.ofList_inj, String.ofList_inj, join, join]
  obtain ⟨-, hlead⟩ | ⟨front, hlead, -⟩ := directory.lead_eq
  · rw [hlead, List.nil_append, List.nil_append]
  · rw [hlead, List.append_assoc, List.append_assoc, List.singleton_append, List.singleton_append,
      Text.Utf8.shown_ascii _ _ (by decide), Text.Utf8.shown_ascii _ _ (by decide)]
    simp

theorem shown_ofString (text : String) : (ofString text).shown = text := by
  rw [shown, ofString, Text.Utf8.shown_encode, String.ofList_toList]

theorem ofString_injective : Function.Injective ofString :=
  Function.LeftInverse.injective shown_ofString

instance : Std.Total (LE.le : Path → Path → Prop) :=
  ⟨fun path path' => List.le_total path.bytes path'.bytes⟩

instance : IsTrans Path LE.le := ⟨fun _ _ _ h h' => List.le_trans h h'⟩

instance : Std.Antisymm (LE.le : Path → Path → Prop) :=
  ⟨fun _ _ h h' => bytes_injective (List.le_antisymm h h')⟩

instance : Std.LawfulOrderLT Path :=
  ⟨fun path path' => Std.LawfulOrderLT.lt_iff path.bytes path'.bytes⟩

end TableLineage.CommandLine.Path
