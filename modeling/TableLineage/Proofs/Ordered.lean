import Mathlib.Data.List.Induction
import TableLineage.Ordered

/-!
# Laws of ordered collections

Adding to a set commutes with a filter and forgets how often a member was added
before.  A map of a list of entries gives, under every key, the value of the
last entry with that key.
-/

namespace TableLineage.Ordered

section Sets

variable {α : Type} [DecidableEq α]

theorem mem_add {members : List α} {a b : α} : b ∈ add members a ↔ b ∈ members ∨ b = a := by
  rw [add]
  split
  · next hmem =>
      refine (or_iff_left_of_imp ?_).symm
      rintro rfl
      exact hmem
  · rw [List.mem_append, List.mem_singleton]

theorem addAll_concat (members items : List α) (a : α) :
    addAll members (items ++ [a]) = add (addAll members items) a :=
  List.foldl_append

theorem addAll_append (members first second : List α) :
    addAll members (first ++ second) = addAll (addAll members first) second :=
  List.foldl_append

theorem add_cons {a b : α} (h : b ≠ a) (members : List α) :
    add (a :: members) b = a :: add members b := by
  by_cases hmem : b ∈ members <;> simp [add, h, hmem]

theorem prefix_addAll (members items : List α) : members <+: addAll members items := by
  induction items using List.reverseRecOn with
  | nil => exact List.prefix_rfl
  | append_singleton items a ih =>
      rw [addAll_concat, add]
      split
      · exact ih
      · exact ih.trans (List.prefix_append _ _)

theorem mem_addAll {members items : List α} {a : α} :
    a ∈ addAll members items ↔ a ∈ members ∨ a ∈ items := by
  induction items using List.reverseRecOn with
  | nil => simp [addAll]
  | append_singleton items b ih =>
      rw [addAll_concat, mem_add, ih, List.mem_append, List.mem_singleton, or_assoc]

@[simp] theorem mem_firstSeen {items : List α} {a : α} : a ∈ firstSeen items ↔ a ∈ items := by
  rw [firstSeen, mem_addAll]
  exact or_iff_right List.not_mem_nil

theorem nodup_add {members : List α} (h : members.Nodup) (a : α) : (add members a).Nodup := by
  rw [add]
  split
  · exact h
  · next hmem =>
      refine List.nodup_append.mpr ⟨h, List.pairwise_singleton _ a, fun b hb c hc => ?_⟩
      rw [List.mem_singleton.mp hc]
      exact ne_of_mem_of_not_mem hb hmem

theorem nodup_addAll {members : List α} (h : members.Nodup) (items : List α) :
    (addAll members items).Nodup := by
  induction items using List.reverseRecOn with
  | nil => exact h
  | append_singleton items a ih =>
      rw [addAll_concat]
      exact nodup_add ih a

theorem nodup_firstSeen (items : List α) : (firstSeen items).Nodup :=
  nodup_addAll List.nodup_nil items

theorem filter_add (p : α → Bool) (members : List α) (a : α) :
    (add members a).filter p = if p a then add (members.filter p) a else members.filter p := by
  by_cases hmem : a ∈ members <;> by_cases hp : p a <;> simp [add, hmem, hp]

theorem filter_addAll (p : α → Bool) (members items : List α) :
    (addAll members items).filter p = addAll (members.filter p) (items.filter p) := by
  induction items using List.reverseRecOn with
  | nil => rfl
  | append_singleton items a ih =>
      rw [addAll_concat, filter_add, ih, List.filter_append]
      cases hp : p a with
      | false => simp [hp]
      | true => simp [hp, addAll_concat]

theorem firstSeen_concat (items : List α) (a : α) :
    firstSeen (items ++ [a]) = add (firstSeen items) a :=
  addAll_concat [] items a

theorem firstSeen_append (first second : List α) :
    firstSeen (first ++ second) = addAll (firstSeen first) second :=
  addAll_append [] first second

theorem firstSeen_prefix_append (first second : List α) :
    firstSeen first <+: firstSeen (first ++ second) := by
  rw [firstSeen_append]
  exact prefix_addAll _ _

theorem filter_firstSeen (p : α → Bool) (items : List α) :
    (firstSeen items).filter p = firstSeen (items.filter p) :=
  filter_addAll p [] items

theorem addAll_firstSeen (members items : List α) :
    addAll members (firstSeen items) = addAll members items := by
  induction items using List.reverseRecOn with
  | nil => rfl
  | append_singleton items a ih =>
      rw [firstSeen_concat, addAll_concat, ← ih, add]
      split
      · next hmem => rw [add, if_pos (mem_addAll.mpr (.inr hmem))]
      · exact addAll_concat ..

theorem firstSeen_eq_eraseDups [BEq α] [LawfulBEq α] (items : List α) :
    firstSeen items = items.eraseDups := by
  induction items using List.reverseRecOn with
  | nil => rfl
  | append_singleton items a ih =>
      rw [firstSeen_concat, ih, add, List.eraseDups_append]
      by_cases hmem : a ∈ items <;> simp [List.removeAll, List.eraseDups_cons, hmem]

theorem firstSeen_append_firstSeen (first second : List α) :
    firstSeen (firstSeen first ++ firstSeen second) = firstSeen (first ++ second) := by
  rw [firstSeen, addAll_append, addAll_firstSeen, addAll_firstSeen, ← addAll_append, firstSeen]

end Sets

/-! ## Maps -/

variable {κ α : Type} [DecidableEq κ]

theorem lookup_append (key : κ) (first second : List (κ × α)) :
    lookup key (first ++ second) = (lookup key first).or (lookup key second) := by
  induction first with
  | nil => rfl
  | cons entry first ih =>
      rw [List.cons_append, lookup, lookup]
      split
      · rfl
      · exact ih

theorem isSome_lookup_iff {key : κ} {entries : List (κ × α)} :
    (lookup key entries).isSome ↔ ∃ a, (key, a) ∈ entries := by
  induction entries with
  | nil => simp [lookup]
  | cons entry entries ih =>
      rw [lookup]
      split
      · next hkey =>
          subst hkey
          exact iff_of_true rfl ⟨entry.2, List.mem_cons_self⟩
      · next hkey =>
          rw [ih]
          refine exists_congr fun a => ?_
          rw [List.mem_cons]
          refine (or_iff_right ?_).symm
          rintro rfl
          exact hkey rfl

theorem keys_update (key : κ) (initial : α) (change : α → α) (entries : List (κ × α)) :
    (update key initial change entries).map Prod.fst = add (entries.map Prod.fst) key := by
  induction entries with
  | nil => rfl
  | cons entry entries ih =>
      rw [update]
      split
      · next hkey => simp [add, hkey]
      · next hkey =>
          rw [List.map_cons, ih, List.map_cons, add, add]
          by_cases hmem : key ∈ entries.map Prod.fst
          · rw [if_pos hmem, if_pos (List.mem_cons_of_mem _ hmem)]
          · have hmem' : key ∉ entry.1 :: entries.map Prod.fst :=
              List.not_mem_cons_of_ne_of_not_mem (Ne.symm hkey) hmem
            rw [if_neg hmem, if_neg hmem', List.cons_append]

theorem put_of_notMem {entries : List (κ × α)} {entry : κ × α}
    (h : entry.1 ∉ entries.map Prod.fst) : put entries entry = entries ++ [entry] := by
  induction entries with
  | nil => rfl
  | cons first entries ih =>
      rw [List.map_cons, List.mem_cons, not_or] at h
      rw [put] at ih
      rw [put, update, if_neg (Ne.symm h.1), ih h.2, List.cons_append]

theorem ofEntries_eq_self {entries : List (κ × α)} (h : (entries.map Prod.fst).Nodup) :
    ofEntries entries = entries := by
  induction entries using List.reverseRecOn with
  | nil => rfl
  | append_singleton entries entry ih =>
      rw [List.map_append, List.nodup_append] at h
      obtain ⟨hentries, -, hapart⟩ := h
      have hnew : entry.1 ∉ entries.map Prod.fst := fun hmem =>
        hapart _ hmem entry.1 (by simp) rfl
      rw [ofEntries, List.foldl_append, ← ofEntries, ih hentries]
      exact put_of_notMem hnew

/-- A map that is given by its keys and a function on them stays one. -/
theorem update_map {keys : List κ} (h : keys.Nodup) {key : κ} {initial : α} {value : κ → α}
    (hnew : key ∉ keys → value key = initial) (change : α → α) :
    update key initial change (keys.map fun k => (k, value k)) =
      (add keys key).map fun k => (k, if k = key then change (value k) else value k) := by
  induction keys with
  | nil => simp [update, add, hnew]
  | cons k keys ih =>
      obtain ⟨hk, hkeys⟩ := List.nodup_cons.mp h
      rw [List.map_cons, update]
      split
      · next hkey =>
          subst hkey
          rw [add, if_pos List.mem_cons_self, List.map_cons, if_pos rfl]
          refine congrArg _ (List.map_congr_left fun other hother => ?_)
          rw [if_neg (ne_of_mem_of_not_mem hother hk)]
      · next hkey =>
          have hnew' : key ∉ keys → value key = initial := fun hmem =>
            hnew (List.not_mem_cons_of_ne_of_not_mem (Ne.symm hkey) hmem)
          rw [ih hkeys hnew', add_cons (Ne.symm hkey), List.map_cons, if_neg hkey]

/-- Where no key is repeated, an entry is found by its key. -/
theorem lookup_eq_some_iff {key : κ} {a : α} {entries : List (κ × α)}
    (h : (entries.map Prod.fst).Nodup) : lookup key entries = some a ↔ (key, a) ∈ entries := by
  induction entries with
  | nil => simp [lookup]
  | cons entry entries ih =>
      obtain ⟨k, b⟩ := entry
      obtain ⟨hunseen, hrest⟩ := List.nodup_cons.mp h
      rw [lookup, List.mem_cons, Prod.mk.injEq]
      split
      · next hkey =>
          subst hkey
          have hmem : (k, a) ∉ entries := fun hmem =>
            hunseen (List.mem_map.mpr ⟨(k, a), hmem, rfl⟩)
          simp [hmem, eq_comm]
      · next hkey => simp [ih hrest, Ne.symm hkey]

theorem lookup_eq_find? (key : κ) (entries : List (κ × α)) :
    lookup key entries = (entries.find? fun entry => entry.1 = key).map Prod.snd := by
  induction entries with
  | nil => rfl
  | cons entry entries ih => by_cases hkey : entry.1 = key <;> simp [lookup, hkey, ih]

theorem lookup_put (key : κ) (entries : List (κ × α)) (entry : κ × α) :
    lookup key (put entries entry) =
      if entry.1 = key then some entry.2 else lookup key entries := by
  induction entries with
  | nil => rfl
  | cons first entries ih =>
      rw [put, update]
      split
      · next hfirst =>
          rw [lookup, lookup, hfirst]
          split <;> rfl
      · next hfirst =>
          rw [put] at ih
          rw [lookup, lookup, ih]
          split
          · next hkey => rw [if_neg (by rintro rfl; exact hfirst hkey)]
          · rfl

theorem lookup_foldl_put (key : κ) (start entries : List (κ × α)) :
    lookup key (entries.foldl put start) =
      (lookup key entries.reverse).or (lookup key start) := by
  induction entries generalizing start with
  | nil => rfl
  | cons entry entries ih =>
      rw [List.foldl_cons, ih, lookup_put, List.reverse_cons, lookup_append, Option.or_assoc]
      congr 1
      rw [lookup]
      split <;> rfl

theorem lookup_ofEntries (key : κ) (entries : List (κ × α)) :
    lookup key (ofEntries entries) = lookup key entries.reverse := by
  rw [ofEntries, lookup_foldl_put]
  exact Option.or_none

theorem keys_ofEntries (entries : List (κ × α)) :
    (ofEntries entries).map Prod.fst = firstSeen (entries.map Prod.fst) := by
  induction entries using List.reverseRecOn with
  | nil => rfl
  | append_singleton entries entry ih =>
      rw [List.map_append, List.map_singleton, firstSeen_concat, ← ih]
      simp only [ofEntries, List.foldl_append, List.foldl_cons, List.foldl_nil, put, keys_update]

theorem mem_ofEntries_iff {key : κ} {a : α} {entries : List (κ × α)} :
    (key, a) ∈ ofEntries entries ↔
      (entries.reverse.find? fun entry => entry.1 = key).map Prod.snd = some a := by
  have hkeys : ((ofEntries entries).map Prod.fst).Nodup := by
    rw [keys_ofEntries]
    exact nodup_firstSeen _
  rw [← lookup_eq_some_iff hkeys, lookup_ofEntries, lookup_eq_find?]

end TableLineage.Ordered
