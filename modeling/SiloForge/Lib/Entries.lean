import Mathlib.Data.List.Perm.Basic
import SiloForge.Lib.Sorting

/-!
# Entries

A list of entries is read by key. A key that is set keeps its place.

* `setEntry`, `setEntries` : setting one key, and several one after another;
* `lookup_eq_some_iff_mem` : what is read, if no key is there twice;
* `lookup_setEntries` : what is read of keys that are set;
* `forall_rel_lookup_iff`, `perm_iff_lookup` : entries that are read alike, and the same.
-/

universe u v w

namespace Lib

section Entries
variable {κ : Type u} {ν : Type v} {μ : Type w} [DecidableEq κ] {es fs : List (κ × ν)} {k k' : κ} {v : ν}

/-- The entries with a key set: in its place, or last. -/
def setEntry (es : List (κ × ν)) (k : κ) (v : ν) : List (κ × ν) :=
  if k ∈ es.map Prod.fst then es.map fun e => if e.1 = k then (k, v) else e else es ++ [(k, v)]

def setEntries (es : List (κ × ν)) (changes : List (κ × ν)) : List (κ × ν) :=
  changes.foldl (fun es e => setEntry es e.1 e.2) es

theorem keys_setEntry : (setEntry es k v).map Prod.fst =
    if k ∈ es.map Prod.fst then es.map Prod.fst else es.map Prod.fst ++ [k] := by
  unfold setEntry
  split
  · rw [List.map_map]
    refine List.map_congr_left fun e _ => ?_
    by_cases he : e.1 = k
    · simp [he]
    · simp [he]
  · rw [List.map_append, List.map_singleton]

theorem nodup_keys_setEntry (h : (es.map Prod.fst).Nodup) : ((setEntry es k v).map Prod.fst).Nodup := by
  rw [keys_setEntry]
  split
  · exact h
  · rename_i hk
    exact List.nodup_append.mpr ⟨h, List.pairwise_singleton _ k, fun a ha b hb => by
      rw [List.mem_singleton.mp hb]
      rintro rfl
      exact hk ha⟩

theorem nodup_keys_setEntries (changes : List (κ × ν)) (h : (es.map Prod.fst).Nodup) :
    ((setEntries es changes).map Prod.fst).Nodup := by
  induction changes generalizing es with
  | nil => exact h
  | cons e changes ih => exact ih (nodup_keys_setEntry h)

theorem mem_setEntry {e : κ × ν} (h : e ∈ setEntry es k v) : e = (k, v) ∨ e ∈ es := by
  unfold setEntry at h
  split at h
  · obtain ⟨e', he', rfl⟩ := List.mem_map.mp h
    split
    · exact .inl rfl
    · exact .inr he'
  · rcases List.mem_append.mp h with h | h
    · exact .inr h
    · exact .inl (List.mem_singleton.mp h)

variable {changes : List (κ × ν)}

theorem mem_setEntries {e : κ × ν} (h : e ∈ setEntries es changes) : e ∈ changes ∨ e ∈ es := by
  induction changes generalizing es with
  | nil => exact .inr h
  | cons e' changes ih =>
    rcases ih h with h | h
    · exact .inl (List.mem_cons_of_mem _ h)
    · rcases mem_setEntry h with rfl | h
      · exact .inl List.mem_cons_self
      · exact .inr h

theorem setEntries_of_nodup (h : ((es ++ changes).map Prod.fst).Nodup) : setEntries es changes = es ++ changes := by
  induction changes generalizing es with
  | nil => exact (List.append_nil es).symm
  | cons e changes ih =>
    have hk : e.1 ∉ es.map Prod.fst := by
      intro hmem
      rw [List.map_append, List.nodup_append] at h
      exact h.2.2 _ hmem _ (List.mem_map_of_mem List.mem_cons_self) rfl
    have hset : setEntry es e.1 e.2 = es ++ [e] := if_neg hk
    show setEntries (setEntry es e.1 e.2) changes = _
    rw [hset, ih (by rwa [List.append_assoc, List.singleton_append]), List.append_assoc, List.singleton_append]

/-! ## Reading -/

theorem lookup_cons_eq (e : κ × ν) : (e :: es).lookup k = if k = e.1 then some e.2 else es.lookup k := by
  rw [List.lookup_cons]
  by_cases h : k = e.1
  · rw [if_pos h, beq_iff_eq.mpr h]
  · rw [if_neg h, beq_false_of_ne h]

theorem mem_of_lookup (h : es.lookup k = some v) : (k, v) ∈ es := by
  obtain ⟨l₁, l₂, rfl, -⟩ := List.lookup_eq_some_iff.mp h
  simp

theorem lookup_eq_some_iff_mem (h : (es.map Prod.fst).Nodup) : es.lookup k = some v ↔ (k, v) ∈ es := by
  refine ⟨mem_of_lookup, fun hmem => ?_⟩
  obtain ⟨l₁, l₂, rfl⟩ := List.append_of_mem hmem
  refine List.lookup_eq_some_iff.mpr ⟨l₁, l₂, rfl, fun e he => ?_⟩
  rw [List.map_append, List.nodup_append] at h
  have hne : e.1 ≠ k := h.2.2 _ (List.mem_map_of_mem he) _ (List.mem_map_of_mem List.mem_cons_self)
  simpa using hne.symm

theorem lookup_eq_none_iff_notMem : es.lookup k = none ↔ k ∉ es.map Prod.fst := by
  rw [List.lookup_eq_none_iff]
  constructor
  · rintro h hk
    obtain ⟨e, he, rfl⟩ := List.mem_map.mp hk
    exact absurd (h e he) (by simp)
  · intro h e he
    have hne : k ≠ e.1 := fun heq => h (heq ▸ List.mem_map_of_mem he)
    simpa using hne

theorem exists_lookup_iff_mem : (∃ v, es.lookup k = some v) ↔ k ∈ es.map Prod.fst := by
  rw [← not_iff_not, ← lookup_eq_none_iff_notMem, ← Option.ne_none_iff_exists', not_not]

theorem lookup_perm (h : (es.map Prod.fst).Nodup) (hperm : es.Perm fs) : es.lookup k = fs.lookup k := by
  refine Option.ext fun v => ?_
  rw [lookup_eq_some_iff_mem h, lookup_eq_some_iff_mem ((hperm.map Prod.fst).nodup_iff.mp h), hperm.mem_iff]

theorem mem_keys_setEntries :
    k ∈ (setEntries es changes).map Prod.fst ↔ k ∈ es.map Prod.fst ∨ k ∈ changes.map Prod.fst := by
  induction changes generalizing es with
  | nil => simp [setEntries]
  | cons e changes ih =>
    have hkeys : k ∈ (setEntry es e.1 e.2).map Prod.fst ↔ k ∈ es.map Prod.fst ∨ k = e.1 := by
      rw [keys_setEntry]
      split
      · rename_i he
        exact ⟨.inl, fun h => h.elim id fun h => h ▸ he⟩
      · rw [List.mem_append, List.mem_singleton]
    show k ∈ (setEntries (setEntry es e.1 e.2) changes).map Prod.fst ↔ _
    rw [ih, hkeys, List.map_cons, List.mem_cons, or_assoc]

theorem lookup_setEntry : (setEntry es k v).lookup k' = if k' = k then some v else es.lookup k' := by
  unfold setEntry
  split
  · rename_i hk
    induction es with
    | nil => cases hk
    | cons e es ih =>
      have hrest : (es.map fun e => if e.1 = k then (k, v) else e).lookup k' = if k' = k then
          if k ∈ es.map Prod.fst then some v else none else es.lookup k' := by
        by_cases hmem : k ∈ es.map Prod.fst
        · rw [ih hmem, if_pos hmem]
        · -- nothing is changed behind the entry
          have hself : (es.map fun e => if e.1 = k then (k, v) else e) = es.map id :=
            List.map_congr_left fun e he => if_neg fun (heq : e.1 = k) => hmem (heq ▸ List.mem_map_of_mem he)
          rw [hself, List.map_id, if_neg hmem]
          split
          · rename_i hkk
            rw [hkk, lookup_eq_none_iff_notMem.mpr hmem]
          · rfl
      rw [List.map_cons, lookup_cons_eq, lookup_cons_eq, hrest]
      by_cases he : e.1 = k
      · rw [if_pos he, he]
        split <;> rfl
      · have hmem : k ∈ es.map Prod.fst := (List.mem_cons.mp hk).resolve_left (Ne.symm he)
        rw [if_neg he, if_pos hmem]
        split
        · rename_i hke
          rw [if_neg fun hkk => he (hke.symm.trans hkk)]
        · rfl
  · rename_i hk
    rw [List.lookup_append, lookup_cons_eq, List.lookup_nil]
    split
    · rename_i hkk
      rw [hkk, lookup_eq_none_iff_notMem.mpr hk, Option.none_or]
    · rw [Option.or_none]

/-- **What is read of keys that are set**, if no key is set twice. -/
theorem lookup_setEntries (h : (changes.map Prod.fst).Nodup) :
    (setEntries es changes).lookup k = (changes.lookup k).or (es.lookup k) := by
  induction changes generalizing es with
  | nil => rfl
  | cons e changes ih =>
    obtain ⟨he, hchanges⟩ := List.nodup_cons.mp h
    show (setEntries (setEntry es e.1 e.2) changes).lookup k = _
    rw [ih hchanges, lookup_setEntry, lookup_cons_eq]
    split
    · rename_i hk
      rw [hk, lookup_eq_none_iff_notMem.mpr he, Option.none_or, Option.some_or]
    · rfl

theorem lookup_setEntries_nil (f : κ → ν) (h : ∀ e ∈ changes, e.2 = f e.1) :
    (setEntries [] changes).lookup k = if k ∈ changes.map Prod.fst then some (f k) else none := by
  split
  · rename_i hk
    obtain ⟨v, hv⟩ := exists_lookup_iff_mem.mpr (mem_keys_setEntries.mpr (.inr hk))
    rcases mem_setEntries (mem_of_lookup hv) with hmem | hmem
    · rw [hv, show v = f k from h _ hmem]
    · cases hmem
  · rename_i hk
    rw [lookup_eq_none_iff_notMem, mem_keys_setEntries]
    exact fun hmem => hmem.elim (nomatch ·) hk

theorem lookup_map (f : ν → μ) : (es.map fun e => (e.1, f e.2)).lookup k = (es.lookup k).map f := by
  induction es with
  | nil => rfl
  | cons e es ih =>
    rw [List.map_cons, lookup_cons_eq, lookup_cons_eq, ih]
    split <;> rfl

theorem lookup_filter (p : κ → Bool) : (es.filter fun e => p e.1).lookup k = if p k then es.lookup k else none := by
  induction es with
  | nil => simp
  | cons e es ih =>
    by_cases he : p e.1
    · rw [List.filter_cons_of_pos (by exact he), lookup_cons_eq, lookup_cons_eq, ih]
      split
      · rename_i hk
        rw [if_pos (hk ▸ he)]
      · rfl
    · rw [List.filter_cons_of_neg (by exact he), ih, lookup_cons_eq]
      by_cases hk : k = e.1
      · rw [if_neg (hk ▸ he), if_neg (hk ▸ he)]
      · rw [if_neg hk]

/-- **Entries that are read alike**: each of them has one with its key, and there are as many. -/
theorem forall_rel_lookup_iff {R : ν → μ → Prop} {gs : List (κ × μ)} (hes : (es.map Prod.fst).Nodup)
    (hgs : (gs.map Prod.fst).Nodup) : (∀ k, Option.Rel R (es.lookup k) (gs.lookup k)) ↔
      es.length = gs.length ∧ ∀ e ∈ es, ∃ w, gs.lookup e.1 = some w ∧ R e.2 w := by
  constructor
  · intro h
    have hread : ∀ e ∈ es, ∃ w, gs.lookup e.1 = some w ∧ R e.2 w := by
      intro e he
      have hrel := h e.1
      rw [(lookup_eq_some_iff_mem hes).mpr he] at hrel
      generalize gs.lookup e.1 = o at hrel
      cases hrel with
      | some hR => exact ⟨_, rfl, hR⟩
    have hkeys : ∀ k, k ∈ es.map Prod.fst ↔ k ∈ gs.map Prod.fst := by
      intro k
      have hrel := h k
      rw [← exists_lookup_iff_mem, ← exists_lookup_iff_mem]
      generalize es.lookup k = o, gs.lookup k = o' at hrel
      cases hrel with
      | some _ => simp
      | none => simp
    have hperm : (es.map Prod.fst).Perm (gs.map Prod.fst) := (List.perm_ext_iff_of_nodup hes hgs).mpr hkeys
    exact ⟨by simpa using hperm.length_eq, hread⟩
  · rintro ⟨hlength, hread⟩ k
    cases hk : es.lookup k with
    | some v =>
      obtain ⟨w, hw, hR⟩ := hread (k, v) (mem_of_lookup hk)
      rw [hw]
      exact .some hR
    | none =>
      -- there are no keys among the others than the ones that are read
      have hsub : es.map Prod.fst ⊆ gs.map Prod.fst := by
        intro k hk
        obtain ⟨e, he, rfl⟩ := List.mem_map.mp hk
        obtain ⟨w, hw, -⟩ := hread e he
        exact exists_lookup_iff_mem.mp ⟨w, hw⟩
      have hperm := (List.subperm_of_subset hes hsub).perm_of_length_le (by simp [hlength])
      have hnone : gs.lookup k = none := by
        rw [lookup_eq_none_iff_notMem, ← hperm.mem_iff]
        exact lookup_eq_none_iff_notMem.mp hk
      rw [hnone]
      exact .none

theorem perm_iff_lookup (hes : (es.map Prod.fst).Nodup) (hfs : (fs.map Prod.fst).Nodup) :
    es.Perm fs ↔ ∀ k, es.lookup k = fs.lookup k := by
  refine ⟨fun h k => lookup_perm hes h, fun h => ?_⟩
  refine (List.perm_ext_iff_of_nodup (List.Nodup.of_map _ hes) (List.Nodup.of_map _ hfs)).mpr fun e => ?_
  rw [← lookup_eq_some_iff_mem hes, ← lookup_eq_some_iff_mem hfs, h]

omit [DecidableEq κ] in
theorem pair_sublist_iff_keys (hes : (es.map Prod.fst).Nodup) {a b : κ × ν} :
    [a, b].Sublist es ↔ a ∈ es ∧ b ∈ es ∧ [a.1, b.1].Sublist (es.map Prod.fst) := by
  constructor
  · intro h
    exact ⟨h.subset List.mem_cons_self, h.subset (List.mem_cons_of_mem _ List.mem_cons_self), h.map Prod.fst⟩
  · rintro ⟨ha, hb, hkeys⟩
    have hne : a ≠ b := by
      rintro rfl
      exact not_sublist_swap hes hkeys hkeys
    exact (sublist_or_swap ha hb hne).resolve_right fun h => not_sublist_swap hes hkeys (h.map Prod.fst)

end Entries

end Lib
