import Mathlib.Data.List.Sort

/-!
# Stable sorting

A stable sort puts two entries in the order of their keys, and in the order that they had if their keys do not tell
them apart.

* `pairwise_insertionSort_iff` : what holds of the entries of the sorted list, two by two;
* `insertionSort_eq_of_perm` : when the order that they had does not matter;
* `pair_sublist_insertionSort_iff` : the order of two entries of the sorted list;
* `insertionSort_eq_iff`, `insertionSort_insertionSort_eq_iff` : lists that are sorted into the same list, by one order and by
  one after another.
-/

universe u

namespace Lib

section Sorting
variable {α : Type u} {r R : α → α → Prop} [DecidableRel r] [IsTrans α r]

theorem pairwise_orderedInsert_iff {a : α} {as : List α} (h : as.Pairwise r) :
    (as.orderedInsert r a).Pairwise R ↔ as.Pairwise R ∧ ∀ b ∈ as, if r a b then R a b else R b a := by
  induction as with
  | nil => simp
  | cons b as ih =>
    obtain ⟨hb, has⟩ := List.pairwise_cons.mp h
    rw [List.orderedInsert_cons, List.pairwise_cons, List.forall_mem_cons]
    by_cases hab : r a b
    · -- the entry is in front of all of them
      have hall : ∀ c ∈ as, r a c := fun c hc => IsTrans.trans _ _ _ hab (hb c hc)
      rw [if_pos hab, if_pos hab, List.pairwise_cons, List.pairwise_cons, List.forall_mem_cons]
      constructor
      · rintro ⟨⟨hRab, hRa⟩, hR⟩
        exact ⟨hR, hRab, fun c hc => by rw [if_pos (hall c hc)]; exact hRa c hc⟩
      · rintro ⟨hR, hRab, hRa⟩
        exact ⟨⟨hRab, fun c hc => by have hRac := hRa c hc; rwa [if_pos (hall c hc)] at hRac⟩, hR⟩
    · rw [if_neg hab, if_neg hab, List.pairwise_cons, ih has]
      constructor
      · rintro ⟨hRb, hR, hRa⟩
        exact ⟨⟨fun c hc => hRb c ((List.mem_orderedInsert r).mpr (.inr hc)), hR⟩,
          hRb a ((List.mem_orderedInsert r).mpr (.inl rfl)), hRa⟩
      · rintro ⟨⟨hRb, hR⟩, hRba, hRa⟩
        refine ⟨fun c hc => ?_, hR, hRa⟩
        rcases (List.mem_orderedInsert r).mp hc with rfl | hc
        · exact hRba
        · exact hRb c hc

variable [Std.Total r]

/-- **The entries of a sorted list, two by two**, are the ones of the list, in the order of the sort. -/
theorem pairwise_insertionSort_iff (as : List α) :
    (as.insertionSort r).Pairwise R ↔ as.Pairwise fun a b => if r a b then R a b else R b a := by
  induction as with
  | nil => simp
  | cons a as ih =>
    rw [List.insertionSort_cons, pairwise_orderedInsert_iff (List.pairwise_insertionSort r as), ih, List.pairwise_cons,
      and_comm]
    refine and_congr_left fun _ => forall_congr' fun b => ?_
    rw [List.mem_insertionSort]

/-- Lists with the same entries are sorted into the same list, if the sort tells their entries apart. -/
theorem insertionSort_eq_of_perm {as bs : List α} (h : as.Perm bs) (hapart : ∀ a ∈ as, ∀ b ∈ as, r a b → r b a → a = b) :
    as.insertionSort r = bs.insertionSort r := by
  have hperm := ((List.perm_insertionSort r as).trans h).trans (List.perm_insertionSort r bs).symm
  refine hperm.eq_of_pairwise (fun a b ha hb hab hba => ?_) (List.pairwise_insertionSort r as)
    (List.pairwise_insertionSort r bs)
  exact hapart a ((List.mem_insertionSort r).mp ha) b (h.mem_iff.mpr ((List.mem_insertionSort r).mp hb)) hab hba

end Sorting

theorem not_sublist_swap {α : Type u} {a b : α} {as : List α} (hnodup : as.Nodup) (h : [a, b].Sublist as) :
    ¬[b, a].Sublist as := by
  intro h'
  induction as with
  | nil => cases h
  | cons c as ih =>
    obtain ⟨hc, hnodup⟩ := List.nodup_cons.mp hnodup
    cases h with
    | cons _ h =>
      cases h' with
      | cons _ h' => exact ih hnodup h h'
      | cons_cons _ h' => exact hc (h.subset (List.mem_cons_of_mem _ List.mem_cons_self))
    | cons_cons _ h =>
      cases h' with
      | cons _ h' => exact hc (h'.subset (List.mem_cons_of_mem _ List.mem_cons_self))
      | cons_cons _ h' => exact hc (h.subset List.mem_cons_self)

theorem sublist_or_swap {α : Type u} {a b : α} {as : List α} (ha : a ∈ as) (hb : b ∈ as) (hne : a ≠ b) :
    [a, b].Sublist as ∨ [b, a].Sublist as := by
  obtain ⟨l₁, l₂, rfl⟩ := List.append_of_mem ha
  rcases List.mem_append.mp hb with hb | hb
  · exact .inr ((List.singleton_sublist.mpr hb).append (List.singleton_sublist.mpr List.mem_cons_self))
  · rcases List.mem_cons.mp hb with rfl | hb
    · exact absurd rfl hne
    · exact .inl (((List.singleton_sublist.mpr hb).cons_cons a).trans (List.sublist_append_right l₁ _))

/-- Two lists with the same entries are the same if any two of these are in the same order. -/
theorem eq_of_pair_sublists {α : Type u} {as bs : List α} (hnodup : as.Nodup) (hperm : as.Perm bs)
    (h : ∀ a b, [a, b].Sublist bs → [a, b].Sublist as) : as = bs := by
  have has : as.Pairwise fun a b => [a, b].Sublist as := List.pairwise_iff_forall_sublist.mpr id
  have hbs : bs.Pairwise fun a b => [a, b].Sublist as := List.pairwise_iff_forall_sublist.mpr fun hsub => h _ _ hsub
  exact List.Perm.eq_of_pairwise (fun a b _ _ hab hba => absurd hba (not_sublist_swap hnodup hab)) has hbs hperm

section SameSorted
variable {α : Type u} {r s : α → α → Prop} [DecidableRel r] [IsTrans α r] [Std.Total r] {as bs : List α}

/-- **Two entries of the sorted list** are in the order of their keys, or of the list if their keys do not tell them apart. -/
theorem pair_sublist_insertionSort_iff (hnodup : as.Nodup) {a b : α} : [a, b].Sublist (as.insertionSort r) ↔
    a ∈ as ∧ b ∈ as ∧ a ≠ b ∧ r a b ∧ (r b a → [a, b].Sublist as) := by
  have hsorted : (as.insertionSort r).Nodup := (List.perm_insertionSort r as).nodup_iff.mpr hnodup
  constructor
  · intro h
    have ha : a ∈ as := (List.mem_insertionSort r).mp (h.subset List.mem_cons_self)
    have hb : b ∈ as := (List.mem_insertionSort r).mp (h.subset (List.mem_cons_of_mem _ List.mem_cons_self))
    have hne : a ≠ b := by
      rintro rfl
      exact not_sublist_swap hsorted h h
    have hab : r a b := List.pairwise_pair.mp ((List.pairwise_insertionSort r as).sublist h)
    refine ⟨ha, hb, hne, hab, fun hba => ?_⟩
    rcases sublist_or_swap ha hb hne with h' | h'
    · exact h'
    · exact absurd (List.pair_sublist_insertionSort hba h') (not_sublist_swap hsorted h)
  · rintro ⟨ha, hb, hne, hab, htied⟩
    rcases sublist_or_swap ((List.mem_insertionSort r).mpr ha) ((List.mem_insertionSort r).mpr hb) hne with h | h
    · exact h
    · have hba : r b a := List.pairwise_pair.mp ((List.pairwise_insertionSort r as).sublist h)
      exact List.pair_sublist_insertionSort hab (htied hba)

theorem filter_insertionSort (hnodup : as.Nodup) (p : α → Bool) :
    (as.insertionSort r).filter p = (as.filter p).insertionSort r := by
  have hsorted := (List.perm_insertionSort r as).nodup_iff.mpr hnodup
  refine eq_of_pair_sublists (hsorted.filter p) ?_ fun a b hsub => ?_
  · exact ((List.perm_insertionSort r as).filter p).trans (List.perm_insertionSort r (as.filter p)).symm
  · obtain ⟨ha, hb, hne, hab, htied⟩ := (pair_sublist_insertionSort_iff (hnodup.filter p)).mp hsub
    obtain ⟨ha, hpa⟩ := List.mem_filter.mp ha
    obtain ⟨hb, hpb⟩ := List.mem_filter.mp hb
    have hpair : [a, b].Sublist (as.insertionSort r) :=
      (pair_sublist_insertionSort_iff hnodup).mpr ⟨ha, hb, hne, hab, fun hba => (htied hba).trans List.filter_sublist⟩
    have hfilter := hpair.filter p
    rwa [List.filter_cons_of_pos hpa, List.filter_cons_of_pos hpb, List.filter_nil] at hfilter

/-- **Lists that are sorted into the same list** have the same entries, and tied ones in the same order. -/
theorem insertionSort_eq_iff (has : as.Nodup) (hbs : bs.Nodup) : as.insertionSort r = bs.insertionSort r ↔
    as.Perm bs ∧ ∀ a b, r a b → r b a → [a, b].Sublist as → [a, b].Sublist bs := by
  constructor
  · intro h
    have hperm : as.Perm bs := (List.perm_insertionSort r as).symm.trans (h ▸ List.perm_insertionSort r bs)
    refine ⟨hperm, fun a b hab hba hsub => ?_⟩
    have hsorted := List.pair_sublist_insertionSort hab hsub
    rw [h] at hsorted
    exact ((pair_sublist_insertionSort_iff hbs).mp hsorted).2.2.2.2 hba
  · rintro ⟨hperm, htied⟩
    have hback : ∀ a b, r a b → r b a → [a, b].Sublist bs → [a, b].Sublist as := by
      intro a b hab hba hsub
      have ha : a ∈ as := hperm.mem_iff.mpr (hsub.subset List.mem_cons_self)
      have hb : b ∈ as := hperm.mem_iff.mpr (hsub.subset (List.mem_cons_of_mem _ List.mem_cons_self))
      have hne : a ≠ b := by
        rintro rfl
        exact not_sublist_swap hbs hsub hsub
      exact (sublist_or_swap ha hb hne).resolve_right fun h => not_sublist_swap hbs hsub (htied b a hba hab h)
    have hsame := ((List.perm_insertionSort r as).trans hperm).trans (List.perm_insertionSort r bs).symm
    refine eq_of_pair_sublists ((List.perm_insertionSort r as).nodup_iff.mpr has) hsame fun a b hsub => ?_
    obtain ⟨ha, hb, hne, hab, hbs'⟩ := (pair_sublist_insertionSort_iff hbs).mp hsub
    refine (pair_sublist_insertionSort_iff has).mpr ⟨hperm.mem_iff.mpr ha, hperm.mem_iff.mpr hb, hne, hab, fun hba => ?_⟩
    exact hback a b hab hba (hbs' hba)

/-- **Lists that are sorted twice into the same list** have the same entries, and those in the same order that neither of the
sorts tells apart. -/
theorem insertionSort_insertionSort_eq_iff [DecidableRel s] [IsTrans α s] [Std.Total s] (has : as.Nodup) (hbs : bs.Nodup) :
    (as.insertionSort r).insertionSort s = (bs.insertionSort r).insertionSort s ↔
      as.Perm bs ∧ ∀ a b, s a b → s b a → r a b → r b a → [a, b].Sublist as → [a, b].Sublist bs := by
  have has' := (List.perm_insertionSort r as).nodup_iff.mpr has
  have hbs' := (List.perm_insertionSort r bs).nodup_iff.mpr hbs
  rw [insertionSort_eq_iff has' hbs']
  constructor
  · rintro ⟨hperm, htied⟩
    refine ⟨((List.perm_insertionSort r as).symm.trans hperm).trans (List.perm_insertionSort r bs), ?_⟩
    intro a b hsab hsba hrab hrba hsub
    have hsub := htied a b hsab hsba (List.pair_sublist_insertionSort hrab hsub)
    exact ((pair_sublist_insertionSort_iff hbs).mp hsub).2.2.2.2 hrba
  · rintro ⟨hperm, htied⟩
    refine ⟨((List.perm_insertionSort r as).trans hperm).trans (List.perm_insertionSort r bs).symm, ?_⟩
    intro a b hsab hsba hsub
    obtain ⟨ha, hb, hne, hrab, hsub⟩ := (pair_sublist_insertionSort_iff has).mp hsub
    refine (pair_sublist_insertionSort_iff hbs).mpr ⟨hperm.mem_iff.mp ha, hperm.mem_iff.mp hb, hne, hrab, fun hrba => ?_⟩
    exact htied a b hsab hsba hrab hrba (hsub hrba)

end SameSorted

end Lib
