import Mathlib.Data.List.Sort

/-!
# Sets of scored members

A `SortedSet` holds members, each once, with a score. Adding a member that is there already changes its score.
Ranges are read in an order given by the reader, up to a number of entries.

* `add`, `remove`, `range` : the operations; `entries_add_of_not_mem`, `mem_remove`, `mem_range` : what they do;
* `length_range`, `nodup_range` : how much a range reads;
* `exists_first` : the first entry, and the others without it.
-/

universe u v

namespace Lib

/-- Members with scores, each member once. -/
structure SortedSet (α : Type u) (σ : Type v) where
  entries : List (α × σ)
  nodup : (entries.map Prod.fst).Nodup

namespace SortedSet
variable {α : Type u} {σ : Type v}

def empty : SortedSet α σ := ⟨[], List.nodup_nil⟩

instance : EmptyCollection (SortedSet α σ) := ⟨empty⟩

@[simp] theorem entries_empty : (∅ : SortedSet α σ).entries = [] := rfl

def members (s : SortedSet α σ) : List α := s.entries.map Prod.fst

theorem nodup_entries (s : SortedSet α σ) : s.entries.Nodup := s.nodup.of_map

variable {s : SortedSet α σ}

theorem mem_members {a : α} : a ∈ s.members ↔ ∃ x, (a, x) ∈ s.entries := by
  simp [members]

theorem score_unique {a : α} {x y : σ} (hx : (a, x) ∈ s.entries) (hy : (a, y) ∈ s.entries) : x = y := by
  have hinj := List.inj_on_of_nodup_map s.nodup hx hy rfl
  exact (Prod.mk.inj hinj).2

/-! ## Adding and removing -/

variable [DecidableEq α]

def remove (s : SortedSet α σ) (as : List α) : SortedSet α σ where
  entries := s.entries.filter fun e => e.1 ∉ as
  nodup := s.nodup.sublist (List.filter_sublist.map Prod.fst)

def add (s : SortedSet α σ) (a : α) (x : σ) : SortedSet α σ where
  entries := (a, x) :: (s.remove [a]).entries
  nodup := by
    rw [List.map_cons, List.nodup_cons]
    refine ⟨fun h => ?_, (s.remove [a]).nodup⟩
    obtain ⟨e, he, hea⟩ := List.mem_map.mp h
    have hne := (List.mem_filter.mp he).2
    exact of_decide_eq_true hne (List.mem_singleton.mpr hea)

omit [DecidableEq α] in
def removeScores (s : SortedSet α σ) (p : σ → Bool) : SortedSet α σ where
  entries := s.entries.filter fun e => !p e.2
  nodup := s.nodup.sublist (List.filter_sublist.map Prod.fst)

theorem mem_remove {as : List α} {e : α × σ} : e ∈ (s.remove as).entries ↔ e ∈ s.entries ∧ e.1 ∉ as := by
  unfold remove
  rw [List.mem_filter, decide_eq_true_iff]

theorem remove_of_not_mem {a : α} (h : a ∉ s.members) : (s.remove [a]).entries = s.entries := by
  refine List.filter_eq_self.mpr fun e he => decide_eq_true fun hea => h ?_
  rw [← List.mem_singleton.mp hea]
  exact List.mem_map_of_mem he

theorem entries_add_of_not_mem {a : α} (x : σ) (h : a ∉ s.members) : (s.add a x).entries = (a, x) :: s.entries :=
  congrArg ((a, x) :: ·) (remove_of_not_mem h)

theorem mem_members_add (s : SortedSet α σ) (a : α) (x : σ) : a ∈ (s.add a x).members := List.mem_cons_self

theorem members_add (s : SortedSet α σ) (a : α) (x : σ) : (s.add a x).members = a :: (s.remove [a]).members := rfl

theorem members_remove (s : SortedSet α σ) (as : List α) :
    (s.remove as).members = s.members.filter fun a => a ∉ as := by
  unfold members remove
  rw [List.filter_map]
  rfl

theorem perm_members_remove {as : List α} (hnodup : as.Nodup) (h : as ⊆ s.members) :
    s.members.Perm (as ++ (s.remove as).members) := by
  have hrest : (s.remove as).members.Nodup := (s.remove as).nodup
  have hdisjoint : as.Disjoint (s.remove as).members := by
    intro a ha hleft
    rw [members_remove, List.mem_filter] at hleft
    exact of_decide_eq_true hleft.2 ha
  refine (List.perm_ext_iff_of_nodup s.nodup (hnodup.append hrest hdisjoint)).mpr fun a => ?_
  rw [List.mem_append, members_remove, List.mem_filter, decide_eq_true_iff]
  constructor
  · intro ha
    by_cases hin : a ∈ as
    · exact .inl hin
    · exact .inr ⟨ha, hin⟩
  · rintro (hin | ⟨ha, -⟩)
    · exact h hin
    · exact ha

/-! ## Ranges -/

section Range
variable (le : α × σ → α × σ → Prop) [DecidableRel le]

omit [DecidableEq α] in
def range (s : SortedSet α σ) (p : σ → Bool) (n : Nat) : List (α × σ) :=
  ((s.entries.filter fun e => p e.2).insertionSort le).take n

variable {le}

omit [DecidableEq α] in
theorem mem_range {s : SortedSet α σ} {p : σ → Bool} {n : Nat} {e : α × σ} (h : e ∈ s.range le p n) :
    e ∈ s.entries ∧ p e.2 = true := by
  have hmem := List.mem_of_mem_take h
  exact List.mem_filter.mp ((List.mem_insertionSort le).mp hmem)

omit [DecidableEq α] in
theorem nodup_range (s : SortedSet α σ) (p : σ → Bool) (n : Nat) : (s.range le p n).Nodup := by
  have hsorted : ((s.entries.filter fun e => p e.2).insertionSort le).Nodup :=
    (List.perm_insertionSort le _).nodup_iff.mpr (s.nodup_entries.filter _)
  exact hsorted.sublist (List.take_sublist n _)

omit [DecidableEq α] in
theorem nodup_members_range (s : SortedSet α σ) (p : σ → Bool) (n : Nat) :
    ((s.range le p n).map Prod.fst).Nodup := by
  refine List.Nodup.map_on ?_ (nodup_range s p n)
  rintro ⟨a, x⟩ hx ⟨b, y⟩ hy rfl
  rw [score_unique (mem_range hx).1 (mem_range hy).1]

variable (le)

omit [DecidableEq α] in
theorem length_range (s : SortedSet α σ) (p : σ → Bool) (n : Nat) :
    (s.range le p n).length = min n (s.entries.filter fun e => p e.2).length := by
  rw [range, List.length_take, List.length_insertionSort]

theorem length_filter_remove_range (s : SortedSet α σ) (p : σ → Bool) (n : Nat) :
    ((s.remove ((s.range le p n).map Prod.fst)).entries.filter fun e => p e.2).length =
      (s.entries.filter fun e => p e.2).length - n := by
  set due := s.entries.filter fun e => p e.2 with hdue
  have hperm := List.perm_insertionSort le due
  have hnodup : (due.insertionSort le).Nodup := hperm.nodup_iff.mpr (s.nodup_entries.filter _)
  -- what is left is what the range did not take
  have hleft : ((s.remove ((s.range le p n).map Prod.fst)).entries.filter fun e => p e.2).Perm
      ((due.insertionSort le).drop n) := by
    refine (List.perm_ext_iff_of_nodup (((s.nodup_entries.filter _).filter _)) (hnodup.sublist
      (List.drop_sublist n _))).mpr fun e => ?_
    have hmem : e ∈ due.insertionSort le ↔ e ∈ s.entries ∧ p e.2 = true :=
      (List.mem_insertionSort le).trans List.mem_filter
    have hsplit : e ∈ due.insertionSort le ↔ e ∈ s.range le p n ∨ e ∈ (due.insertionSort le).drop n := by
      conv_lhs => rw [← List.take_append_drop n (due.insertionSort le)]
      exact List.mem_append
    have hfst : e ∈ s.entries → (e.1 ∈ (s.range le p n).map Prod.fst ↔ e ∈ s.range le p n) := by
      intro he
      refine ⟨fun h => ?_, List.mem_map_of_mem⟩
      obtain ⟨⟨a, x⟩, hr, ha⟩ := List.mem_map.mp h
      obtain ⟨b, y⟩ := e
      obtain rfl : a = b := ha
      rwa [score_unique he (mem_range hr).1]
    have hdisjoint : e ∈ s.range le p n → e ∉ (due.insertionSort le).drop n := by
      intro hr hd
      exact (List.disjoint_take_drop hnodup le_rfl) hr hd
    have hremove : e ∈ (s.remove ((s.range le p n).map Prod.fst)).entries ↔
        e ∈ s.entries ∧ e.1 ∉ (s.range le p n).map Prod.fst := mem_remove
    refine List.mem_filter.trans ((and_congr_left' hremove).trans ?_)
    constructor
    · rintro ⟨⟨he, hnot⟩, hp⟩
      exact (hsplit.mp (hmem.mpr ⟨he, hp⟩)).resolve_left (mt (hfst he).mpr hnot)
    · intro hd
      obtain ⟨he, hp⟩ := hmem.mp (hsplit.mpr (.inr hd))
      exact ⟨⟨he, fun hr => hdisjoint ((hfst he).mp hr) hd⟩, hp⟩
  rw [hleft.length_eq, List.length_drop, List.length_insertionSort]

variable {le}

theorem exists_first [Std.Total le] [IsTrans (α × σ) le] {s : SortedSet α σ} (h : s.entries ≠ []) :
    ∃ e rest, s.range le (fun _ => true) 1 = [e] ∧ s.entries.Perm (e :: rest) ∧ (∀ e' ∈ rest, le e e') ∧
      (s.remove [e.1]).entries.Perm rest := by
  have hperm := List.perm_insertionSort le s.entries
  have hsorted := List.pairwise_insertionSort le s.entries
  have hrange : s.range le (fun _ => true) 1 = (s.entries.insertionSort le).take 1 := by
    unfold range
    rw [List.filter_true]
  cases hcons : s.entries.insertionSort le with
  | nil => exact absurd (hcons ▸ hperm).nil_eq.symm h
  | cons e rest =>
    rw [hcons] at hperm hsorted hrange
    have hnodup : ((e :: rest).map Prod.fst).Nodup := (hperm.map Prod.fst).nodup_iff.mpr s.nodup
    rw [List.map_cons, List.nodup_cons] at hnodup
    refine ⟨e, rest, hrange, hperm.symm, (List.pairwise_cons.mp hsorted).1, ?_⟩
    have hkept : (e :: rest).filter (fun e' => e'.1 ∉ [e.1]) = rest := by
      rw [List.filter_cons_of_neg (by simp), List.filter_eq_self]
      intro e' he'
      refine decide_eq_true fun hmem => hnodup.1 ?_
      rw [← List.mem_singleton.mp hmem]
      exact List.mem_map_of_mem he'
    exact (hperm.symm.filter _).trans (List.Perm.of_eq hkept)

end Range

end SortedSet

end Lib
