import Mathlib.Algebra.GroupWithZero.Nat
import Mathlib.Algebra.BigOperators.Group.List.Basic
import Mathlib.Data.List.Nodup
import Mathlib.Order.Bounds.Basic

/-!
# Marks on a line

A line with marks on it is cut into the stretches from one mark to the next. Each point belongs to the last mark up to it.

* `IsFloor`, `IsNext` : the last mark up to a point, and the first mark after one;
* `isFloor_iff` : a point belongs to a mark exactly if it lies in the stretch of the mark;
* `Ladder` : the marks from one on up to an end, `Ladder.mem_iff` : all of them, `Ladder.pairwise` : in their order.
-/

universe u v

namespace Lib.Marks

section Order
variable {T : Type u} [LinearOrder T] {IsMark : T → Prop} {s t m n stop : T} {ms : List T}

def IsFloor (IsMark : T → Prop) (t m : T) : Prop := IsGreatest {m | IsMark m ∧ m ≤ t} m

def IsNext (IsMark : T → Prop) (m n : T) : Prop := IsLeast {n | IsMark n ∧ m < n} n

theorem IsFloor.mono (hs : IsFloor IsMark s m) (ht : IsFloor IsMark t n) (h : s ≤ t) : m ≤ n :=
  ht.2 ⟨hs.1.1, hs.1.2.trans h⟩

/-- **A point belongs to a mark** exactly if it lies between this mark and the next. -/
theorem isFloor_iff (hm : IsMark m) (hn : IsNext IsMark m n) : IsFloor IsMark t m ↔ m ≤ t ∧ t < n := by
  constructor
  · intro h
    refine ⟨h.1.2, lt_of_not_ge fun hle => ?_⟩
    exact absurd (h.2 ⟨hn.1.1, hle⟩) (not_le.mpr hn.1.2)
  · rintro ⟨hle, hlt⟩
    refine ⟨⟨hm, hle⟩, fun m' hm' => ?_⟩
    obtain ⟨hmark, hm't⟩ := hm'
    by_contra hmm'
    exact absurd (hn.2 ⟨hmark, not_le.mp hmm'⟩) (not_le.mpr (lt_of_le_of_lt hm't hlt))

/-- The marks from one on, up to an end. -/
inductive Ladder (IsMark : T → Prop) (stop : T) : T → List T → Prop
  | done {m : T} : stop < m → Ladder IsMark stop m []
  | step {m n : T} {ms : List T} : IsMark m → m ≤ stop → IsNext IsMark m n → Ladder IsMark stop n ms →
      Ladder IsMark stop m (m :: ms)

/-- **A ladder has all the marks** from its first one up to its end. -/
theorem Ladder.mem_iff (h : Ladder IsMark stop m ms) : n ∈ ms ↔ IsMark n ∧ m ≤ n ∧ n ≤ stop := by
  induction h with
  | done hlt =>
    refine iff_of_false List.not_mem_nil ?_
    rintro ⟨-, hmn, hn⟩
    exact absurd (lt_of_lt_of_le hlt hmn) (not_lt.mpr hn)
  | @step m m' ms hm hle hnext _ ih =>
    rw [List.mem_cons, ih]
    constructor
    · rintro (rfl | ⟨hn, hm'n, hstop⟩)
      · exact ⟨hm, le_rfl, hle⟩
      · exact ⟨hn, (hnext.1.2.trans_le hm'n).le, hstop⟩
    · rintro ⟨hn, hmn, hstop⟩
      rcases hmn.eq_or_lt with rfl | hlt
      · exact .inl rfl
      · exact .inr ⟨hn, hnext.2 ⟨hn, hlt⟩, hstop⟩

theorem Ladder.pairwise (h : Ladder IsMark stop m ms) : ms.Pairwise (· < ·) := by
  induction h with
  | done _ => exact .nil
  | step hm hle hnext hrest ih =>
    refine .cons (fun n hn => ?_) ih
    exact hnext.1.2.trans_le (hrest.mem_iff.mp hn).2.1

/-- The mark of a point between the beginning and the end is in the ladder that begins with the mark of the beginning. -/
theorem Ladder.floor_mem (h : Ladder IsMark stop m ms) (hs : IsFloor IsMark s m) (ht : IsFloor IsMark t n) (hst : s ≤ t)
    (hstop : t ≤ stop) : n ∈ ms :=
  h.mem_iff.mpr ⟨ht.1.1, hs.mono ht hst, ht.1.2.trans hstop⟩

end Order

/-- **Rows are counted once** over places among which each has its own. -/
theorem sum_counts {α : Type u} {β : Type v} [DecidableEq β] (place : α → β) (rows : List α) {places : List β}
    (hnodup : places.Nodup) (h : ∀ r ∈ rows, place r ∈ places) :
    (places.map fun b => (rows.map place).count b).sum = rows.length := by
  induction rows with
  | nil => simp
  | cons r rows ih =>
    have hone : (places.map fun b => if place r = b then 1 else 0).sum = 1 := by
      rw [List.sum_map_eq_nsmul_single (place r) _ fun b hb _ => if_neg (Ne.symm hb), if_pos rfl,
        Nat.nsmul_eq_mul, Nat.mul_one]
      exact List.count_eq_one_of_mem hnodup (h r List.mem_cons_self)
    have hrest := ih fun r' hr' => h r' (List.mem_cons_of_mem _ hr')
    simp only [List.map_cons, List.count_cons, beq_iff_eq, List.sum_map_add, hrest, hone, List.length_cons]

end Lib.Marks
