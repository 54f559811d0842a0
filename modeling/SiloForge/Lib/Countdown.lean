import Mathlib.Data.List.Count
import Mathlib.Data.List.Range
import Mathlib.Data.Nat.Find

/-!
# Loops that count down

A loop takes one turn after the other, each with an input of its own, until a turn leaves it. A turn that consumes takes
one item of a supply, and leaves the loop where the supply is empty. Every turn may add to the supply, or take from it.

* `Countdown` : what the turns of such a loop do; `Outpaced` : more was consumed than there was;
* `Countdown.ends_iff` : the loop ends exactly when the supply is outpaced;
* `Countdown.not_ends_of_idle`, `Countdown.ends_of_bounded` : loops that never consume, and loops that do not stop to.
-/

universe u v

namespace Lib

variable {σ : Type u} {ι : Type v}

def firstInputs (inputs : ℕ → ι) (n : ℕ) : List ι := (List.range n).map inputs

theorem firstInputs_succ (inputs : ℕ → ι) (n : ℕ) : firstInputs inputs (n + 1) = firstInputs inputs n ++ [inputs n] := by
  simp [firstInputs, List.range_succ]

section Turns
variable (turn : ι → σ → Option σ)

/-- The state after some turns, unless one of them left the loop. -/
def turns : List ι → σ → Option σ
  | [], s => some s
  | i :: is, s => (turn i s).bind (turns is)

def Ends (inputs : ℕ → ι) (s : σ) : Prop := ∃ n, turns turn (firstInputs inputs n) s = none

/-- The sum of what the turns add, for as long as the loop goes on. -/
def total (gain : ι → σ → ℤ) : List ι → σ → ℤ
  | [], _ => 0
  | i :: is, s => gain i s + (match turn i s with
    | some t => total gain is t
    | none => 0)

variable {turn}

theorem turns_append (is js : List ι) (s : σ) : turns turn (is ++ js) s = (turns turn is s).bind (turns turn js) := by
  induction is generalizing s with
  | nil => rfl
  | cons i is ih =>
    cases hturn : turn i s with
    | none => simp [turns, hturn]
    | some t => simp [turns, hturn, ih]

theorem turns_firstInputs_succ (inputs : ℕ → ι) (n : ℕ) (s : σ) :
    turns turn (firstInputs inputs (n + 1)) s = (turns turn (firstInputs inputs n) s).bind (turn (inputs n)) := by
  rw [firstInputs_succ, turns_append]
  congr
  funext t
  exact Option.bind_fun_some (turn (inputs n) t)

theorem ends_iff_exists_leaving {turn : ι → σ → Option σ} {inputs : ℕ → ι} {s : σ} :
    Ends turn inputs s ↔ ∃ n t, turns turn (firstInputs inputs n) s = some t ∧ turn (inputs n) t = none := by
  classical
  constructor
  · intro hends
    -- the first number of turns after which the loop is left is the successor of one after which it goes on
    obtain ⟨n, hn⟩ : ∃ n, Nat.find hends = n + 1 := by
      refine Nat.exists_eq_succ_of_ne_zero fun hzero => ?_
      have hnone := Nat.find_spec hends
      rw [hzero] at hnone
      cases hnone
    have hleft := Nat.find_spec hends
    rw [hn, turns_firstInputs_succ] at hleft
    obtain ⟨t, ht⟩ := Option.ne_none_iff_exists'.mp (Nat.find_min hends (m := n) (by omega))
    rw [ht, Option.bind_some] at hleft
    exact ⟨n, t, ht, hleft⟩
  · rintro ⟨n, t, ht, hleft⟩
    refine ⟨n + 1, ?_⟩
    rw [turns_firstInputs_succ, ht, Option.bind_some, hleft]

end Turns

section Total
variable {turn : ι → σ → Option σ} {gain : ι → σ → ℤ} {inputs : ℕ → ι} {s : σ}

theorem total_concat (is : List ι) (i : ι) (s : σ) :
    total turn gain (is ++ [i]) s = total turn gain is s + (turns turn is s).elim 0 (gain i) := by
  induction is generalizing s with
  | nil =>
    rw [List.nil_append, total]
    cases hturn : turn i s <;> simp [total, turns, hturn]
  | cons j is ih =>
    rw [List.cons_append, total, total, turns]
    cases turn j s with
    | none => simp
    | some t =>
      rw [Option.bind_some]
      simp only [ih]
      omega

/-- Where only the first `k` turns add, and each of them `most` at most, so much is added altogether. -/
theorem total_le_mul {k most : ℕ} (hmost : ∀ n t, gain (inputs n) t ≤ most)
    (hlater : ∀ n t, k ≤ n → gain (inputs n) t ≤ 0) (n : ℕ) :
    total turn gain (firstInputs inputs n) s ≤ (k * most : ℕ) := by
  suffices hsofar : total turn gain (firstInputs inputs n) s ≤ (min n k * most : ℕ) from
    Int.le_trans hsofar (Int.ofNat_le.mpr (Nat.mul_le_mul_right _ (Nat.min_le_right n k)))
  induction n with
  | zero => simp [firstInputs, total]
  | succ n ih =>
    rw [firstInputs_succ, total_concat]
    rcases lt_or_ge n k with hfirst | hpast
    · have hadded : (turns turn (firstInputs inputs n) s).elim 0 (gain (inputs n)) ≤ most := by
        cases turns turn (firstInputs inputs n) s with
        | none => exact Int.natCast_nonneg most
        | some t => exact hmost n t
      rw [min_eq_left hfirst.le] at ih
      rw [min_eq_left (Nat.succ_le_of_lt hfirst), Nat.succ_mul]
      push_cast at ih ⊢
      omega
    · have hadded : (turns turn (firstInputs inputs n) s).elim 0 (gain (inputs n)) ≤ 0 := by
        cases turns turn (firstInputs inputs n) s with
        | none => exact Int.le_refl 0
        | some t => exact hlater n t hpast
      rw [min_eq_right hpast] at ih
      rw [min_eq_right (hpast.trans n.le_succ)]
      omega

end Total

/-! ## Counting down -/

/-- What a turn does: it breaks off; or it consumes nothing; or it takes an item of the supply, and leaves the loop where
there is none. What it adds beside that is its gain. -/
structure Countdown (turn : ι → σ → Option σ) (size : σ → ℕ) (consumes : ι → Bool) (gain : ι → σ → ℤ)
    (breaks : ι → σ → Prop) : Prop where
  broken : ∀ i s, breaks i s → turn i s = none
  idle : ∀ i s, consumes i = false → ¬ breaks i s → ∃ t, turn i s = some t ∧ (size t : ℤ) = size s + gain i s
  last : ∀ i s, consumes i = true → size s = 0 → turn i s = none
  consume : ∀ i s, consumes i = true → size s ≠ 0 → ¬ breaks i s →
    ∃ t, turn i s = some t ∧ (size t : ℤ) + 1 = size s + gain i s

/-- At some turn more has been consumed than there was and came to it, or the turn breaks off. -/
def Outpaced (turn : ι → σ → Option σ) (size : σ → ℕ) (consumes : ι → Bool) (gain : ι → σ → ℤ) (breaks : ι → σ → Prop)
    (inputs : ℕ → ι) (s : σ) : Prop :=
  ∃ n, (∃ t, turns turn (firstInputs inputs n) s = some t ∧ breaks (inputs n) t) ∨
    size s + total turn gain (firstInputs inputs n) s < (firstInputs inputs (n + 1)).countP consumes

namespace Countdown
variable {turn : ι → σ → Option σ} {size : σ → ℕ} {consumes : ι → Bool} {gain : ι → σ → ℤ} {breaks : ι → σ → Prop}
  {inputs : ℕ → ι} {s t : σ}

theorem size_turn (h : Countdown turn size consumes gain breaks) {i : ι} (hturn : turn i s = some t) :
    (size t : ℤ) + (if consumes i then 1 else 0) = size s + gain i s := by
  have hgoes : ¬ breaks i s := by
    intro hbreaks
    rw [h.broken i s hbreaks] at hturn
    cases hturn
  cases hconsumes : consumes i with
  | false =>
    obtain ⟨u, hu, hsize⟩ := h.idle i s hconsumes hgoes
    obtain rfl := Option.some.inj (hturn.symm.trans hu)
    simpa using hsize
  | true =>
    have hsome : size s ≠ 0 := by
      intro hempty
      rw [h.last i s hconsumes hempty] at hturn
      cases hturn
    obtain ⟨u, hu, hsize⟩ := h.consume i s hconsumes hsome hgoes
    obtain rfl := Option.some.inj (hturn.symm.trans hu)
    simpa using hsize

/-- **The balance**: what is left and what was consumed is what there was and what came to it. -/
theorem size_turns (h : Countdown turn size consumes gain breaks) {is : List ι} (hturns : turns turn is s = some t) :
    (size t : ℤ) + is.countP consumes = size s + total turn gain is s := by
  induction is generalizing s with
  | nil =>
    obtain rfl := Option.some.inj hturns
    simp [total]
  | cons i is ih =>
    obtain ⟨u, hturn, hrest⟩ := Option.bind_eq_some_iff.mp hturns
    have hsize := h.size_turn hturn
    have hsizes := ih hrest
    rw [total, hturn, List.countP_cons]
    push_cast
    split_ifs at hsize ⊢ <;> omega

theorem turn_eq_none_iff (h : Countdown turn size consumes gain breaks) {i : ι} :
    turn i s = none ↔ breaks i s ∨ consumes i = true ∧ size s = 0 := by
  constructor
  · intro hleft
    by_cases hbreaks : breaks i s
    · exact .inl hbreaks
    · right
      cases hconsumes : consumes i with
      | false =>
        obtain ⟨u, hu, -⟩ := h.idle i s hconsumes hbreaks
        rw [hleft] at hu
        cases hu
      | true =>
        refine ⟨rfl, ?_⟩
        by_contra hsome
        obtain ⟨u, hu, -⟩ := h.consume i s hconsumes hsome hbreaks
        rw [hleft] at hu
        cases hu
  · rintro (hbreaks | ⟨hconsumes, hempty⟩)
    · exact h.broken i s hbreaks
    · exact h.last i s hconsumes hempty

/-- **Where it ends**: a loop that counts down ends exactly when its supply is outpaced. -/
theorem ends_iff (h : Countdown turn size consumes gain breaks) :
    Ends turn inputs s ↔ Outpaced turn size consumes gain breaks inputs s := by
  constructor
  · intro hends
    obtain ⟨n, t, ht, hleft⟩ := ends_iff_exists_leaving.mp hends
    refine ⟨n, ?_⟩
    rcases h.turn_eq_none_iff.mp hleft with hbreaks | ⟨hconsumes, hempty⟩
    · exact .inl ⟨t, ht, hbreaks⟩
    · right
      have hbalance := h.size_turns ht
      rw [firstInputs_succ, List.countP_append, List.countP_singleton, if_pos hconsumes]
      push_cast
      omega
  · rintro ⟨n, ⟨t, ht, hbreaks⟩ | hpast⟩
    · exact ends_iff_exists_leaving.mpr ⟨n, t, ht, h.broken _ t hbreaks⟩
    · cases ht : turns turn (firstInputs inputs n) s with
      | none => exact ⟨n, ht⟩
      | some t =>
        have hbalance := h.size_turns ht
        rw [firstInputs_succ, List.countP_append, List.countP_singleton] at hpast
        push_cast at hpast
        have hconsumes : consumes (inputs n) = true := by
          by_contra hidle
          rw [if_neg hidle] at hpast
          omega
        rw [if_pos hconsumes] at hpast
        exact ends_iff_exists_leaving.mpr ⟨n, t, ht, h.last _ t hconsumes (by omega)⟩

theorem not_ends_of_idle (h : Countdown turn size consumes gain breaks) (hidle : ∀ n, consumes (inputs n) = false)
    (hgoes : ∀ n t, ¬ breaks (inputs n) t) : ¬ Ends turn inputs s := by
  rintro ⟨n, hnone⟩
  have hsome : ∃ t, turns turn (firstInputs inputs n) s = some t := by
    clear hnone
    induction n with
    | zero => exact ⟨s, rfl⟩
    | succ n ih =>
      obtain ⟨t, ht⟩ := ih
      obtain ⟨u, hu, -⟩ := h.idle _ t (hidle n) (hgoes n t)
      exact ⟨u, by rw [turns_firstInputs_succ, ht, Option.bind_some, hu]⟩
  obtain ⟨t, ht⟩ := hsome
  rw [hnone] at ht
  cases ht

/-- A loop whose supply gains only so much, and that consumes again and again, ends. -/
theorem ends_of_bounded (h : Countdown turn size consumes gain breaks) {bound : ℤ}
    (hbound : ∀ n, total turn gain (firstInputs inputs n) s ≤ bound)
    (hagain : ∀ m, ∃ n, m ≤ (firstInputs inputs (n + 1)).countP consumes) : Ends turn inputs s := by
  refine h.ends_iff.mpr ?_
  obtain ⟨n, hn⟩ := hagain (size s + bound.toNat + 1)
  refine ⟨n, .inr ?_⟩
  have hgained := hbound n
  omega

end Countdown

end Lib
