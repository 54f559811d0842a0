import Mathlib.Data.Int.Log
import Mathlib.Data.Rat.Floor
import Mathlib.Algebra.Order.Field.Power
import Mathlib.Tactic.Positivity

/-!
# Rounding to a binary format

The numbers of a binary format are the multiples of powers of two by integers of a bounded number of digits. A number that is
not among them is rounded to the nearest one, and to the even one of two that are as near.

* `BinaryFormat.round` : rounding, of a number that is not negative;
* `round_of_holds`, `holds_round` : rounding gives the numbers of the format, and keeps them;
* `exists_natCast_of_round`, `round_mono` : it gives an integer for an integer, and goes up with the number;
* `BinaryFormat.nearest`, `nearest_mono` : the same for numbers of either sign.
-/

namespace Lib

def roundHalfEven (q : ℚ) : ℤ :=
  if q - ⌊q⌋ < 1 / 2 then ⌊q⌋
  else if 1 / 2 < q - ⌊q⌋ then ⌊q⌋ + 1
  else if ⌊q⌋ % 2 = 0 then ⌊q⌋
  else ⌊q⌋ + 1

theorem roundHalfEven_floor (q : ℚ) : roundHalfEven q = ⌊q⌋ ∨ roundHalfEven q = ⌊q⌋ + 1 ∧ (⌊q⌋ : ℚ) < q := by
  unfold roundHalfEven
  split
  · exact .inl rfl
  · rename_i hlow
    have habove : (⌊q⌋ : ℚ) < q := by linarith
    split
    · exact .inr ⟨rfl, habove⟩
    split
    · exact .inl rfl
    · exact .inr ⟨rfl, habove⟩

theorem le_roundHalfEven {q : ℚ} {k : ℤ} (h : (k : ℚ) ≤ q) : k ≤ roundHalfEven q := by
  have hk : k ≤ ⌊q⌋ := Int.le_floor.mpr h
  rcases roundHalfEven_floor q with hq | ⟨hq, -⟩ <;> omega

theorem roundHalfEven_le {q : ℚ} {k : ℤ} (h : q ≤ k) : roundHalfEven q ≤ k := by
  rcases roundHalfEven_floor q with hq | ⟨hq, hlt⟩
  · rw [hq]
    exact_mod_cast (Int.floor_le q).trans h
  · have hk : (⌊q⌋ : ℚ) < k := lt_of_lt_of_le hlt h
    have hk' : ⌊q⌋ < k := by exact_mod_cast hk
    omega

theorem roundHalfEven_mono {q q' : ℚ} (h : q ≤ q') : roundHalfEven q ≤ roundHalfEven q' := by
  rcases (Int.floor_le_floor h).lt_or_eq with hlt | heq
  · -- the integer above `q` is not above `q'`
    have hq : roundHalfEven q ≤ ⌊q⌋ + 1 := by
      rcases roundHalfEven_floor q with h | ⟨h, -⟩ <;> omega
    exact hq.trans (le_roundHalfEven ((Int.cast_le.mpr (Int.add_one_le_of_lt hlt)).trans (Int.floor_le q')))
  · unfold roundHalfEven
    rw [← heq]
    split_ifs <;> first | omega | linarith

/-- A binary format: the digits of its numbers, the exponent of its smallest unit, and a power of two above all of them. -/
structure BinaryFormat where
  precision : ℕ
  minExponent : ℤ
  maxExponent : ℤ
  precision_pos : 0 < precision

namespace BinaryFormat
variable (F : BinaryFormat)

/-- The exponent of the unit that a number is rounded to. -/
def unitExponent (q : ℚ) : ℤ := max F.minExponent (Int.log 2 q - (F.precision - 1))

def unit (q : ℚ) : ℚ := 2 ^ F.unitExponent q

def toUnit (q : ℚ) : ℚ := roundHalfEven (q / F.unit q) * F.unit q

def round (q : ℚ) : Option ℚ := if F.toUnit q < 2 ^ F.maxExponent then some (F.toUnit q) else none

def Holds (q : ℚ) : Prop :=
  ∃ (m : ℕ) (e : ℤ), m < 2 ^ F.precision ∧ F.minExponent ≤ e ∧ q = m * 2 ^ e ∧ q < 2 ^ F.maxExponent

variable {F} {q q' : ℚ}

theorem unit_pos (q : ℚ) : 0 < F.unit q := by
  unfold unit
  positivity

theorem holds_zero : F.Holds 0 :=
  ⟨0, F.minExponent, by positivity, le_rfl, by simp, by positivity⟩

/-! ## Multiples of the unit -/

theorem le_toUnit {k : ℤ} (h : k * F.unit q ≤ q) : k * F.unit q ≤ F.toUnit q := by
  have hk : (k : ℚ) ≤ q / F.unit q := (le_div_iff₀ (unit_pos q)).mpr h
  exact mul_le_mul_of_nonneg_right (by exact_mod_cast le_roundHalfEven hk) (unit_pos q).le

theorem toUnit_le {k : ℤ} (h : q ≤ k * F.unit q) : F.toUnit q ≤ k * F.unit q := by
  have hk : q / F.unit q ≤ k := (div_le_iff₀ (unit_pos q)).mpr h
  exact mul_le_mul_of_nonneg_right (by exact_mod_cast roundHalfEven_le hk) (unit_pos q).le

/-- A power of two that is not below the unit is a multiple of it. -/
theorem zpow_eq_mul_unit {e : ℤ} (h : F.unitExponent q ≤ e) : ∃ k : ℤ, (2 : ℚ) ^ e = k * F.unit q := by
  refine ⟨2 ^ (e - F.unitExponent q).toNat, ?_⟩
  unfold unit
  rw [Int.cast_pow, Int.cast_ofNat, ← zpow_natCast, ← zpow_add₀ two_ne_zero]
  congr 1
  omega

theorem mul_zpow_eq_mul_unit {m : ℕ} {e : ℤ} (hm : m < 2 ^ F.precision) (he : F.minExponent ≤ e) :
    ∃ k : ℤ, (m : ℚ) * 2 ^ e = k * F.unit (m * 2 ^ e) := by
  rcases Nat.eq_zero_or_pos m with rfl | hpos
  · exact ⟨0, by simp⟩
  have hq : (0 : ℚ) < m * 2 ^ e := by positivity
  have hlog : Int.log 2 ((m : ℚ) * 2 ^ e) < F.precision + e := by
    refine (Int.lt_zpow_iff_log_lt one_lt_two hq).mp ?_
    push_cast
    rw [zpow_add₀ two_ne_zero, zpow_natCast]
    exact mul_lt_mul_of_pos_right (by exact_mod_cast hm) (by positivity)
  have hunit : F.unitExponent (m * 2 ^ e) ≤ e := by
    unfold unitExponent
    omega
  obtain ⟨k, hk⟩ := zpow_eq_mul_unit hunit
  refine ⟨m * k, ?_⟩
  rw [Int.cast_mul, mul_assoc, ← hk, Int.cast_natCast]

theorem toUnit_of_holds (h : F.Holds q) : F.toUnit q = q := by
  obtain ⟨m, e, hm, he, rfl, -⟩ := h
  obtain ⟨k, hk⟩ := mul_zpow_eq_mul_unit hm he
  refine le_antisymm ?_ ?_
  · exact (toUnit_le hk.le).trans hk.ge
  · exact hk.le.trans (le_toUnit hk.ge)

theorem round_of_holds (h : F.Holds q) : F.round q = some q := by
  obtain ⟨-, -, -, -, -, hlt⟩ := id h
  unfold round
  rw [toUnit_of_holds h, if_pos hlt]

theorem roundHalfEven_eq {q : ℚ} {k : ℤ} (hlow : (k : ℚ) - 1 / 2 < q) (hhigh : q < k + 1 / 2) : roundHalfEven q = k := by
  unfold roundHalfEven
  rcases le_or_gt (k : ℚ) q with hq | hq
  · have hfloor : ⌊q⌋ = k := Int.floor_eq_iff.mpr ⟨hq, by linarith⟩
    rw [hfloor, if_pos (by linarith)]
  · have hfloor : ⌊q⌋ = k - 1 := Int.floor_eq_iff.mpr ⟨by push_cast; linarith, by push_cast; linarith⟩
    rw [hfloor, if_neg (by push_cast; linarith), if_pos (by push_cast; linarith), sub_add_cancel]

theorem toUnit_eq {k : ℤ} (hlow : (k - 1 / 2) * F.unit q < q) (hhigh : q < (k + 1 / 2) * F.unit q) :
    F.toUnit q = k * F.unit q := by
  rw [toUnit, roundHalfEven_eq ((lt_div_iff₀ (unit_pos q)).mpr hlow) ((div_lt_iff₀ (unit_pos q)).mpr hhigh)]

/-! ## What rounding gives -/

theorem toUnit_nonneg (h : 0 ≤ q) : 0 ≤ F.toUnit q := by
  have hzero := le_toUnit (F := F) (q := q) (k := 0) (by simpa using h)
  simpa using hzero

/-- A number is below the power of two behind its logarithm, which is a multiple of its unit unless the unit is larger. -/
theorem toUnit_le_zpow : F.toUnit q ≤ 2 ^ max F.minExponent (Int.log 2 q + 1) := by
  have hlt : q < 2 ^ (Int.log 2 q + 1) := by exact_mod_cast Int.lt_zpow_succ_log_self one_lt_two q
  have hle : F.unitExponent q ≤ max F.minExponent (Int.log 2 q + 1) := by
    have := F.precision_pos
    unfold unitExponent
    omega
  obtain ⟨k, hk⟩ := zpow_eq_mul_unit hle
  rw [hk]
  refine toUnit_le (hk ▸ hlt.le.trans ?_)
  exact zpow_le_zpow_right₀ one_le_two (le_max_right _ _)

theorem holds_toUnit (h : 0 ≤ q) (hlt : F.toUnit q < 2 ^ F.maxExponent) : F.Holds (F.toUnit q) := by
  have hnonneg := toUnit_nonneg (F := F) h
  have hbase : F.minExponent ≤ F.unitExponent q := le_max_left _ _
  obtain ⟨k, hk⟩ : ∃ k : ℕ, F.toUnit q = k * F.unit q := by
    have hround : 0 ≤ roundHalfEven (q / F.unit q) :=
      le_roundHalfEven (by simpa using div_nonneg h (unit_pos q).le)
    refine ⟨(roundHalfEven (q / F.unit q)).toNat, ?_⟩
    unfold toUnit
    congr 1
    exact_mod_cast (Int.toNat_of_nonneg hround).symm
  -- the multiple has one digit too many at most, and then it is a power of two
  have hle : k ≤ 2 ^ F.precision := by
    have hbound : (k : ℚ) * F.unit q ≤ 2 ^ F.precision * F.unit q := by
      rw [← hk]
      have hmul : (2 : ℚ) ^ F.precision * F.unit q = 2 ^ (F.precision + F.unitExponent q) := by
        unfold unit
        rw [zpow_add₀ two_ne_zero, zpow_natCast]
      refine toUnit_le_zpow.trans (hmul ▸ zpow_le_zpow_right₀ one_le_two ?_)
      have := F.precision_pos
      unfold unitExponent
      omega
    exact_mod_cast le_of_mul_le_mul_right hbound (unit_pos q)
  rcases hle.lt_or_eq with hlt' | heq
  · exact ⟨k, F.unitExponent q, hlt', hbase, hk, hlt⟩
  · refine ⟨2 ^ (F.precision - 1), F.unitExponent q + 1, ?_, by omega, ?_, hlt⟩
    · exact Nat.pow_lt_pow_right one_lt_two (Nat.sub_lt F.precision_pos one_pos)
    · rw [hk, heq, unit, zpow_add_one₀ two_ne_zero, ← mul_assoc, mul_right_comm]
      congr 1
      push_cast
      rw [← pow_succ, Nat.sub_add_cancel F.precision_pos]

theorem round_eq_some {r : ℚ} : F.round q = some r ↔ F.toUnit q = r ∧ r < 2 ^ F.maxExponent := by
  unfold round
  split
  · rename_i hlt
    rw [Option.some.injEq]
    exact ⟨fun h => ⟨h, h ▸ hlt⟩, And.left⟩
  · rename_i hlt
    refine iff_of_false nofun ?_
    rintro ⟨rfl, h⟩
    exact hlt h

theorem holds_round {r : ℚ} (h : 0 ≤ q) (hr : F.round q = some r) : F.Holds r := by
  obtain ⟨rfl, hlt⟩ := round_eq_some.mp hr
  exact holds_toUnit h hlt

theorem exists_natCast_of_round {n : ℕ} {r : ℚ} (hr : F.round n = some r) : ∃ m : ℕ, r = m := by
  obtain ⟨rfl, -⟩ := round_eq_some.mp hr
  have hint : ∃ k : ℤ, F.toUnit n = k := by
    rcases le_or_gt (F.unitExponent n) 0 with hle | hgt
    · -- a small unit divides the integer
      obtain ⟨k, hk⟩ := zpow_eq_mul_unit hle
      have hn : ((n * k : ℤ) : ℚ) * F.unit n = n := by
        rw [Int.cast_mul, mul_assoc, ← hk, zpow_zero, mul_one, Int.cast_natCast]
      exact ⟨n, le_antisymm ((toUnit_le hn.ge).trans hn.le) (hn.ge.trans (le_toUnit hn.le))⟩
    · refine ⟨roundHalfEven (n / F.unit n) * 2 ^ (F.unitExponent n).toNat, ?_⟩
      unfold toUnit unit
      rw [Int.cast_mul, Int.cast_pow, Int.cast_ofNat, ← zpow_natCast (2 : ℚ), Int.toNat_of_nonneg hgt.le]
  obtain ⟨k, hk⟩ := hint
  have hnonneg : (0 : ℚ) ≤ k := hk ▸ toUnit_nonneg (Nat.cast_nonneg n)
  have hk' : 0 ≤ k := by exact_mod_cast hnonneg
  exact ⟨k.toNat, by rw [hk]; exact_mod_cast (Int.toNat_of_nonneg hk').symm⟩

theorem toUnit_mono (h : 0 ≤ q) (hq : q ≤ q') : F.toUnit q ≤ F.toUnit q' := by
  rcases h.eq_or_lt with rfl | hpos
  · rw [toUnit_of_holds holds_zero]
    exact toUnit_nonneg hq
  have hlog : Int.log 2 q ≤ Int.log 2 q' := Int.log_mono_right hpos hq
  have hexponent : F.unitExponent q ≤ F.unitExponent q' := by
    unfold unitExponent
    omega
  rcases hexponent.eq_or_lt with heq | hlt
  · -- the unit is the same
    have hunit : F.unit q = F.unit q' := by
      unfold unit
      rw [heq]
    unfold toUnit
    rw [hunit]
    refine mul_le_mul_of_nonneg_right ?_ (unit_pos q').le
    exact_mod_cast roundHalfEven_mono (div_le_div_of_nonneg_right hq (unit_pos q').le)
  · -- a power of two is between them
    have hbetween : max F.minExponent (Int.log 2 q + 1) ≤ Int.log 2 q' := by
      have := F.precision_pos
      unfold unitExponent at hlt
      omega
    have hbelow : (2 : ℚ) ^ Int.log 2 q' ≤ q' := by
      exact_mod_cast Int.zpow_log_le_self one_lt_two (hpos.trans_le hq)
    have hunit : F.unitExponent q' ≤ Int.log 2 q' := by
      have := F.precision_pos
      unfold unitExponent at hlt ⊢
      omega
    obtain ⟨k, hk⟩ := zpow_eq_mul_unit hunit
    calc F.toUnit q ≤ 2 ^ max F.minExponent (Int.log 2 q + 1) := toUnit_le_zpow
      _ ≤ 2 ^ Int.log 2 q' := zpow_le_zpow_right₀ one_le_two hbetween
      _ ≤ F.toUnit q' := hk ▸ le_toUnit (hk ▸ hbelow)

/-- **Rounding goes up** with the number. -/
theorem round_mono {r r' : ℚ} (h : 0 ≤ q) (hq : q ≤ q') (hr : F.round q = some r) (hr' : F.round q' = some r') :
    r ≤ r' := by
  obtain ⟨rfl, -⟩ := round_eq_some.mp hr
  obtain ⟨rfl, -⟩ := round_eq_some.mp hr'
  exact toUnit_mono h hq

/-! ## Either sign -/

/-- The number nearest to one of either sign, whatever its exponent. -/
def nearest (F : BinaryFormat) (q : ℚ) : ℚ := if q < 0 then -F.toUnit (-q) else F.toUnit q

theorem nearest_of_holds (h : F.Holds |q|) : F.nearest q = q := by
  unfold nearest
  split
  · rename_i hneg
    rw [abs_of_neg hneg] at h
    rw [toUnit_of_holds h, neg_neg]
  · rename_i hnonneg
    rw [abs_of_nonneg (not_lt.mp hnonneg)] at h
    exact toUnit_of_holds h

theorem nearest_mono (F : BinaryFormat) : Monotone F.nearest := by
  intro q q' hq
  unfold nearest
  split_ifs with hneg hneg' hneg'
  · exact neg_le_neg (toUnit_mono (neg_nonneg.mpr hneg'.le) (neg_le_neg hq))
  · have hbelow := toUnit_nonneg (F := F) (neg_nonneg.mpr hneg.le)
    exact (neg_nonpos.mpr hbelow).trans (toUnit_nonneg (not_lt.mp hneg'))
  · exact absurd (hq.trans_lt hneg') hneg
  · exact toUnit_mono (not_lt.mp hneg) hq

end BinaryFormat

def binary64 : BinaryFormat where
  precision := 53
  minExponent := -1074
  maxExponent := 1024
  precision_pos := by decide

@[ext] structure Double where
  value : ℚ
  holds : binary64.Holds |value|
  deriving DecidableEq

theorem holds_mul_zpow {m : ℕ} {e : ℤ} (hm : m < 2 ^ 53) (he : -1074 ≤ e) (hle : e ≤ 900) :
    binary64.Holds (m * 2 ^ e) := by
  refine ⟨m, e, hm, he, rfl, ?_⟩
  calc (m : ℚ) * 2 ^ e ≤ 2 ^ (53 : ℤ) * 2 ^ (900 : ℤ) := by
        refine mul_le_mul ?_ (zpow_le_zpow_right₀ one_le_two hle) (by positivity) (by positivity)
        exact_mod_cast hm.le
    _ < 2 ^ (1024 : ℤ) := by
        rw [← zpow_add₀ two_ne_zero]
        exact zpow_lt_zpow_right₀ one_lt_two (by norm_num)

/-- A number by its digits and the exponent of its last one. -/
def Double.ofDigits (m : ℕ) (e : ℤ) (hm : m < 2 ^ 53) (he : -1074 ≤ e) (hle : e ≤ 900) : Double where
  value := m * 2 ^ e
  holds := by
    rw [abs_of_nonneg (by positivity)]
    exact holds_mul_zpow hm he hle

end Lib
