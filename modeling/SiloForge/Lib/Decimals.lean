import Mathlib.Algebra.Order.Field.Power
import Mathlib.Tactic.IntervalCases
import Mathlib.Tactic.Positivity
import Mathlib.Tactic.Ring

/-!
# Decimal literals

A decimal literal is made of whole digits, digits of a fraction and an exponent. A decimal is a number of some digits with a
point in front of them, moved by some places.

* `Literal`, `Literal.text`, `Literal.value` : literals, how they are written and what they stand for;
* `readLiteral`, `readLiteral_text` : a literal is read back from its text;
* `Decimal.literal`, `value_literal` : a literal of a decimal, plain or with an exponent, stands for it.
-/

namespace Lib

structure Literal where
  whole : List Char
  fraction : List Char := []
  exponent : Option ℤ := none
  deriving DecidableEq

namespace Literal

def value (l : Literal) : ℚ :=
  Nat.ofDigitChars 10 (l.whole ++ l.fraction) 0 * 10 ^ (l.exponent.getD 0 - l.fraction.length)

def fractionText : List Char → List Char
  | [] => []
  | c :: cs => '.' :: c :: cs

def exponentText : Option ℤ → List Char
  | none => []
  | some e => 'e' :: (if e < 0 then '-' else '+') :: Nat.toDigits 10 e.natAbs

def text (l : Literal) : List Char := l.whole ++ fractionText l.fraction ++ exponentText l.exponent

structure Proper (l : Literal) : Prop where
  whole_ne : l.whole ≠ []
  whole_digits : ∀ c ∈ l.whole, c.isDigit
  fraction_digits : ∀ c ∈ l.fraction, c.isDigit
  leading : l.whole.head? = some '0' → l.whole.length = 1

theorem value_nonneg (l : Literal) : 0 ≤ l.value := by
  unfold value
  positivity

end Literal

/-! ## Reading -/

def readFraction : List Char → Option (List Char × List Char)
  | '.' :: rest =>
    if rest.takeWhile Char.isDigit = [] then none
    else some (rest.takeWhile Char.isDigit, rest.dropWhile Char.isDigit)
  | cs => some ([], cs)

def readExponentDigits (negative : Bool) (cs : List Char) : Option (ℤ × List Char) :=
  let e : ℤ := Nat.ofDigitChars 10 (cs.takeWhile Char.isDigit) 0
  if cs.takeWhile Char.isDigit = [] then none
  else some (if negative then -e else e, cs.dropWhile Char.isDigit)

def readSignedExponent : List Char → Option (ℤ × List Char)
  | '-' :: rest => readExponentDigits true rest
  | '+' :: rest => readExponentDigits false rest
  | cs => readExponentDigits false cs

def readExponent : List Char → Option (Option ℤ × List Char)
  | [] => some (none, [])
  | c :: rest =>
    if c = 'e' ∨ c = 'E' then (readSignedExponent rest).map fun r => (some r.1, r.2) else some (none, c :: rest)

def readLiteral (cs : List Char) : Option (Literal × List Char) := do
  let whole := cs.takeWhile Char.isDigit
  if whole = [] ∨ whole.head? = some '0' ∧ whole.length ≠ 1 then none
  let (fraction, rest) ← readFraction (cs.dropWhile Char.isDigit)
  let (exponent, rest) ← readExponent rest
  return ({ whole, fraction, exponent }, rest)

/-- A literal does not go on in what is behind it. -/
def EndsLiteral (rest : List Char) : Prop := ∀ c ∈ rest.head?, ¬ c.isDigit ∧ c ≠ '.' ∧ c ≠ 'e' ∧ c ≠ 'E'

theorem endsLiteral_nil : EndsLiteral [] := nofun

variable {rest : List Char}

theorem takeWhile_digits {ds : List Char} (hds : ∀ c ∈ ds, c.isDigit) (hrest : ∀ c ∈ rest.head?, ¬ c.isDigit) :
    (ds ++ rest).takeWhile Char.isDigit = ds := by
  rw [List.takeWhile_append_of_pos hds]
  cases rest with
  | nil => simp
  | cons c rest => simp [hrest c rfl]

theorem dropWhile_digits {ds : List Char} (hds : ∀ c ∈ ds, c.isDigit) (hrest : ∀ c ∈ rest.head?, ¬ c.isDigit) :
    (ds ++ rest).dropWhile Char.isDigit = rest := by
  rw [List.dropWhile_append_of_pos hds]
  cases rest with
  | nil => rfl
  | cons c rest => simp [hrest c rfl]

theorem isDigit_of_mem_toDigits {n : ℕ} {c : Char} (h : c ∈ Nat.toDigits 10 n) : c.isDigit :=
  Nat.isDigit_of_mem_toDigits (by decide) (by decide) h

theorem readExponentDigits_toDigits (negative : Bool) (n : ℕ) (hrest : ∀ c ∈ rest.head?, ¬ c.isDigit) :
    readExponentDigits negative (Nat.toDigits 10 n ++ rest) = some (if negative then -(n : ℤ) else n, rest) := by
  have hds : ∀ c ∈ Nat.toDigits 10 n, c.isDigit := fun c => isDigit_of_mem_toDigits
  unfold readExponentDigits
  rw [takeWhile_digits hds hrest, dropWhile_digits hds hrest, if_neg Nat.toDigits_ne_nil, Nat.ofDigitChars_ten_toDigits]

theorem readExponent_text (e : Option ℤ) (hrest : EndsLiteral rest) :
    readExponent (Literal.exponentText e ++ rest) = some (e, rest) := by
  cases e with
  | none =>
    cases rest with
    | nil => rfl
    | cons c rest =>
      obtain ⟨-, -, he, hE⟩ := hrest c rfl
      show (if c = 'e' ∨ c = 'E' then _ else _) = _
      rw [if_neg (not_or.mpr ⟨he, hE⟩)]
  | some e =>
    have hdigits := fun negative => readExponentDigits_toDigits negative e.natAbs (fun c hc => (hrest c hc).1)
    change readExponent ('e' :: (if e < 0 then '-' else '+') :: (Nat.toDigits 10 e.natAbs ++ rest)) = _
    by_cases hneg : e < 0
    · rw [if_pos hneg]
      show (readExponentDigits true (Nat.toDigits 10 e.natAbs ++ rest)).map _ = _
      rw [hdigits true, if_pos rfl, Option.map_some, show -(e.natAbs : ℤ) = e by omega]
    · rw [if_neg hneg]
      show (readExponentDigits false (Nat.toDigits 10 e.natAbs ++ rest)).map _ = _
      rw [hdigits false, if_neg Bool.false_ne_true, Option.map_some, show (e.natAbs : ℤ) = e by omega]

theorem head?_exponentText (e : Option ℤ) (hrest : EndsLiteral rest) :
    ∀ c ∈ (Literal.exponentText e ++ rest).head?, ¬ c.isDigit ∧ c ≠ '.' := by
  cases e with
  | none => exact fun c hc => ⟨(hrest c hc).1, (hrest c hc).2.1⟩
  | some e =>
    intro c hc
    obtain rfl : 'e' = c := Option.some.inj hc
    decide

theorem readFraction_text {fraction : List Char} (hfraction : ∀ c ∈ fraction, c.isDigit)
    (hrest : ∀ c ∈ rest.head?, ¬ c.isDigit ∧ c ≠ '.') :
    readFraction (Literal.fractionText fraction ++ rest) = some (fraction, rest) := by
  have hdigit : ∀ c ∈ rest.head?, ¬ c.isDigit := fun c hc => (hrest c hc).1
  cases fraction with
  | nil =>
    show readFraction rest = _
    unfold readFraction
    split
    · exact absurd rfl (hrest '.' rfl).2
    · rfl
  | cons c cs =>
    change (if (c :: cs ++ rest).takeWhile Char.isDigit = [] then none
      else some ((c :: cs ++ rest).takeWhile Char.isDigit, (c :: cs ++ rest).dropWhile Char.isDigit)) = _
    rw [takeWhile_digits hfraction hdigit, dropWhile_digits hfraction hdigit, if_neg (List.cons_ne_nil c cs)]

/-- **A literal is read back** from its text. -/
theorem readLiteral_text {l : Literal} (h : l.Proper) (hrest : EndsLiteral rest) :
    readLiteral (l.text ++ rest) = some (l, rest) := by
  have hexponent := head?_exponentText l.exponent hrest
  have hbehind : ∀ c ∈ (Literal.fractionText l.fraction ++ (Literal.exponentText l.exponent ++ rest)).head?,
      ¬ c.isDigit := by
    cases hfraction : l.fraction with
    | nil => exact fun c hc => (hexponent c hc).1
    | cons c cs =>
      intro d hd
      obtain rfl : '.' = d := Option.some.inj hd
      decide
  unfold readLiteral Literal.text
  rw [List.append_assoc, List.append_assoc, takeWhile_digits h.whole_digits hbehind,
    dropWhile_digits h.whole_digits hbehind, readFraction_text h.fraction_digits hexponent]
  have hok : ¬ (l.whole = [] ∨ l.whole.head? = some '0' ∧ l.whole.length ≠ 1) := by
    rintro (hnil | ⟨hzero, hlength⟩)
    · exact h.whole_ne hnil
    · exact hlength (h.leading hzero)
  simp only [if_neg hok]
  show (readExponent (Literal.exponentText l.exponent ++ rest)).bind _ = _
  rw [readExponent_text l.exponent hrest]
  rfl

theorem mem_text {l : Literal} (h : l.Proper) {c : Char} (hc : c ∈ l.text) :
    c.isDigit ∨ c = '.' ∨ c = 'e' ∨ c = '-' ∨ c = '+' := by
  rcases List.mem_append.mp hc with hc | hc
  · rcases List.mem_append.mp hc with hc | hc
    · exact .inl (h.whole_digits c hc)
    · cases hfraction : l.fraction with
      | nil =>
        rw [hfraction] at hc
        cases hc
      | cons d ds =>
        rw [hfraction] at hc
        rcases List.mem_cons.mp hc with rfl | hc
        · exact .inr (.inl rfl)
        · exact .inl (h.fraction_digits c (hfraction ▸ hc))
  · cases hexponent : l.exponent with
    | none =>
      rw [hexponent] at hc
      cases hc
    | some e =>
      rw [hexponent] at hc
      rcases List.mem_cons.mp hc with rfl | hc
      · exact .inr (.inr (.inl rfl))
      rcases List.mem_cons.mp hc with hsign | hc
      · split at hsign
        · exact .inr (.inr (.inr (.inl hsign)))
        · exact .inr (.inr (.inr (.inr hsign)))
      · exact .inl (isDigit_of_mem_toDigits hc)

/-! ## Decimals -/

/-- A number of `count` digits, with the point behind the first `point` of them. -/
structure Decimal where
  digits : ℕ
  count : ℕ
  point : ℤ
  count_pos : 0 < count
  low : 10 ^ (count - 1) ≤ digits
  high : digits < 10 ^ count

namespace Decimal
variable (d : Decimal)

def value : ℚ := d.digits * 10 ^ (d.point - d.count)

theorem digits_pos : 0 < d.digits := lt_of_lt_of_le (by positivity) d.low

theorem length_digits : (Nat.toDigits 10 d.digits).length = d.count := by
  have hle : (Nat.toDigits 10 d.digits).length ≤ d.count :=
    (Nat.length_toDigits_le_iff (by decide) d.count_pos).mpr d.high
  rcases Nat.lt_or_ge (Nat.toDigits 10 d.digits).length d.count with hlt | hge
  · -- with fewer digits it would be too small
    have hpos : 0 < d.count - 1 := by
      have := Nat.length_toDigits_pos (b := 10) (n := d.digits)
      omega
    have hhigh := (Nat.length_toDigits_le_iff (b := 10) (n := d.digits) (by decide) hpos).mp (by omega)
    exact absurd d.low (not_le.mpr hhigh)
  · exact le_antisymm hle hge

theorem head?_toDigits {n : ℕ} (h : 0 < n) : (Nat.toDigits 10 n).head? ≠ some '0' := by
  induction n using Nat.strong_induction_on with
  | _ n ih =>
    rcases Nat.lt_or_ge n 10 with hlt | hge
    · rw [Nat.toDigits_of_lt_base hlt]
      interval_cases n <;> decide
    · rw [Nat.toDigits_of_base_le (by decide) hge, List.head?_append_of_ne_nil _ Nat.toDigits_ne_nil]
      exact ih (n / 10) (by omega) (by omega)

def ofNat (n : ℕ) (h : 0 < n) (places : ℤ) : Decimal where
  digits := n
  count := (Nat.toDigits 10 n).length
  point := (Nat.toDigits 10 n).length + places
  count_pos := Nat.length_toDigits_pos
  low := by
    rcases Nat.eq_zero_or_pos ((Nat.toDigits 10 n).length - 1) with hzero | hpos
    · rw [hzero, pow_zero]
      exact h
    · have hlength := Nat.length_toDigits_pos (b := 10) (n := n)
      refine not_lt.mp fun hlt => ?_
      have := (Nat.length_toDigits_le_iff (by decide) hpos).mpr hlt
      omega
  high := (Nat.length_toDigits_le_iff (by decide) Nat.length_toDigits_pos).mp le_rfl

theorem value_ofNat (n : ℕ) (h : 0 < n) (places : ℤ) : (ofNat n h places).value = n * 10 ^ places := by
  show (n : ℚ) * 10 ^ ((Nat.toDigits 10 n).length + places - (Nat.toDigits 10 n).length) = _
  rw [add_sub_cancel_left]

theorem count_ofNat_le {n k : ℕ} (h : 0 < n) {places : ℤ} (hk : 0 < k) (hn : n < 10 ^ k) : (ofNat n h places).count ≤ k :=
  (Nat.length_toDigits_le_iff (by decide) hk).mpr hn

theorem zpow_le_value : (10 : ℚ) ^ (d.point - 1) ≤ d.value := by
  have hlow : (10 : ℚ) ^ (d.count - 1) ≤ d.digits := by exact_mod_cast d.low
  have hsplit : (10 : ℚ) ^ (d.point - 1) = 10 ^ (d.count - 1) * 10 ^ (d.point - d.count) := by
    have hpos := d.count_pos
    rw [← zpow_natCast, ← zpow_add₀ (by norm_num)]
    congr 1
    omega
  rw [hsplit]
  exact mul_le_mul_of_nonneg_right hlow (by positivity)

theorem value_lt_zpow : d.value < (10 : ℚ) ^ d.point := by
  have hhigh : (d.digits : ℚ) < 10 ^ d.count := by exact_mod_cast d.high
  have hsplit : (10 : ℚ) ^ d.point = 10 ^ d.count * 10 ^ (d.point - d.count) := by
    rw [← zpow_natCast, ← zpow_add₀ (by norm_num)]
    congr 1
    omega
  rw [hsplit]
  exact mul_lt_mul_of_pos_right hhigh (by positivity)

theorem value_pos : 0 < d.value := lt_of_lt_of_le (by positivity) d.zpow_le_value

/-- The literal of a decimal: plain where the point is near its digits, with an exponent elsewhere. -/
def literal : Literal :=
  let ds := Nat.toDigits 10 d.digits
  if d.count ≤ d.point ∧ d.point ≤ 21 then { whole := ds ++ List.replicate (d.point - d.count).toNat '0' }
  else if 0 < d.point ∧ d.point ≤ 21 then { whole := ds.take d.point.toNat, fraction := ds.drop d.point.toNat }
  else if -6 < d.point ∧ d.point ≤ 0 then
    { whole := ['0'], fraction := List.replicate (-d.point).toNat '0' ++ ds }
  else { whole := ds.take 1, fraction := ds.drop 1, exponent := some (d.point - 1) }

/-- **The literal of a decimal** stands for it. -/
theorem value_literal : d.literal.value = d.value := by
  have hread : Nat.ofDigitChars 10 (Nat.toDigits 10 d.digits) 0 = d.digits := Nat.ofDigitChars_ten_toDigits
  have hlength := d.length_digits
  have hpos := d.count_pos
  unfold literal value Literal.value
  dsimp only
  split_ifs with hwhole hinside hsmall
  · rw [List.append_nil, Nat.ofDigitChars_append, hread, Nat.ofDigitChars_replicate_zero, Nat.cast_mul, Nat.cast_pow,
      ← zpow_natCast, mul_comm ((Nat.cast 10 : ℚ) ^ _), mul_assoc]
    congr 1
    rw [Nat.cast_ofNat, ← zpow_add₀ (by norm_num)]
    congr 1
    simp only [Option.getD_none, List.length_nil]
    omega
  · rw [List.take_append_drop, hread]
    congr 2
    simp only [Option.getD_none, List.length_drop]
    omega
  · have hzeros : Nat.ofDigitChars 10 (['0'] ++ (List.replicate (-d.point).toNat '0' ++ Nat.toDigits 10 d.digits)) 0 =
        d.digits := by
      rw [Nat.ofDigitChars_append, Nat.ofDigitChars_append]
      show Nat.ofDigitChars 10 (Nat.toDigits 10 d.digits)
        (Nat.ofDigitChars 10 (List.replicate (-d.point).toNat '0') 0) = d.digits
      rw [Nat.ofDigitChars_replicate_zero, Nat.mul_zero, hread]
    rw [hzeros]
    congr 2
    simp only [Option.getD_none, List.length_append, List.length_replicate]
    omega
  · rw [List.take_append_drop, hread]
    congr 2
    simp only [Option.getD_some, List.length_drop]
    omega

theorem proper_literal : d.literal.Proper := by
  have hdigit : ∀ c ∈ Nat.toDigits 10 d.digits, c.isDigit := fun c => isDigit_of_mem_toDigits
  have hzero : ∀ n, ∀ c ∈ List.replicate n '0', c.isDigit := fun n c hc => List.eq_of_mem_replicate hc ▸ by decide
  have hhead : (Nat.toDigits 10 d.digits).head? ≠ some '0' := head?_toDigits d.digits_pos
  have hne : Nat.toDigits 10 d.digits ≠ [] := Nat.toDigits_ne_nil
  have htake : ∀ {n}, 0 < n → ((Nat.toDigits 10 d.digits).take n).head? = (Nat.toDigits 10 d.digits).head? := by
    intro n hn
    rw [List.head?_take, if_neg hn.ne']
  have hfirst : ∀ {n}, 0 < n → (Nat.toDigits 10 d.digits).take n ≠ [] := by
    intro n hn hnil
    have hnone := htake hn
    rw [hnil] at hnone
    exact hne (List.head?_eq_none_iff.mp hnone.symm)
  unfold literal
  dsimp only
  split_ifs with hwhole hinside hsmall
  · constructor
    · exact fun hnil => hne (List.append_eq_nil_iff.mp hnil).1
    · exact fun c hc => (List.mem_append.mp hc).elim (hdigit c) (hzero _ c)
    · exact nofun
    · intro h
      exact absurd ((List.head?_append_of_ne_nil _ hne).symm.trans h) hhead
  · have hn : 0 < d.point.toNat := by omega
    constructor
    · exact hfirst hn
    · exact fun c hc => hdigit c (List.mem_of_mem_take hc)
    · exact fun c hc => hdigit c (List.mem_of_mem_drop hc)
    · intro h
      exact absurd ((htake hn).symm.trans h) hhead
  · constructor
    · exact List.cons_ne_nil _ _
    · exact fun c hc => List.mem_singleton.mp hc ▸ by decide
    · exact fun c hc => (List.mem_append.mp hc).elim (hzero _ c) (hdigit c)
    · exact fun _ => rfl
  · constructor
    · exact hfirst one_pos
    · exact fun c hc => hdigit c (List.mem_of_mem_take hc)
    · exact fun c hc => hdigit c (List.mem_of_mem_drop hc)
    · intro h
      exact absurd ((htake one_pos).symm.trans h) hhead

end Decimal

end Lib
