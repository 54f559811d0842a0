import SiloForge.Contracts.Equality
import SiloForge.Lib.Decimals
import SiloForge.Lib.Rounding
import SiloForge.Skills.RoundTrip

/-!
# Numbers in the browser

The browser holds a number as a float of 64 bits, and writes it with as few digits as tell it apart, with an exponent
where it is large or small. Zero has one sign here.

* `Number`, `Number.ofRat` : numbers, and rounding to one;
* `NumberTexts`, `Number.toString` : the digits of numbers, and their texts;
* `Double.ofLiteral_literal` : a number is read back from its literal;
* `Double.Plain`, `exponent_literal_iff` : the numbers that are written without an exponent.
-/

namespace SiloForge.Frontend

open Lib

/-! ## Numbers -/

abbrev Double := Lib.Double

inductive Number where
  | finite (x : Double)
  | infinite (negative : Bool)
  deriving DecidableEq

def Double.signed (negative : Bool) (q : ℚ) (h : binary64.Holds q) (hq : 0 ≤ q) : Double where
  value := if negative then -q else q
  holds := by
    cases negative
    · rwa [if_neg Bool.false_ne_true, abs_of_nonneg hq]
    · rwa [if_pos rfl, abs_neg, abs_of_nonneg hq]

theorem holds_nonneg {q : ℚ} (h : binary64.Holds q) : 0 ≤ q := by
  obtain ⟨m, e, -, -, rfl, -⟩ := h
  positivity

/-- The number that is nearest to one with a sign. -/
def Number.ofMagnitude (negative : Bool) (q : ℚ) (hq : 0 ≤ q) : Number :=
  match h : binary64.round q with
  | some r => .finite (.signed negative r (BinaryFormat.holds_round hq h) (holds_nonneg (BinaryFormat.holds_round hq h)))
  | none => .infinite negative

def Number.ofRat (q : ℚ) : Number := .ofMagnitude (q < 0) |q| (abs_nonneg q)

def Number.ofLiteral (negative : Bool) (l : Literal) : Number := .ofMagnitude negative l.value l.value_nonneg

/-! ## Texts of numbers -/

/-- The digits `Number::toString` picks: as few as tell the number apart. Which of these it picks is left open. -/
structure NumberTexts where
  decimal : Double → Decimal
  spells : ∀ x : Double, x.value ≠ 0 → binary64.round (decimal x).value = some |x.value|
  shortest : ∀ (x : Double) (d : Decimal), x.value ≠ 0 → binary64.round d.value = some |x.value| →
    (decimal x).count ≤ d.count

section Texts
variable (numbers : NumberTexts)

/-- The literal of a number without its sign. -/
def Double.literal (x : Double) : Literal := if x.value = 0 then { whole := ['0'] } else (numbers.decimal x).literal

def Double.text (x : Double) : List Char := (if x.value < 0 then ['-'] else []) ++ (x.literal numbers).text

def Number.toString : Number → List Char
  | .finite x => x.text numbers
  | .infinite negative => (if negative then ['-'] else []) ++ "Infinity".toList

end Texts

/-! ## Reading -/

def skipSpace (cs : List Char) : List Char := cs.dropWhile Skills.Frontend.isTrimmed

def splitSign : List Char → Bool × List Char
  | '-' :: rest => (true, rest)
  | '+' :: rest => (false, rest)
  | cs => (false, cs)

/-- `parseInt` with the radix ten; there is none for `NaN`. -/
def parseInt (cs : List Char) : Option Number :=
  let (negative, rest) := splitSign (skipSpace cs)
  let digits := rest.takeWhile Char.isDigit
  if digits = [] then none else some (.ofLiteral negative { whole := digits })

/-- The longest literal a text begins with. -/
def prefixLiteral? (cs : List Char) : Option Literal :=
  let whole := cs.takeWhile Char.isDigit
  let (fraction, rest) :=
    match cs.dropWhile Char.isDigit with
    | '.' :: rest => (rest.takeWhile Char.isDigit, rest.dropWhile Char.isDigit)
    | rest => ([], rest)
  if whole = [] ∧ fraction = [] then none
  else some { whole, fraction, exponent := (readExponent rest).bind Prod.fst }

/-- `parseFloat`; there is none for `NaN`. -/
def parseFloat (cs : List Char) : Option Number :=
  let (negative, rest) := splitSign (skipSpace cs)
  if "Infinity".toList <+: rest then some (.infinite negative) else (prefixLiteral? rest).map (.ofLiteral negative)

def withoutMinus : List Char → List Char
  | '-' :: rest => rest
  | cs => cs

/-- `/^-?\d+$/`. -/
def isIntegerText (cs : List Char) : Bool := withoutMinus cs ≠ [] && (withoutMinus cs).all Char.isDigit

/-- `/^-?\d+(\.\d+)?$/`. -/
def isDecimalText (cs : List Char) : Bool :=
  (withoutMinus cs).takeWhile Char.isDigit ≠ [] &&
    match (withoutMinus cs).dropWhile Char.isDigit with
    | [] => true
    | '.' :: rest => rest ≠ [] && rest.all Char.isDigit
    | _ => false

def readNumber? : List Char → Option (Number × List Char)
  | '-' :: rest => (readLiteral rest).map fun r => (.ofLiteral true r.1, r.2)
  | cs => (readLiteral cs).map fun r => (.ofLiteral false r.1, r.2)

/-! ## A number is read back -/

theorem Number.ofMagnitude_of_some {negative : Bool} {q : ℚ} {hq : 0 ≤ q} {x : Double}
    (hround : binary64.round q = some |x.value|) (hsign : x.value = if negative then -|x.value| else |x.value|) :
    Number.ofMagnitude negative q hq = .finite x := by
  unfold Number.ofMagnitude
  split
  · rename_i r hr
    obtain rfl : r = |x.value| := Option.some.inj (hr.symm.trans hround)
    exact congrArg Number.finite (Double.ext hsign.symm)
  · rename_i hr
    rw [hround] at hr
    cases hr

theorem Number.round_of_ofMagnitude {negative : Bool} {q : ℚ} {hq : 0 ≤ q} {x : Double}
    (h : Number.ofMagnitude negative q hq = .finite x) : binary64.round q = some |x.value| := by
  unfold Number.ofMagnitude at h
  split at h
  · rename_i r hr
    obtain rfl := Number.finite.inj h
    have hnonneg := holds_nonneg (BinaryFormat.holds_round hq hr)
    refine hr.trans (congrArg some ?_)
    cases negative
    · exact (abs_of_nonneg hnonneg).symm
    · exact ((abs_neg r).trans (abs_of_nonneg hnonneg)).symm
  · cases h

theorem Double.value_eq_signed (x : Double) : x.value = if decide (x.value < 0) then -|x.value| else |x.value| := by
  by_cases h : x.value < 0
  · rw [if_pos (by simpa using h), abs_of_neg h, neg_neg]
  · rw [if_neg (by simpa using h), abs_of_nonneg (not_lt.mp h)]

section ReadBack
variable (numbers : NumberTexts) (x : Double)

theorem Double.proper_literal : (x.literal numbers).Proper := by
  unfold Double.literal
  split
  · constructor
    · exact List.cons_ne_nil _ _
    · exact fun c hc => List.mem_singleton.mp hc ▸ by decide
    · exact nofun
    · exact fun _ => rfl
  · exact (numbers.decimal x).proper_literal

theorem Double.round_literal : binary64.round (x.literal numbers).value = some |x.value| := by
  unfold Double.literal
  split
  · rename_i hzero
    have hvalue : ({ whole := ['0'] } : Literal).value = 0 := by
      unfold Literal.value
      exact zero_mul _
    rw [hvalue, hzero, abs_zero]
    exact BinaryFormat.round_of_holds BinaryFormat.holds_zero
  · rename_i hne
    rw [Decimal.value_literal]
    exact numbers.spells x hne

/-- **A number is read back** from its literal and its sign. -/
theorem Double.ofLiteral_literal : Number.ofLiteral (x.value < 0) (x.literal numbers) = .finite x :=
  Number.ofMagnitude_of_some (x.round_literal numbers) x.value_eq_signed

theorem Double.head?_literal : ∃ c ∈ (x.literal numbers).text.head?, c.isDigit := by
  have hproper := x.proper_literal numbers
  obtain ⟨c, cs, hwhole⟩ := List.exists_cons_of_ne_nil hproper.whole_ne
  refine ⟨c, ?_, hproper.whole_digits c (hwhole ▸ List.mem_cons_self)⟩
  unfold Literal.text
  rw [hwhole]
  rfl

theorem isTrimmed_digit {c : Char} (h : c.isDigit) : Skills.Frontend.isTrimmed c = false ∧ c ≠ '-' ∧ c ≠ '+' := by
  obtain ⟨hlow, hhigh⟩ := Char.isDigit_iff_toNat.mp h
  have hrange : 48 ≤ c.toNat ∧ c.toNat ≤ 57 := ⟨hlow, hhigh⟩
  refine ⟨?_, ?_, ?_⟩
  · simp [Skills.Frontend.isTrimmed]
    omega
  · rintro rfl
    exact absurd hrange.1 (by decide)
  · rintro rfl
    exact absurd hrange.1 (by decide)

theorem Double.isTrimmed_text {c : Char} (hc : c ∈ x.text numbers) : Skills.Frontend.isTrimmed c = false := by
  rcases List.mem_append.mp hc with hc | hc
  · split at hc
    · rw [List.mem_singleton.mp hc]
      decide
    · cases hc
  · rcases mem_text (x.proper_literal numbers) hc with hdigit | rfl | rfl | rfl | rfl
    · exact (isTrimmed_digit hdigit).1
    all_goals decide

theorem Double.splitSign_text : splitSign (x.text numbers) = (decide (x.value < 0), (x.literal numbers).text) := by
  obtain ⟨c, hc, hdigit⟩ := x.head?_literal numbers
  obtain ⟨rest, htext⟩ := List.head?_eq_some_iff.mp hc
  obtain ⟨-, hminus, hplus⟩ := isTrimmed_digit hdigit
  unfold Double.text
  split
  · rename_i hneg
    rw [decide_eq_true hneg]
    rfl
  · rename_i hneg
    rw [decide_eq_false hneg, htext]
    unfold splitSign
    split
    · rename_i h
      exact absurd (List.cons.inj h).1 hminus
    · rename_i h
      exact absurd (List.cons.inj h).1 hplus
    · rfl

theorem Double.skipSpace_text : skipSpace (x.text numbers) = x.text numbers := by
  unfold skipSpace
  rw [List.dropWhile_eq_self_iff]
  intro hpos
  rw [x.isTrimmed_text numbers (List.getElem_mem hpos)]
  exact Bool.false_ne_true

theorem Double.withoutMinus_text : withoutMinus (x.text numbers) = (x.literal numbers).text := by
  obtain ⟨c, hc, hdigit⟩ := x.head?_literal numbers
  obtain ⟨cs, htext⟩ := List.head?_eq_some_iff.mp hc
  unfold Double.text
  split
  · rfl
  · rw [List.nil_append, htext]
    unfold withoutMinus
    split
    · rename_i h
      exact absurd (List.cons.inj h).1 (isTrimmed_digit hdigit).2.1
    · rfl

theorem Double.readNumber?_text {rest : List Char} (hrest : EndsLiteral rest) :
    readNumber? (x.text numbers ++ rest) = some (.finite x, rest) := by
  have hread := readLiteral_text (x.proper_literal numbers) hrest
  have hsign := x.ofLiteral_literal numbers
  obtain ⟨c, hc, hdigit⟩ := x.head?_literal numbers
  obtain ⟨cs, htext⟩ := List.head?_eq_some_iff.mp hc
  unfold Double.text
  by_cases hneg : x.value < 0
  · rw [decide_eq_true hneg] at hsign
    rw [if_pos hneg]
    show (readLiteral ((x.literal numbers).text ++ rest)).map _ = _
    rw [hread, Option.map_some, hsign]
  · rw [decide_eq_false hneg] at hsign
    rw [if_neg hneg, List.nil_append]
    unfold readNumber?
    split
    · rename_i h
      rw [htext] at h
      exact absurd (List.cons.inj h).1 (isTrimmed_digit hdigit).2.1
    · rw [hread, Option.map_some, hsign]

end ReadBack

/-! ## Numbers without an exponent -/

def millionth : ℚ := binary64.toUnit (10 ^ (-6 : ℤ))

/-- Zero, and the numbers that are neither small nor large. -/
def Double.Plain (x : Double) : Prop := x.value = 0 ∨ millionth ≤ |x.value| ∧ |x.value| < 10 ^ 21

theorem holds_pow_ten {n : ℕ} (h : n ≤ 22) : binary64.Holds (10 ^ n) := by
  have hm : 5 ^ n < 2 ^ 53 := lt_of_le_of_lt (Nat.pow_le_pow_right (by decide) h) (by decide)
  have hholds := holds_mul_zpow (e := n) hm (by omega) (by omega)
  have hten : ((5 ^ n : ℕ) : ℚ) * 2 ^ (n : ℤ) = 10 ^ n := by
    rw [Nat.cast_pow, zpow_natCast, ← mul_pow]
    norm_num
  rwa [hten] at hholds

section Plain
variable (numbers : NumberTexts) {x : Double}

/-- **Where the point of a number is**, if the numbers of one digit below a power of ten are told apart from it. -/
theorem lt_point_iff (hx : x.value ≠ 0) {j : ℤ} {r s t : ℚ} (hr : binary64.Holds r) (hs : binary64.Holds s)
    (hnine : 9 * 10 ^ (j - 1) ≤ r) (hlt : r < s) (hten : s ≤ 10 ^ j) (ht : binary64.round (10 ^ j) = some t) :
    j < (numbers.decimal x).point ↔ t ≤ |x.value| := by
  have hspells := numbers.spells x hx
  have hpos : (0 : ℚ) ≤ (numbers.decimal x).value := (numbers.decimal x).value_pos.le
  constructor
  · intro hpoint
    have hle : (10 : ℚ) ^ j ≤ (numbers.decimal x).value :=
      (zpow_le_zpow_right₀ (by norm_num) (by omega)).trans (numbers.decimal x).zpow_le_value
    exact BinaryFormat.round_mono (by positivity) hle ht hspells
  · intro htx
    refine not_le.mp fun hpoint => ?_
    have hbelow : (numbers.decimal x).value ≤ 10 ^ j :=
      (numbers.decimal x).value_lt_zpow.le.trans (zpow_le_zpow_right₀ (by norm_num) hpoint)
    have heq : t = |x.value| := le_antisymm htx (BinaryFormat.round_mono hpos hbelow hspells ht)
    -- the power of ten has one digit, so that the number has one too
    have hone : (numbers.decimal x).count ≤ 1 := by
      refine (numbers.shortest x (.ofNat 1 one_pos j) hx ?_).trans (Decimal.count_ofNat_le one_pos one_pos (by decide))
      rw [Decimal.value_ofNat, Nat.cast_one, one_mul, ht, heq]
    have hcount : (numbers.decimal x).count = 1 := le_antisymm hone (numbers.decimal x).count_pos
    have hdigit : ((numbers.decimal x).digits : ℚ) ≤ 9 := by
      have hhigh := (numbers.decimal x).high
      rw [hcount, pow_one] at hhigh
      exact_mod_cast Nat.le_of_lt_succ hhigh
    have hsmall : (numbers.decimal x).value ≤ r := by
      unfold Decimal.value
      rw [hcount]
      calc ((numbers.decimal x).digits : ℚ) * 10 ^ ((numbers.decimal x).point - (1 : ℕ))
          ≤ 9 * 10 ^ (j - 1) := by
            refine mul_le_mul hdigit (zpow_le_zpow_right₀ (by norm_num) ?_) (by positivity) (by norm_num)
            push_cast
            omega
        _ ≤ r := hnine
    have hxr : |x.value| ≤ r := BinaryFormat.round_mono hpos hsmall hspells (BinaryFormat.round_of_holds hr)
    have hrt : s ≤ t := BinaryFormat.round_mono (holds_nonneg hs) hten (BinaryFormat.round_of_holds hs) ht
    linarith

theorem twentyOne_lt_point_iff (hx : x.value ≠ 0) : 21 < (numbers.decimal x).point ↔ 10 ^ 21 ≤ |x.value| := by
  have hround : binary64.round (10 ^ (21 : ℤ)) = some (10 ^ 21) := BinaryFormat.round_of_holds (holds_pow_ten (by decide))
  refine lt_point_iff numbers hx (r := (9 * 5 ^ 20 : ℕ) * 2 ^ (20 : ℤ)) (holds_mul_zpow (by decide) (by decide) (by decide))
    (holds_pow_ten (n := 21) (by decide)) ?_ ?_ ?_ hround
  all_goals norm_num

theorem zero_lt_point_iff (hx : x.value ≠ 0) : 0 < (numbers.decimal x).point ↔ 1 ≤ |x.value| := by
  have hround : binary64.round (10 ^ (0 : ℤ)) = some (10 ^ 0) := BinaryFormat.round_of_holds (holds_pow_ten (by decide))
  rw [← pow_zero (10 : ℚ)]
  refine lt_point_iff numbers hx (r := (15 : ℕ) * 2 ^ (-4 : ℤ)) (holds_mul_zpow (by decide) (by decide) (by decide))
    (holds_pow_ten (n := 0) (by decide)) ?_ ?_ ?_ hround
  all_goals norm_num

theorem round_millionth : binary64.round (10 ^ (-6 : ℤ)) = some millionth := by
  have hone : binary64.toUnit (10 ^ (-6 : ℤ)) ≤ binary64.toUnit 1 := BinaryFormat.toUnit_mono (by positivity) (by norm_num)
  have hholds : binary64.Holds 1 := by simpa using holds_pow_ten (n := 0) (by decide)
  rw [BinaryFormat.toUnit_of_holds hholds] at hone
  refine BinaryFormat.round_eq_some.mpr ⟨rfl, lt_of_le_of_lt hone ?_⟩
  exact one_lt_zpow₀ one_lt_two (by decide)

theorem minusSix_lt_point_iff (hx : x.value ≠ 0) : -6 < (numbers.decimal x).point ↔ millionth ≤ |x.value| := by
  refine lt_point_iff numbers hx (r := (1 : ℕ) * 2 ^ (-20 : ℤ)) (s := (1025 : ℕ) * 2 ^ (-30 : ℤ))
    (holds_mul_zpow (by decide) (by decide) (by decide)) (holds_mul_zpow (by decide) (by decide) (by decide)) ?_ ?_ ?_
    round_millionth
  all_goals norm_num

/-- **The plain numbers** are those that are written without an exponent. -/
theorem exponent_literal_iff : (x.literal numbers).exponent = none ↔ x.Plain := by
  unfold Double.literal Double.Plain
  by_cases hx : x.value = 0
  · rw [if_pos hx]
    exact iff_of_true rfl (.inl hx)
  · have hlarge : |x.value| < 10 ^ 21 ↔ ¬ 21 < (numbers.decimal x).point := by
      rw [twentyOne_lt_point_iff numbers hx, not_le]
    rw [if_neg hx, or_iff_right hx, ← minusSix_lt_point_iff numbers hx, hlarge]
    unfold Decimal.literal
    dsimp only
    split_ifs <;> simp <;> omega

/-- **A plain integer** is written without a fraction. -/
theorem literal_of_integer {n : ℕ} (hn : |x.value| = n) (hlt : |x.value| < 10 ^ 21) :
    (x.literal numbers).fraction = [] ∧ (x.literal numbers).exponent = none := by
  unfold Double.literal
  split
  · exact ⟨rfl, rfl⟩
  rename_i hx
  have hpos : 0 < n := by
    have habs : 0 < |x.value| := abs_pos.mpr hx
    rw [hn] at habs
    exact_mod_cast habs
  have hpoint : 0 < (numbers.decimal x).point := by
    rw [zero_lt_point_iff numbers hx, hn]
    exact_mod_cast hpos
  have hlow : (numbers.decimal x).point ≤ 21 := by
    rw [← not_lt, twentyOne_lt_point_iff numbers hx, not_le]
    exact hlt
  obtain ⟨p, hp⟩ : ∃ p : ℕ, (numbers.decimal x).point = p := ⟨_, (Int.toNat_of_nonneg hpoint.le).symm⟩
  have hle : n ≤ 10 ^ p := by
    have hvalue : (numbers.decimal x).value ≤ 10 ^ p := by
      have := (numbers.decimal x).value_lt_zpow
      rw [hp, zpow_natCast] at this
      exact this.le
    have hround := BinaryFormat.round_mono (numbers.decimal x).value_pos.le hvalue (numbers.spells x hx)
      (BinaryFormat.round_of_holds (holds_pow_ten (by omega)))
    rw [hn] at hround
    exact_mod_cast hround
  have hholds : binary64.round |x.value| = some |x.value| := BinaryFormat.round_of_holds x.holds
  -- the integer has no more digits than stand in front of its point
  have hcount : (numbers.decimal x).count ≤ p := by
    rcases hle.lt_or_eq with hlt | heq
    · refine (numbers.shortest x (.ofNat n hpos 0) hx ?_).trans (Decimal.count_ofNat_le hpos (by omega) hlt)
      rw [Decimal.value_ofNat, zpow_zero, mul_one, ← hn]
      exact hholds
    · refine (numbers.shortest x (.ofNat 1 one_pos p) hx ?_).trans
        ((Decimal.count_ofNat_le one_pos one_pos (by decide)).trans (by omega))
      rw [Decimal.value_ofNat, Nat.cast_one, one_mul, zpow_natCast]
      have hpow : (10 : ℚ) ^ p = |x.value| := by
        rw [hn, heq]
        push_cast
        rfl
      rw [hpow]
      exact hholds
  unfold Decimal.literal
  dsimp only
  rw [if_pos (by omega)]
  exact ⟨rfl, rfl⟩

end Plain

/-! ## Reading the text of a number -/

section Parsing
variable (numbers : NumberTexts) (x : Double)

theorem digits_text {l : Literal} (h : l.Proper) : l.text.takeWhile Char.isDigit = l.whole ∧
    l.text.dropWhile Char.isDigit = Literal.fractionText l.fraction ++ Literal.exponentText l.exponent := by
  have hbehind : ∀ c ∈ (Literal.fractionText l.fraction ++ Literal.exponentText l.exponent).head?, ¬ c.isDigit := by
    cases hfraction : l.fraction with
    | nil =>
      intro c hc
      exact (head?_exponentText l.exponent endsLiteral_nil c (by rwa [List.append_nil])).1
    | cons d ds =>
      intro c hc
      obtain rfl : '.' = c := Option.some.inj hc
      decide
  unfold Literal.text
  rw [List.append_assoc]
  exact ⟨takeWhile_digits h.whole_digits hbehind, dropWhile_digits h.whole_digits hbehind⟩

theorem prefixLiteral?_text {l : Literal} (h : l.Proper) : prefixLiteral? l.text = some l := by
  obtain ⟨hwhole, hbehind⟩ := digits_text h
  have hexponent := readExponent_text l.exponent endsLiteral_nil
  rw [List.append_nil] at hexponent
  unfold prefixLiteral?
  rw [hwhole, hbehind]
  obtain ⟨whole, fraction, exponent⟩ := l
  cases fraction with
  | nil =>
    have hnoPoint : ∀ rest, Literal.exponentText exponent ≠ '.' :: rest := by
      intro rest heq
      have hhead := head?_exponentText exponent endsLiteral_nil '.' (by rw [List.append_nil, heq]; rfl)
      exact hhead.2 rfl
    have hmatch : (match Literal.fractionText [] ++ Literal.exponentText exponent with
        | '.' :: rest => (rest.takeWhile Char.isDigit, rest.dropWhile Char.isDigit)
        | rest => ([], rest)) = ([], Literal.exponentText exponent) := by
      show (match Literal.exponentText exponent with
        | '.' :: rest => (rest.takeWhile Char.isDigit, rest.dropWhile Char.isDigit)
        | rest => ([], rest)) = _
      split
      · rename_i rest heq
        exact absurd heq (hnoPoint rest)
      · rfl
    dsimp only at hmatch ⊢
    rw [hmatch]
    dsimp only at hexponent ⊢
    rw [if_neg (fun hnil => h.whole_ne hnil.1), hexponent]
    rfl
  | cons c cs =>
    have hdigit : ∀ d ∈ (Literal.exponentText exponent).head?, ¬ d.isDigit := by
      intro d hd
      exact (head?_exponentText exponent endsLiteral_nil d (by rwa [List.append_nil])).1
    change (if whole = [] ∧ (c :: cs ++ Literal.exponentText exponent).takeWhile Char.isDigit = [] then none
      else some (Literal.mk whole ((c :: cs ++ Literal.exponentText exponent).takeWhile Char.isDigit)
        ((readExponent ((c :: cs ++ Literal.exponentText exponent).dropWhile Char.isDigit)).bind Prod.fst))) = _
    rw [takeWhile_digits h.fraction_digits hdigit, dropWhile_digits h.fraction_digits hdigit,
      if_neg (fun hnil => h.whole_ne hnil.1), hexponent]
    rfl

theorem Double.parseFloat_text : parseFloat (x.text numbers) = some (.finite x) := by
  have hproper := x.proper_literal numbers
  obtain ⟨c, hc, hdigit⟩ := x.head?_literal numbers
  obtain ⟨cs, htext⟩ := List.head?_eq_some_iff.mp hc
  have hnoInfinity : ¬ "Infinity".toList <+: (x.literal numbers).text := by
    rintro ⟨rest, hrest⟩
    rw [htext] at hrest
    obtain rfl : 'I' = c := (List.cons.inj hrest).1
    exact absurd hdigit (by decide)
  unfold parseFloat
  rw [x.skipSpace_text, x.splitSign_text]
  dsimp only
  rw [if_neg hnoInfinity, prefixLiteral?_text hproper, Option.map_some, x.ofLiteral_literal]

theorem Double.parseInt_text (hfraction : (x.literal numbers).fraction = [])
    (hexponent : (x.literal numbers).exponent = none) : parseInt (x.text numbers) = some (.finite x) := by
  have hproper := x.proper_literal numbers
  have hliteral : x.literal numbers = { whole := (x.literal numbers).whole } := by
    generalize x.literal numbers = l at hfraction hexponent
    obtain ⟨whole, fraction, exponent⟩ := l
    obtain rfl : fraction = [] := hfraction
    obtain rfl : exponent = none := hexponent
    rfl
  unfold parseInt
  rw [x.skipSpace_text, x.splitSign_text]
  dsimp only
  rw [(digits_text hproper).1, if_neg hproper.whole_ne, ← hliteral, x.ofLiteral_literal]

theorem Double.isIntegerText_iff : isIntegerText (x.text numbers) = true ↔
    (x.literal numbers).fraction = [] ∧ (x.literal numbers).exponent = none := by
  have hproper := x.proper_literal numbers
  unfold isIntegerText
  rw [x.withoutMinus_text]
  generalize x.literal numbers = l at hproper
  obtain ⟨whole, fraction, exponent⟩ := l
  constructor
  · intro h
    have hall : ∀ c ∈ (Literal.mk whole fraction exponent).text, c.isDigit := by
      simp only [Bool.and_eq_true, List.all_eq_true] at h
      exact h.2
    constructor
    · cases fraction with
      | nil => rfl
      | cons c cs =>
        refine absurd (hall '.' ?_) (by decide)
        simp [Literal.text, Literal.fractionText]
    · cases exponent with
      | none => rfl
      | some e =>
        refine absurd (hall 'e' ?_) (by decide)
        simp [Literal.text, Literal.exponentText]
  · rintro ⟨rfl, rfl⟩
    have htext : (Literal.mk whole [] none).text = whole := by simp [Literal.text, Literal.fractionText, Literal.exponentText]
    rw [htext]
    simp only [Bool.and_eq_true, List.all_eq_true]
    exact ⟨by simpa using hproper.whole_ne, hproper.whole_digits⟩

theorem Double.isDecimalText_iff : isDecimalText (x.text numbers) = true ↔ (x.literal numbers).exponent = none := by
  have hproper := x.proper_literal numbers
  unfold isDecimalText
  rw [x.withoutMinus_text, (digits_text hproper).1, (digits_text hproper).2]
  have hne := hproper.whole_ne
  have hdigits := hproper.fraction_digits
  generalize x.literal numbers = l at hne hdigits
  obtain ⟨whole, fraction, exponent⟩ := l
  rw [decide_eq_true hne, Bool.true_and]
  cases fraction with
  | nil =>
    cases exponent with
    | none => exact iff_of_true rfl rfl
    | some e => exact iff_of_false Bool.false_ne_true nofun
  | cons c cs =>
    show (decide (c :: cs ++ Literal.exponentText exponent ≠ []) &&
      (c :: cs ++ Literal.exponentText exponent).all Char.isDigit) = true ↔ _
    rw [decide_eq_true (by simp), Bool.true_and, List.all_append, Bool.and_eq_true]
    cases exponent with
    | none => exact iff_of_true ⟨List.all_eq_true.mpr hdigits, rfl⟩ rfl
    | some e =>
      refine iff_of_false (fun h => ?_) nofun
      exact absurd (List.all_eq_true.mp h.2 'e' List.mem_cons_self) (by decide)

end Parsing

theorem exists_decimal {q : ℚ} (h : binary64.Holds q) (hq : q ≠ 0) : ∃ d : Decimal, binary64.round d.value = some q := by
  obtain ⟨m, e, -, -, hmul, -⟩ := id h
  have hm : 0 < m := by
    rcases Nat.eq_zero_or_pos m with rfl | hpos
    · exact absurd (hmul.trans (by simp)) hq
    · exact hpos
  have hplaces : ∃ (n : ℕ) (hn : 0 < n) (places : ℤ), (Decimal.ofNat n hn places).value = q := by
    rcases le_or_gt 0 e with hle | hlt
    · obtain ⟨k, rfl⟩ := Int.eq_ofNat_of_zero_le hle
      refine ⟨m * 2 ^ k, by positivity, 0, ?_⟩
      rw [Decimal.value_ofNat, hmul]
      push_cast
      simp
    · -- a negative power of two, by as many fives
      obtain ⟨k, rfl⟩ : ∃ k : ℕ, e = -k := ⟨(-e).toNat, by omega⟩
      refine ⟨m * 5 ^ k, by positivity, -k, ?_⟩
      rw [Decimal.value_ofNat, hmul]
      push_cast
      rw [zpow_neg, zpow_neg, zpow_natCast, zpow_natCast, mul_assoc]
      congr 1
      rw [show (10 : ℚ) = 5 * 2 by norm_num, mul_pow, mul_inv, ← mul_assoc, mul_inv_cancel₀ (by positivity), one_mul]
  obtain ⟨n, hn, places, hvalue⟩ := hplaces
  exact ⟨.ofNat n hn places, hvalue ▸ BinaryFormat.round_of_holds (hvalue ▸ h)⟩

/-- **There are digits** for every number. -/
theorem exists_numberTexts : Nonempty NumberTexts := by
  have hdecimal : ∀ x : Double, ∃ d : Decimal, x.value ≠ 0 → binary64.round d.value = some |x.value| ∧
      ∀ d' : Decimal, binary64.round d'.value = some |x.value| → d.count ≤ d'.count := by
    intro x
    by_cases hx : x.value = 0
    · exact ⟨.ofNat 1 one_pos 0, fun hne => absurd hx hne⟩
    · obtain ⟨d, hd⟩ := exists_decimal x.holds (abs_ne_zero.mpr hx)
      let spelled : Set Decimal := {d | binary64.round d.value = some |x.value|}
      have hwf := (measure Decimal.count).wf
      refine ⟨hwf.min spelled ⟨d, hd⟩, fun _ => ⟨hwf.min_mem spelled ⟨d, hd⟩, fun d' hd' => ?_⟩⟩
      exact not_lt.mp (hwf.not_lt_min spelled hd')
  choose decimal hspec using hdecimal
  exact ⟨⟨decimal, fun x hx => (hspec x hx).1, fun x d hx => (hspec x hx).2 d⟩⟩

end SiloForge.Frontend
