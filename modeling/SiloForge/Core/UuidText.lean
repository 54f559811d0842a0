import SiloForge.Core.Json
import Mathlib.Tactic.Ring
import Mathlib.Tactic.IntervalCases

/-!
# The text of a uuid

`str(uuid)` writes 32 hexadecimal digits in five groups.

* `Uuid.format` : the text of a uuid;
* `Uuid.ofString?_format` : it is read back as the same uuid;
* `Uuid.ofString?_lt` : what a text spells fits 128 bits.
-/

namespace SiloForge

namespace Uuid

def hexChar (d : Nat) : Char := if d < 10 then Char.ofNat ('0'.toNat + d) else Char.ofNat ('a'.toNat + (d - 10))

def hexDigits : Nat → Nat → List Char
  | 0, _ => []
  | k + 1, n => hexDigits k (n / 16) ++ [hexChar (n % 16)]

def groups (digits : List Char) : List Char :=
  digits.take 8 ++ '-' :: ((digits.drop 8).take 4 ++ '-' :: ((digits.drop 12).take 4 ++ '-' ::
    ((digits.drop 16).take 4 ++ '-' :: digits.drop 20)))

/-- `str(uuid)`. -/
def format (u : Uuid) : String := String.ofList (groups (hexDigits 32 u))

/-! ## Digits -/

theorem hexDigit?_hexChar {d : Nat} (h : d < 16) : hexDigit? (hexChar d) = some d := by
  interval_cases d <;> decide

variable {c : Char}

theorem hexDigit?_lt {d : Nat} (h : hexDigit? c = some d) : d < 16 := by
  unfold hexDigit? at h
  split at h
  · rename_i hc
    have hle : c.toNat ≤ '9'.toNat := hc.2
    have hd := Option.some.inj h
    simp only [Char.reduceToNat] at hle hd
    omega
  · split at h
    · rename_i hc
      have hle : c.toNat ≤ 'f'.toNat := hc.2
      have hd := Option.some.inj h
      simp only [Char.reduceToNat] at hle hd
      omega
    · split at h
      · rename_i hc
        have hle : c.toNat ≤ 'F'.toNat := hc.2
        have hd := Option.some.inj h
        simp only [Char.reduceToNat] at hle hd
        omega
      · cases h

theorem length_hexDigits (k n : Nat) : (hexDigits k n).length = k := by
  induction k generalizing n with
  | zero => rfl
  | succ k ih => rw [hexDigits, List.length_append, ih, List.length_singleton]

theorem mem_hexDigits {k n : Nat} (h : c ∈ hexDigits k n) : ∃ d < 16, c = hexChar d := by
  induction k generalizing n with
  | zero => cases h
  | succ k ih =>
    rw [hexDigits] at h
    rcases List.mem_append.mp h with h | h
    · exact ih h
    · exact ⟨n % 16, Nat.mod_lt _ (by decide), List.mem_singleton.mp h⟩

def readDigit (acc : Option Nat) (c : Char) : Option Nat :=
  acc.bind fun n => (hexDigit? c).map fun d => 16 * n + d

theorem foldl_readDigit_hexDigits (k n a : Nat) :
    (hexDigits k n).foldl readDigit (some a) = some (a * 16 ^ k + n % 16 ^ k) := by
  induction k generalizing n with
  | zero => simp [hexDigits, Nat.mod_one]
  | succ k ih =>
    rw [hexDigits, List.foldl_append, ih, List.foldl_cons, List.foldl_nil]
    have hdigit := hexDigit?_hexChar (Nat.mod_lt n (show 0 < 16 by decide))
    rw [readDigit, Option.bind_some, hdigit, Option.map_some]
    have hsplit : n % 16 ^ (k + 1) = 16 * (n / 16 % 16 ^ k) + n % 16 := by
      rw [Nat.pow_succ', Nat.mod_mul]
      omega
    rw [hsplit, Nat.pow_succ']
    congr 1
    ring

theorem foldl_readDigit_none (cs : List Char) : cs.foldl readDigit none = none := by
  induction cs with
  | nil => rfl
  | cons c cs ih => exact ih

theorem foldl_readDigit_lt {cs : List Char} {a u : Nat} (h : cs.foldl readDigit (some a) = some u) :
    u < (a + 1) * 16 ^ cs.length := by
  induction cs generalizing a with
  | nil =>
    obtain rfl := Option.some.inj h
    simp
  | cons c cs ih =>
    rw [List.foldl_cons, readDigit, Option.bind_some] at h
    cases hd : hexDigit? c with
    | none =>
      rw [hd, Option.map_none, foldl_readDigit_none] at h
      cases h
    | some d =>
      rw [hd, Option.map_some] at h
      have hlt := hexDigit?_lt hd
      calc u < (16 * a + d + 1) * 16 ^ cs.length := ih h
        _ ≤ (16 * (a + 1)) * 16 ^ cs.length := Nat.mul_le_mul_right _ (by omega)
        _ = (a + 1) * 16 ^ (c :: cs).length := by rw [List.length_cons, Nat.pow_succ']; ring

/-! ## Reading back -/

theorem removeText_eq_self {p : Char} {pat cs : List Char} (n : Nat) (h : p ∉ cs) :
    removeText (p :: pat) n cs = cs := by
  induction n generalizing cs with
  | zero => rfl
  | succ n ih =>
    cases cs with
    | nil => rfl
    | cons c cs =>
      obtain ⟨hc, hcs⟩ := not_or.mp (mt List.mem_cons.mpr h)
      have hpre : (p :: pat).isPrefixOf (c :: cs) = false := by
        rw [List.isPrefixOf_cons_cons, beq_eq_false_iff_ne.mpr hc, Bool.false_and]
      rw [removeText, hpre, ih hcs]
      rfl

theorem dropWhile_eq_self {p : Char → Bool} {cs : List Char} (h : ∀ c ∈ cs, p c = false) : cs.dropWhile p = cs := by
  cases cs with
  | nil => rfl
  | cons c cs => rw [List.dropWhile_cons, h c List.mem_cons_self]; rfl

theorem mem_groups {digits : List Char} (h : c ∈ groups digits) : c = '-' ∨ c ∈ digits := by
  unfold groups at h
  simp only [List.mem_append, List.mem_cons] at h
  rcases h with h | h | h | h | h | h | h | h | h
  · exact .inr (List.mem_of_mem_take h)
  · exact .inl h
  · exact .inr (List.mem_of_mem_drop (List.mem_of_mem_take h))
  · exact .inl h
  · exact .inr (List.mem_of_mem_drop (List.mem_of_mem_take h))
  · exact .inl h
  · exact .inr (List.mem_of_mem_drop (List.mem_of_mem_take h))
  · exact .inl h
  · exact .inr (List.mem_of_mem_drop h)

theorem filter_groups {digits : List Char} (h : '-' ∉ digits) :
    (groups digits).filter (fun c => c ≠ '-') = digits := by
  have hkeep : ∀ l, l ⊆ digits → l.filter (fun c => c ≠ '-') = l := by
    intro l hl
    refine List.filter_eq_self.mpr fun c hc => decide_eq_true ?_
    rintro rfl
    exact h (hl hc)
  have htake : ∀ n m, (digits.drop n).take m ⊆ digits :=
    fun n m => List.Subset.trans (List.take_subset _ _) (List.drop_subset _ _)
  unfold groups
  simp only [List.filter_append, ne_eq, not_true_eq_false, decide_false, Bool.false_eq_true, not_false_eq_true,
    List.filter_cons_of_neg]
  simp only [← ne_eq]
  rw [hkeep _ (List.take_subset 8 digits), hkeep _ (htake 8 4), hkeep _ (htake 12 4), hkeep _ (htake 16 4),
    hkeep _ (List.drop_subset 20 digits)]
  have hjoin : ∀ n m, (digits.drop n).take m ++ digits.drop (n + m) = digits.drop n := by
    intro n m
    rw [← List.drop_drop]
    exact List.take_append_drop m _
  rw [hjoin 16 4, hjoin 12 4, hjoin 8 4, List.take_append_drop]

theorem not_mem_hexDigits {k n : Nat} (h : ∀ d < 16, c ≠ hexChar d) : c ∉ hexDigits k n := by
  intro hmem
  obtain ⟨d, hd, hc⟩ := mem_hexDigits hmem
  exact h d hd hc

theorem not_mem_format {u : Uuid} (hdash : c ≠ '-') (h : ∀ d < 16, c ≠ hexChar d) : c ∉ groups (hexDigits 32 u) := by
  intro hmem
  rcases mem_groups hmem with hc | hc
  · exact hdash hc
  · exact not_mem_hexDigits h hc

/-- **A uuid's text** is read back as the uuid. -/
theorem ofString?_format {u : Uuid} (h : u < 2 ^ 128) : ofString? (format u) = some u := by
  have hu : 'u' ∉ groups (hexDigits 32 u) := not_mem_format (by decide) (by decide)
  have hbrace : ∀ c ∈ groups (hexDigits 32 u), isBrace c = false := by
    intro c hc
    have ho : c ≠ '\x7b' := fun he => not_mem_format (by decide) (by decide) (he ▸ hc)
    have hcl : c ≠ '\x7d' := fun he => not_mem_format (by decide) (by decide) (he ▸ hc)
    unfold isBrace
    rw [decide_eq_false ho, decide_eq_false hcl]
    rfl
  have hdash : '-' ∉ hexDigits 32 u := not_mem_hexDigits (by decide)
  have hurn : ∀ n cs, 'u' ∉ cs → removeText "urn:".toList n cs = cs := fun n cs => removeText_eq_self n
  have huuid : ∀ n cs, 'u' ∉ cs → removeText "uuid:".toList n cs = cs := fun n cs => removeText_eq_self n
  have hback : ∀ c ∈ (groups (hexDigits 32 u)).reverse, isBrace c = false :=
    fun c hc => hbrace c (List.mem_reverse.mp hc)
  unfold ofString? format
  simp only [String.toList_ofList, hurn _ _ hu, huuid _ _ hu, dropWhile_eq_self hbrace, dropWhile_eq_self hback,
    List.reverse_reverse]
  rw [filter_groups hdash, if_pos (length_hexDigits 32 u)]
  have hread := foldl_readDigit_hexDigits 32 u 0
  rw [Nat.zero_mul, Nat.zero_add, Nat.mod_eq_of_lt (by omega)] at hread
  exact hread

theorem ofString?_lt {s : String} {u : Uuid} (h : ofString? s = some u) : u < 2 ^ 128 := by
  unfold ofString? at h
  simp only at h
  split at h
  · rename_i hlen
    have hlt := foldl_readDigit_lt (a := 0) h
    rw [hlen] at hlt
    omega
  · cases h

end Uuid

end SiloForge
