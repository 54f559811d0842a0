import SiloForge.Core.Digits
import Mathlib.Data.Rat.Defs

/-!
# Numbers and equality of JSON values

A JSON number is an integer or a float, and `1` and `1.0` are one number. Python's `==` compares numbers in the same way,
but takes a boolean for a number too.

* `NumberValue` : what a float stands for, with Python's comparisons;
* `equalBy` : equality of values, by what counts as a number; `jsonEqual`, `pythonEqual` : the two equalities;
* `pythonEqual_of_jsonEqual` : Python's takes no two equal values apart.
-/

namespace SiloForge

/-! ## Numbers -/

inductive NumberValue where
  | finite (value : ℚ)
  | infinite (negative : Bool)
  | nan
  deriving DecidableEq

namespace NumberValue

/-- `==`. -/
def eq : NumberValue → NumberValue → Bool
  | finite x, finite y => x = y
  | infinite n, infinite m => n = m
  | _, _ => false

/-- `<`. -/
def lt : NumberValue → NumberValue → Bool
  | finite x, finite y => x < y
  | finite _, infinite m => !m
  | infinite n, finite _ => n
  | infinite n, infinite m => n && !m
  | _, _ => false

end NumberValue

def floatValue (bits : BitVec 64) : NumberValue :=
  let exponent := (bits.extractLsb' 52 11).toNat
  let fraction := (bits.extractLsb' 0 52).toNat
  let signed := fun n : Nat => if bits.msb then -(n : Int) else n
  if exponent = 0x7ff then if fraction = 0 then .infinite bits.msb else .nan
  else if exponent = 0 then .finite (mkRat (signed fraction) (2 ^ 1074))
  else if exponent < 1075 then .finite (mkRat (signed (2 ^ 52 + fraction)) (2 ^ (1075 - exponent)))
  else .finite (signed ((2 ^ 52 + fraction) * 2 ^ (exponent - 1075)))

/-- The number a value is in JSON. -/
def Json.number? : Json → Option NumberValue
  | .int n => some (.finite n)
  | .float bits => some (floatValue bits)
  | _ => none

/-- The number a value is in Python. -/
def Json.pythonNumber? : Json → Option NumberValue
  | .bool b => some (.finite (if b then 1 else 0))
  | value => value.number?

/-! ## Equality -/

section Equality
variable (number? : Json → Option NumberValue)

def sameNumber (a b : Json) : Bool :=
  match number? a, number? b with
  | some x, some y => x.eq y
  | _, _ => false

mutual

/-- Equality of values: objects have the same keys with equal values, in any order. -/
def equalBy : Json → Json → Bool
  | .null, .null => true
  | .str s, .str s' => s = s'
  | .bool b, .bool b' => b = b'
  | .arr items, .arr items' => equalItemsBy items items'
  | .obj fields, .obj fields' => fields.length = fields'.length && equalFieldsBy fields fields'
  | a, b => sameNumber number? a b

def equalItemsBy : List Json → List Json → Bool
  | [], [] => true
  | a :: as, b :: bs => equalBy a b && equalItemsBy as bs
  | _, _ => false

/-- Every field has an equal one among others. -/
def equalFieldsBy : List (String × Json) → List (String × Json) → Bool
  | [], _ => true
  | (k, a) :: rest, fields =>
    (match Json.lookup fields k with
      | some b => equalBy a b
      | none => false) && equalFieldsBy rest fields

end

end Equality

def jsonEqual : Json → Json → Bool := equalBy Json.number?

/-- `==`. -/
def pythonEqual : Json → Json → Bool := equalBy Json.pythonNumber?

mutual

theorem equalBy_python : ∀ a b : Json, equalBy Json.number? a b = true → equalBy Json.pythonNumber? a b = true
  | .arr items, b, h => by
    cases b with
    | arr items' => exact equalItemsBy_python items items' (by simpa only [equalBy] using h)
    | _ => cases h
  | .obj fields, b, h => by
    cases b with
    | obj fields' =>
      simp only [equalBy, Bool.and_eq_true] at h ⊢
      exact ⟨h.1, equalFieldsBy_python fields fields' h.2⟩
    | _ => cases h
  | .null, b, h | .bool _, b, h | .int _, b, h | .float _, b, h | .str _, b, h => by
    cases b <;> first | exact h | cases h

theorem equalItemsBy_python : ∀ as bs : List Json,
    equalItemsBy Json.number? as bs = true → equalItemsBy Json.pythonNumber? as bs = true
  | [], bs, h => by cases bs <;> exact h
  | a :: as, bs, h => by
    cases bs with
    | nil => cases h
    | cons b bs =>
      simp only [equalItemsBy, Bool.and_eq_true] at h ⊢
      exact ⟨equalBy_python a b h.1, equalItemsBy_python as bs h.2⟩

theorem equalFieldsBy_python : ∀ as bs : List (String × Json),
    equalFieldsBy Json.number? as bs = true → equalFieldsBy Json.pythonNumber? as bs = true
  | [], _, _ => by simp only [equalFieldsBy]
  | (k, a) :: rest, fields, h => by
    simp only [equalFieldsBy, Bool.and_eq_true] at h ⊢
    refine ⟨?_, equalFieldsBy_python rest fields h.2⟩
    cases hlookup : Json.lookup fields k with
    | none =>
      rw [hlookup] at h
      exact absurd h.1 Bool.false_ne_true
    | some b =>
      rw [hlookup] at h
      exact equalBy_python a b h.1

end

/-- **Values that are equal** in JSON are equal in Python. -/
theorem pythonEqual_of_jsonEqual {a b : Json} (h : jsonEqual a b = true) : pythonEqual a b = true :=
  equalBy_python a b h

/-- A float and an integer of one value are one number; a boolean is one in Python only. -/
example : jsonEqual (.float 0x3ff0000000000000#64) (.int 1) = true ∧ jsonEqual (.bool true) (.int 1) = false ∧
    pythonEqual (.bool true) (.int 1) = true := by decide

end SiloForge
