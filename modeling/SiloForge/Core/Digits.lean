import Mathlib.Algebra.Group.Nat.Defs
import SiloForge.Core.Json

/-!
# Digits

A character may count as a digit without having a place in a decimal number: superscripts and circled numbers do.
`str.isdigit` takes them, `int` does not.

* `isDigits` : `str.isdigit`;
* `intOfText?` : `int` of a text;
* `floatIsInteger` : `float.is_integer`.
-/

namespace SiloForge

/-- The zeros of the decimal digits; each is followed by the digits from one to nine. -/
def decimalZeros : List Nat :=
  [0x30, 0x660, 0x6f0, 0x7c0, 0x966, 0x9e6, 0xa66, 0xae6, 0xb66, 0xbe6, 0xc66, 0xce6, 0xd66, 0xde6, 0xe50, 0xed0,
    0xf20, 0x1040, 0x1090, 0x17e0, 0x1810, 0x1946, 0x19d0, 0x1a80, 0x1a90, 0x1b50, 0x1bb0, 0x1c40, 0x1c50, 0xa620,
    0xa8d0, 0xa900, 0xa9d0, 0xa9f0, 0xaa50, 0xabf0, 0xff10, 0x104a0, 0x10d30, 0x11066, 0x110f0, 0x11136, 0x111d0,
    0x112f0, 0x11450, 0x114d0, 0x11650, 0x116c0, 0x11730, 0x118e0, 0x11950, 0x11c50, 0x11d50, 0x11da0, 0x11f50,
    0x16a60, 0x16ac0, 0x16b50, 0x1d7ce, 0x1d7d8, 0x1d7e2, 0x1d7ec, 0x1d7f6, 0x1e140, 0x1e2f0, 0x1e4f0, 0x1e950,
    0x1fbf0]

/-- The digits that are not decimal, as ranges. -/
def otherDigits : List (Nat × Nat) :=
  [(0xb2, 0xb3), (0xb9, 0xb9), (0x1369, 0x1371), (0x19da, 0x19da), (0x2070, 0x2070), (0x2074, 0x2079),
    (0x2080, 0x2089), (0x2460, 0x2468), (0x2474, 0x247c), (0x2488, 0x2490), (0x24ea, 0x24ea), (0x24f5, 0x24fd),
    (0x24ff, 0x24ff), (0x2776, 0x277e), (0x2780, 0x2788), (0x278a, 0x2792), (0x10a40, 0x10a43), (0x10e60, 0x10e68),
    (0x11052, 0x1105a), (0x1f100, 0x1f10a)]

def decimalValue? (c : Char) : Option Nat :=
  (decimalZeros.find? fun start => start ≤ c.toNat && c.toNat < start + 10).map fun start => c.toNat - start

def isDigit (c : Char) : Bool :=
  (decimalValue? c).isSome || otherDigits.any fun range => range.1 ≤ c.toNat && c.toNat ≤ range.2

def isDigits (s : String) : Bool := !s.toList.isEmpty && s.toList.all isDigit

/-- The most digits `int` reads. -/
def intMaxStrDigits : Nat := 4300

/-- The number decimal digits spell, with single underscores between them. -/
def decimalsToNat? (acc count : Nat) (afterDigit : Bool) : List Char → Option Nat
  | [] => if afterDigit ∧ count ≤ intMaxStrDigits then some acc else none
  | c :: cs =>
    match decimalValue? c with
    | some digit => decimalsToNat? (10 * acc + digit) (count + 1) true cs
    | none => if c = '_' ∧ afterDigit then decimalsToNat? acc count false cs else none

def intOfText? (s : String) : Option Int :=
  match (strip s).toList with
  | '-' :: cs => (decimalsToNat? 0 0 false cs).map fun n => -n
  | '+' :: cs => (decimalsToNat? 0 0 false cs).map fun n => n
  | cs => (decimalsToNat? 0 0 false cs).map fun n => n

/-- `lstrip("-")`. -/
def lstripDashes (s : String) : String := String.ofList (s.toList.dropWhile (· = '-'))

/-- `float.is_integer`, of a float given by its bits. -/
def floatIsInteger (bits : BitVec 64) : Bool :=
  let exponent := (bits.extractLsb' 52 11).toNat
  let fraction := (bits.extractLsb' 0 52).toNat
  if exponent = 0x7ff then false
  else if exponent = 0 then fraction = 0
  else if exponent < 1075 then (2 ^ 52 + fraction) % 2 ^ (1075 - exponent) = 0
  else true

/-- A superscript is a digit that `int` does not read. -/
example : isDigits "²" = true ∧ intOfText? "²" = none ∧ intOfText? "٣٤" = some 34 := by decide

end SiloForge
