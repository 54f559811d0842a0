import SiloForge.Core.UuidText
import SiloForge.Lib.Lines

/-!
# The indented text of a JSON value

`json.dumps` with an indentation of two and ASCII escapes writes one item of a list, or one field of an object, on each
line.

* `Json.dumps` : the text of a value;
* `followed_dumpsAt` : each new line begins with an indentation or with a closing bracket;
* `Json.dumps_keeps_out` : so that a line with dashes and blanks is not among them.
-/

namespace SiloForge

open Lib

/-- The texts of floats. They hold no white space. -/
structure FloatTexts where
  repr : BitVec 64 → String
  no_space : ∀ bits, ∀ c ∈ (repr bits).toList, isSpace c = false

namespace Json

/-! ## Texts in quotes -/

def quote : Char := '\x22'
def backslash : Char := '\x5c'

/-- A code unit of UTF-16, escaped. -/
def unicodeEscape (n : Nat) : List Char := backslash :: 'u' :: Uuid.hexDigits 4 n

def escapeChar (c : Char) : List Char :=
  if c = quote ∨ c = backslash then [backslash, c]
  else if c = '\n' then [backslash, 'n']
  else if c = '\r' then [backslash, 'r']
  else if c = '\t' then [backslash, 't']
  else if c = '\x0c' then [backslash, 'f']
  else if c = '\x08' then [backslash, 'b']
  else if ' ' ≤ c ∧ c ≤ '~' then [c]
  else if c.toNat < 0x10000 then unicodeEscape c.toNat
  else unicodeEscape (0xd800 + (c.toNat - 0x10000) / 1024) ++ unicodeEscape (0xdc00 + (c.toNat - 0x10000) % 1024)

def quoted (s : String) : List Char := quote :: (s.toList.flatMap escapeChar ++ [quote])

/-! ## Values -/

def newline (level : Nat) : List Char := '\n' :: List.replicate (2 * level) ' '

mutual

/-- A value whose own lines stand at `level`. -/
def dumpsAt (floats : FloatTexts) (level : Nat) : Json → List Char
  | .null => "null".toList
  | .bool true => "true".toList
  | .bool false => "false".toList
  | .int n => (toString n).toList
  | .float bits => (floats.repr bits).toList
  | .str s => quoted s
  | .arr [] => "[]".toList
  | .arr (j :: items) =>
    '[' :: (newline (level + 1) ++ dumpsAt floats (level + 1) j ++ dumpsItems floats level items ++
      newline level ++ [']'])
  | .obj [] => ['\x7b', '\x7d']
  | .obj ((key, j) :: fields) =>
    '\x7b' :: (newline (level + 1) ++ (quoted key ++ ':' :: ' ' :: dumpsAt floats (level + 1) j) ++
      dumpsFields floats level fields ++ newline level ++ ['\x7d'])

def dumpsItems (floats : FloatTexts) (level : Nat) : List Json → List Char
  | [] => []
  | j :: items => ',' :: (newline (level + 1) ++ dumpsAt floats (level + 1) j) ++ dumpsItems floats level items

def dumpsFields (floats : FloatTexts) (level : Nat) : List (String × Json) → List Char
  | [] => []
  | (key, j) :: fields =>
    ',' :: (newline (level + 1) ++ (quoted key ++ ':' :: ' ' :: dumpsAt floats (level + 1) j)) ++
      dumpsFields floats level fields

end

/-- `json.dumps(value, indent=2, ensure_ascii=True)`. -/
def dumps (floats : FloatTexts) (j : Json) : String := String.ofList (dumpsAt floats 0 j)

/-! ## Its lines -/

/-- What a line but the first begins with: an indentation, or a closing bracket. -/
def BeginsLine (c : Char) : Prop := c = ' ' ∨ c = ']' ∨ c = '\x7d'

theorem hexChar_ne_newline {d : Nat} (h : d < 16) : Uuid.hexChar d ≠ '\n' := by
  interval_cases d <;> decide

theorem newline_notMem_unicodeEscape (n : Nat) : '\n' ∉ unicodeEscape n := by
  unfold unicodeEscape
  intro hmem
  rcases List.mem_cons.mp hmem with h | hmem
  · exact absurd h (by decide)
  rcases List.mem_cons.mp hmem with h | hmem
  · exact absurd h (by decide)
  obtain ⟨d, hd, h⟩ := Uuid.mem_hexDigits hmem
  exact hexChar_ne_newline hd h.symm

theorem newline_notMem_escapeChar (c : Char) : '\n' ∉ escapeChar c := by
  have hback : '\n' ≠ backslash := by decide
  unfold escapeChar
  split
  · rename_i h
    intro hmem
    rcases List.mem_pair.mp hmem with hn | rfl
    · exact hback hn
    · exact absurd h (by decide)
  split
  · exact fun hmem => absurd hmem (by decide)
  rename_i hnewline
  split
  · exact fun hmem => absurd hmem (by decide)
  split
  · exact fun hmem => absurd hmem (by decide)
  split
  · exact fun hmem => absurd hmem (by decide)
  split
  · exact fun hmem => absurd hmem (by decide)
  split
  · exact fun hmem => hnewline (List.mem_singleton.mp hmem).symm
  split
  · exact newline_notMem_unicodeEscape _
  · rw [List.mem_append]
    exact fun h => h.elim (newline_notMem_unicodeEscape _) (newline_notMem_unicodeEscape _)

theorem newline_notMem_quoted (s : String) : '\n' ∉ quoted s := by
  unfold quoted
  rw [List.mem_cons, List.mem_append, List.mem_flatMap, List.mem_singleton]
  rintro (h | ⟨c, -, h⟩ | h)
  · exact absurd h (by decide)
  · exact newline_notMem_escapeChar c h
  · exact absurd h (by decide)

theorem isSpace_of_mem_int {n : Int} {c : Char} (h : c ∈ (toString n).toList) : isSpace c = false := by
  have hdigit : ∀ {d : Char}, d.isDigit = true → isSpace d = false := by
    intro d hd
    obtain ⟨hlow, hhigh⟩ := Char.isDigit_iff_toNat.mp hd
    have hrange : 48 ≤ d.toNat ∧ d.toNat ≤ 57 := ⟨hlow, hhigh⟩
    simp [isSpace]
    omega
  have hnat : ∀ {m : Nat}, c ∈ (Nat.repr m).toList → isSpace c = false := by
    intro m hmem
    rw [Nat.toList_repr] at hmem
    exact hdigit (Nat.isDigit_of_mem_toDigits (by decide) (by decide) hmem)
  cases n with
  | ofNat m => exact hnat h
  | negSucc m =>
    have hmem : c ∈ ("-" ++ Nat.repr (m + 1)).toList := h
    rw [String.toList_append, List.mem_append] at hmem
    rcases hmem with hdash | hmem
    · obtain rfl : c = '-' := by simpa using hdash
      decide
    · exact hnat hmem

theorem followed_newline {level : Nat} {doc : List Char} (h : Followed '\n' BeginsLine doc) :
    Followed '\n' BeginsLine (newline (level + 1) ++ doc) := by
  have hspaces : Followed '\n' BeginsLine (List.replicate (2 * level + 1) ' ' ++ doc) :=
    Followed.append (Followed.of_notMem fun hmem => absurd (List.eq_of_mem_replicate hmem) (by decide)) h
  exact Followed.separator (.inl rfl) (Followed.cons (by decide) hspaces)

theorem followed_close {level : Nat} {c : Char} (hc : c = ']' ∨ c = '\x7d') :
    Followed '\n' BeginsLine (newline level ++ [c]) := by
  have hne : c ≠ '\n' := by
    rcases hc with rfl | rfl <;> decide
  have hnone : Followed '\n' BeginsLine [c] := Followed.of_notMem fun hmem => hne (List.mem_singleton.mp hmem).symm
  cases level with
  | zero => exact Followed.separator (.inr hc) hnone
  | succ level => exact followed_newline hnone

mutual

theorem followed_dumpsAt (floats : FloatTexts) (level : Nat) :
    ∀ j : Json, Followed '\n' BeginsLine (dumpsAt floats level j)
  | .null => .of_notMem (by simp [dumpsAt])
  | .bool true => .of_notMem (by simp [dumpsAt])
  | .bool false => .of_notMem (by simp [dumpsAt])
  | .int n => .of_notMem fun hmem => absurd (isSpace_of_mem_int hmem) (by decide)
  | .float bits => .of_notMem fun hmem => absurd (floats.no_space bits _ hmem) (by decide)
  | .str s => .of_notMem (newline_notMem_quoted s)
  | .arr [] => .of_notMem (by simp [dumpsAt])
  | .arr (j :: items) => by
    unfold dumpsAt
    rw [List.append_assoc, List.append_assoc, List.append_assoc]
    refine .cons (by decide) (followed_newline (.append (followed_dumpsAt floats (level + 1) j) ?_))
    exact .append (followed_dumpsItems floats level items) (followed_close (.inl rfl))
  | .obj [] => .of_notMem (by simp [dumpsAt])
  | .obj ((key, j) :: fields) => by
    unfold dumpsAt
    rw [List.append_assoc, List.append_assoc]
    refine .cons (by decide) (.append (followed_newline ?_) ?_)
    · exact .append (.of_notMem (newline_notMem_quoted key))
        (.cons (by decide) (.cons (by decide) (followed_dumpsAt floats (level + 1) j)))
    · exact .append (followed_dumpsFields floats level fields) (followed_close (.inr rfl))

theorem followed_dumpsItems (floats : FloatTexts) (level : Nat) :
    ∀ items : List Json, Followed '\n' BeginsLine (dumpsItems floats level items)
  | [] => .of_notMem List.not_mem_nil
  | j :: items => by
    unfold dumpsItems
    exact .append (.cons (by decide) (followed_newline (followed_dumpsAt floats (level + 1) j)))
      (followed_dumpsItems floats level items)

theorem followed_dumpsFields (floats : FloatTexts) (level : Nat) :
    ∀ fields : List (String × Json), Followed '\n' BeginsLine (dumpsFields floats level fields)
  | [] => .of_notMem List.not_mem_nil
  | (key, j) :: fields => by
    unfold dumpsFields
    refine .append (.cons (by decide) (followed_newline ?_)) (followed_dumpsFields floats level fields)
    exact .append (.of_notMem (newline_notMem_quoted key))
      (.cons (by decide) (.cons (by decide) (followed_dumpsAt floats (level + 1) j)))

end

theorem dash_or_no_space (floats : FloatTexts) (level : Nat) (j : Json) :
    (∀ rest, dumpsAt floats level j ≠ '-' :: rest) ∨ ' ' ∉ dumpsAt floats level j := by
  cases j with
  | null => exact .inr (by simp [dumpsAt])
  | bool b => cases b <;> exact .inr (by simp [dumpsAt])
  | int n => exact .inr fun hmem => absurd (isSpace_of_mem_int hmem) (by decide)
  | float bits => exact .inr fun hmem => absurd (floats.no_space bits _ hmem) (by decide)
  | str s =>
    left
    intro rest h
    exact absurd (List.cons.inj h).1 (by decide)
  | arr items =>
    left
    intro rest h
    cases items with
    | nil => exact absurd (List.cons.inj h).1 (by decide)
    | cons j items =>
      unfold dumpsAt at h
      exact absurd (List.cons.inj h).1 (by decide)
  | obj fields =>
    left
    intro rest h
    cases fields with
    | nil =>
      unfold dumpsAt at h
      exact absurd (List.cons.inj h).1 (by decide)
    | cons f fields =>
      unfold dumpsAt at h
      exact absurd (List.cons.inj h).1 (by decide)

/-- **A line that begins with a dash and holds a blank** is in the text of no value. -/
theorem dumps_keeps_out (floats : FloatTexts) (j : Json) {line : List Char} (hspace : ' ' ∈ line) :
    '-' :: line ∉ (dumps floats j).toList.splitOn '\n' := by
  unfold dumps
  rw [String.toList_ofList]
  intro hmem
  obtain ⟨first, later, hlines⟩ := List.exists_cons_of_ne_nil (List.splitOn_ne_nil '\n' (dumpsAt floats 0 j))
  rw [hlines] at hmem
  rcases List.mem_cons.mp hmem with rfl | hlater
  · obtain ⟨rest, hdoc⟩ := head_splitOn_prefix hlines
    rcases dash_or_no_space floats 0 j with hdash | hno
    · exact hdash _ hdoc.symm
    · rw [← hdoc] at hno
      exact hno (List.mem_append_left rest (List.mem_cons_of_mem _ hspace))
  · have hbegins : BeginsLine '-' :=
      (followed_dumpsAt floats 0 j).head_of_mem_tail (by rw [hlines]; exact hlater)
    exact absurd hbegins (by unfold BeginsLine; decide)

end Json

end SiloForge
