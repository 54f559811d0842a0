import SiloForge.Core.JsonText
import SiloForge.Frontend.Values

/-!
# The text of a value in the browser

`JSON.stringify` writes a value on one line, or each item and each field on a line of its own, and `JSON.parse` reads it back.
An infinite number is written as null.

* `JSON.parse`, `parseValue`, `readText` : reading a text;
* `readText_quoted`, `parseValue_stringifyAt` : a text in quotes and a value are read back as they are shown;
* `JSON.parse_stringify`, `JSON.stringify_eq_iff` : so that values have the same text only if they are shown alike.
-/

namespace SiloForge.Frontend

open Lib
open Json (quote backslash unicodeEscape)

/-! ## Texts in quotes -/

def escapeChar (c : Char) : List Char :=
  if c = quote ∨ c = backslash then [backslash, c]
  else if c = '\x08' then [backslash, 'b']
  else if c = '\t' then [backslash, 't']
  else if c = '\n' then [backslash, 'n']
  else if c = '\x0c' then [backslash, 'f']
  else if c = '\r' then [backslash, 'r']
  else if c.toNat < 0x20 then unicodeEscape c.toNat
  else [c]

def quoted (s : String) : List Char := quote :: (s.toList.flatMap escapeChar ++ [quote])

/-- The character an escape of two characters stands for. -/
def unescape? (c : Char) : Option Char :=
  if c = quote ∨ c = backslash ∨ c = '/' then some c
  else if c = 'b' then some '\x08'
  else if c = 't' then some '\t'
  else if c = 'n' then some '\n'
  else if c = 'f' then some '\x0c'
  else if c = 'r' then some '\r'
  else none

/-- What a text in quotes consists of: characters, and code units of UTF-16 that are spelled by their number. -/
inductive Piece where
  | char (c : Char)
  | unit (n : Nat)

/-- The pieces of a text up to its closing quote, and what is behind it. -/
def readPieces : List Char → Option (List Piece × List Char)
  | [] => none
  | c :: cs =>
    if c = quote then some ([], cs)
    else if c = backslash then
      match cs with
      | 'u' :: a :: b :: c :: d :: rest => do
        let n ← [a, b, c, d].foldl Uuid.readDigit (some 0)
        let (pieces, rest) ← readPieces rest
        return (.unit n :: pieces, rest)
      | e :: rest => do
        let c ← unescape? e
        let (pieces, rest) ← readPieces rest
        return (.char c :: pieces, rest)
      | [] => none
    else if c.toNat < 0x20 then none
    else (readPieces cs).map fun r => (.char c :: r.1, r.2)

def isHighSurrogate (n : Nat) : Bool := 0xd800 ≤ n && n < 0xdc00

def isLowSurrogate (n : Nat) : Bool := 0xdc00 ≤ n && n < 0xe000

/-- What a surrogate without its other half is read as. -/
def replacement : Char := '\ufffd'

/-- The characters of some pieces. Two surrogates make one character; a high one waits for the low one. -/
def joinPieces : Option Nat → List Piece → List Char
  | none, [] => []
  | some _, [] => [replacement]
  | none, .char c :: pieces => c :: joinPieces none pieces
  | some _, .char c :: pieces => replacement :: c :: joinPieces none pieces
  | none, .unit n :: pieces =>
    if isHighSurrogate n then joinPieces (some n) pieces
    else (if isLowSurrogate n then replacement else Char.ofNat n) :: joinPieces none pieces
  | some high, .unit n :: pieces =>
    if isLowSurrogate n then Char.ofNat (0x10000 + (high - 0xd800) * 1024 + (n - 0xdc00)) :: joinPieces none pieces
    else if isHighSurrogate n then replacement :: joinPieces (some n) pieces
    else replacement :: Char.ofNat n :: joinPieces none pieces

def readText (cs : List Char) : Option (String × List Char) :=
  (readPieces cs).map fun r => (String.ofList (joinPieces none r.1), r.2)

theorem joinPieces_unit {n : Nat} (h : n < 0xd800) (pieces : List Piece) :
    joinPieces none (.unit n :: pieces) = Char.ofNat n :: joinPieces none pieces := by
  have hhigh : isHighSurrogate n = false := by
    unfold isHighSurrogate
    rw [decide_eq_false (by omega), Bool.false_and]
  have hlow : isLowSurrogate n = false := by
    unfold isLowSurrogate
    rw [decide_eq_false (by omega), Bool.false_and]
  rw [joinPieces, hhigh, hlow]
  rfl

variable {c : Char}

theorem readPieces_escape {e : Char} (he : unescape? e = some c) (hu : e ≠ 'u') (rest : List Char) :
    readPieces (backslash :: e :: rest) = (readPieces rest).map fun r => (.char c :: r.1, r.2) := by
  have hquote : backslash ≠ quote := by decide
  rw [readPieces.eq_def]
  dsimp only
  rw [if_neg hquote, if_pos rfl]
  split
  · rename_i heq
    exact absurd (List.cons.inj heq).1 hu
  · rename_i heq
    obtain ⟨rfl, rfl⟩ := List.cons.inj heq
    rw [he]
    cases readPieces rest <;> rfl
  · rename_i heq
    cases heq

theorem readPieces_unicodeEscape {n : Nat} (h : n < 0x10000) (rest : List Char) :
    readPieces (unicodeEscape n ++ rest) = (readPieces rest).map fun r => (.unit n :: r.1, r.2) := by
  have hquote : backslash ≠ quote := by decide
  have hread := Uuid.foldl_readDigit_hexDigits 4 n 0
  rw [Nat.zero_mul, Nat.zero_add, Nat.mod_eq_of_lt (by omega)] at hread
  unfold unicodeEscape
  simp only [Uuid.hexDigits, List.nil_append, List.cons_append] at hread ⊢
  rw [readPieces.eq_def]
  dsimp only
  rw [if_neg hquote, if_pos rfl]
  split
  · rename_i heq
    obtain ⟨-, rfl, rfl, rfl, rfl, rfl⟩ := by simpa only [List.cons.injEq] using heq
    rw [hread]
    cases readPieces rest <;> rfl
  · rename_i hother heq
    obtain ⟨rfl, rfl⟩ := List.cons.inj heq
    exact absurd rfl (hother _ _ _ _ _ rfl)
  · rename_i heq
    cases heq

/-- **A character is read back** from what is written for it. -/
theorem readPieces_escapeChar (c : Char) : ∃ piece : Piece,
    (∀ rest, readPieces (escapeChar c ++ rest) = (readPieces rest).map fun r => (piece :: r.1, r.2)) ∧
      ∀ pieces, joinPieces none (piece :: pieces) = c :: joinPieces none pieces := by
  by_cases hquote : c = quote ∨ c = backslash
  · refine ⟨.char c, fun rest => ?_, fun _ => rfl⟩
    have hu : c ≠ 'u' := by
      rintro rfl
      exact absurd hquote (by decide)
    have hunescape : unescape? c = some c := if_pos (hquote.elim .inl fun h => .inr (.inl h))
    unfold escapeChar
    rw [if_pos hquote]
    exact readPieces_escape hunescape hu rest
  obtain ⟨hquote', hbackslash⟩ := not_or.mp hquote
  -- the control characters that have an escape of two characters
  by_cases hb : c = '\x08'
  · subst hb
    exact ⟨.char _, readPieces_escape rfl (by decide), fun _ => rfl⟩
  by_cases ht : c = '\t'
  · subst ht
    exact ⟨.char _, readPieces_escape rfl (by decide), fun _ => rfl⟩
  by_cases hn : c = '\n'
  · subst hn
    exact ⟨.char _, readPieces_escape rfl (by decide), fun _ => rfl⟩
  by_cases hf : c = '\x0c'
  · subst hf
    exact ⟨.char _, readPieces_escape rfl (by decide), fun _ => rfl⟩
  by_cases hr : c = '\r'
  · subst hr
    exact ⟨.char _, readPieces_escape rfl (by decide), fun _ => rfl⟩
  have hescape : escapeChar c = if c.toNat < 0x20 then unicodeEscape c.toNat else [c] := by
    unfold escapeChar
    rw [if_neg hquote, if_neg hb, if_neg ht, if_neg hn, if_neg hf, if_neg hr]
  by_cases hcontrol : c.toNat < 0x20
  · rw [hescape, if_pos hcontrol]
    refine ⟨.unit c.toNat, readPieces_unicodeEscape (by omega), fun pieces => ?_⟩
    rw [joinPieces_unit (by omega), Char.ofNat_toNat]
  · rw [hescape, if_neg hcontrol]
    refine ⟨.char c, fun rest => ?_, fun _ => rfl⟩
    show readPieces (c :: rest) = _
    rw [readPieces.eq_def]
    dsimp only
    rw [if_neg hquote', if_neg hbackslash, if_neg hcontrol]

/-- **A text is read back** from its quotes. -/
theorem readText_quoted (s : String) (rest : List Char) :
    readText (s.toList.flatMap escapeChar ++ quote :: rest) = some (s, rest) := by
  have hpieces : ∀ cs : List Char, ∃ pieces, readPieces (cs.flatMap escapeChar ++ quote :: rest) = some (pieces, rest) ∧
      joinPieces none pieces = cs := by
    intro cs
    induction cs with
    | nil =>
      refine ⟨[], ?_, rfl⟩
      rw [List.flatMap_nil, List.nil_append, readPieces.eq_def]
      exact if_pos rfl
    | cons c cs ih =>
      obtain ⟨pieces, hread, hjoin⟩ := ih
      obtain ⟨piece, hc, hchar⟩ := readPieces_escapeChar c
      refine ⟨piece :: pieces, ?_, ?_⟩
      · rw [List.flatMap_cons, List.append_assoc, hc, hread]
        rfl
      · rw [hchar, hjoin]
  obtain ⟨pieces, hread, hjoin⟩ := hpieces s.toList
  unfold readText
  rw [hread, Option.map_some, hjoin, String.ofList_toList]

/-! ## Values -/

def newline (gap : List Char) (level : Nat) : List Char :=
  if gap = [] then [] else '\n' :: (List.replicate level gap).flatten

def colon (gap : List Char) : List Char := ':' :: if gap = [] then [] else [' ']

section Stringify
variable (numbers : NumberTexts) (gap : List Char)

mutual

/-- A value whose own lines stand at a level. -/
def stringifyAt (level : Nat) : JsValue → List Char
  | .null => "null".toList
  | .bool true => "true".toList
  | .bool false => "false".toList
  | .num (.finite x) => x.text numbers
  | .num (.infinite _) => "null".toList
  | .str s => quoted s
  | .arr [] => ['[', ']']
  | .arr (v :: items) =>
    '[' :: (newline gap (level + 1) ++ (stringifyAt (level + 1) v ++ (stringifyItems level items ++
      (newline gap level ++ [']']))))
  | .obj [] => ['\x7b', '\x7d']
  | .obj ((k, v) :: fields) =>
    '\x7b' :: (newline gap (level + 1) ++ (quoted k ++ (colon gap ++ (stringifyAt (level + 1) v ++
      (stringifyFields level fields ++ (newline gap level ++ ['\x7d']))))))

def stringifyItems (level : Nat) : List JsValue → List Char
  | [] => []
  | v :: items => ',' :: (newline gap (level + 1) ++ (stringifyAt (level + 1) v ++ stringifyItems level items))

def stringifyFields (level : Nat) : Fields → List Char
  | [] => []
  | (k, v) :: fields =>
    ',' :: (newline gap (level + 1) ++ (quoted k ++ (colon gap ++ (stringifyAt (level + 1) v ++
      stringifyFields level fields))))

end

end Stringify

/-! ## Reading -/

def isJsonSpace (c : Char) : Bool := c = ' ' || c = '\n' || c = '\r' || c = '\t'

def skipJsonSpace (cs : List Char) : List Char := cs.dropWhile isJsonSpace

def parseWord (cs : List Char) : Option (JsValue × List Char) :=
  if "null".toList <+: cs then some (.null, cs.drop 4)
  else if "true".toList <+: cs then some (.bool true, cs.drop 4)
  else if "false".toList <+: cs then some (.bool false, cs.drop 5)
  else (readNumber? cs).map fun r => (.num r.1, r.2)

def readKey (cs : List Char) : Option (String × List Char) :=
  match skipJsonSpace cs with
  | [] => none
  | c :: rest =>
    if c = quote then do
      let (k, rest) ← readText rest
      match skipJsonSpace rest with
      | ':' :: rest => some (k, rest)
      | _ => none
    else none

mutual

def parseValue : Nat → List Char → Option (JsValue × List Char)
  | 0, _ => none
  | fuel + 1, cs =>
    match skipJsonSpace cs with
    | [] => none
    | c :: rest =>
      if c = '[' then
        match skipJsonSpace rest with
        | ']' :: rest => some (.arr [], rest)
        | rest => (parseItems fuel rest).map fun r => (.arr r.1, r.2)
      else if c = '\x7b' then
        match skipJsonSpace rest with
        | '\x7d' :: rest => some (.obj [], rest)
        | rest => (parseMembers fuel rest).map fun r => (.obj (ofEntries r.1), r.2)
      else if c = quote then (readText rest).map fun r => (.str r.1, r.2)
      else parseWord (c :: rest)

def parseItems : Nat → List Char → Option (List JsValue × List Char)
  | 0, _ => none
  | fuel + 1, cs => do
    let (v, rest) ← parseValue fuel cs
    match skipJsonSpace rest with
    | ',' :: rest => do
      let (items, rest) ← parseItems fuel rest
      return (v :: items, rest)
    | ']' :: rest => return ([v], rest)
    | _ => none

def parseMembers : Nat → List Char → Option (List (String × JsValue) × List Char)
  | 0, _ => none
  | fuel + 1, cs => do
    let (k, rest) ← readKey cs
    let (v, rest) ← parseValue fuel rest
    match skipJsonSpace rest with
    | ',' :: rest => do
      let (members, rest) ← parseMembers fuel rest
      return ((k, v) :: members, rest)
    | '\x7d' :: rest => return ([(k, v)], rest)
    | _ => none

end

namespace JSON

/-- `JSON.stringify`, with what it indents with. -/
def stringify (numbers : NumberTexts) (gap : List Char) (v : JsValue) : List Char := stringifyAt numbers gap 0 v

/-- `JSON.parse`; there is none when it throws. -/
def parse (cs : List Char) : Option JsValue :=
  match parseValue (2 * cs.length) cs with
  | some (v, rest) => if skipJsonSpace rest = [] then some v else none
  | none => none

end JSON

/-! ## The steps of the reader -/

section Steps
variable {fuel : Nat} {cs rest behind : List Char} {v : JsValue}

theorem parseValue_list_nil (hopen : skipJsonSpace cs = '[' :: rest) (hclose : skipJsonSpace rest = ']' :: behind) :
    parseValue (fuel + 1) cs = some (.arr [], behind) := by
  rw [parseValue, hopen]
  dsimp only
  rw [if_pos rfl, hclose]
  rfl

theorem parseValue_list {items : List JsValue} {inside : List Char} (hopen : skipJsonSpace cs = '[' :: rest)
    (hinside : skipJsonSpace rest = c :: inside) (hc : c ≠ ']')
    (hitems : parseItems fuel (c :: inside) = some (items, behind)) :
    parseValue (fuel + 1) cs = some (.arr items, behind) := by
  rw [parseValue, hopen]
  dsimp only
  rw [if_pos rfl, hinside]
  split
  · rename_i heq
    exact absurd (List.cons.inj heq).1 hc
  · rw [hitems]
    rfl

theorem parseValue_object_nil (hopen : skipJsonSpace cs = '\x7b' :: rest) (hclose : skipJsonSpace rest = '\x7d' :: behind) :
    parseValue (fuel + 1) cs = some (.obj [], behind) := by
  rw [parseValue, hopen]
  dsimp only
  rw [if_neg (by decide), if_pos rfl, hclose]
  rfl

theorem parseValue_object {members : List (String × JsValue)} {inside : List Char}
    (hopen : skipJsonSpace cs = '\x7b' :: rest) (hinside : skipJsonSpace rest = c :: inside) (hc : c ≠ '\x7d')
    (hmembers : parseMembers fuel (c :: inside) = some (members, behind)) :
    parseValue (fuel + 1) cs = some (.obj (ofEntries members), behind) := by
  rw [parseValue, hopen]
  dsimp only
  rw [if_neg (by decide), if_pos rfl, hinside]
  split
  · rename_i heq
    exact absurd (List.cons.inj heq).1 hc
  · rw [hmembers]
    rfl

theorem parseItems_last (hv : parseValue fuel cs = some (v, rest)) (hclose : skipJsonSpace rest = ']' :: behind) :
    parseItems (fuel + 1) cs = some ([v], behind) := by
  rw [parseItems, hv]
  show (match skipJsonSpace rest with
    | ',' :: rest => (parseItems fuel rest).bind fun r => some (v :: r.1, r.2)
    | ']' :: rest => some ([v], rest)
    | _ => none) = _
  rw [hclose]
  rfl

theorem parseItems_more {items : List JsValue} (hv : parseValue fuel cs = some (v, ',' :: rest))
    (hitems : parseItems fuel rest = some (items, behind)) : parseItems (fuel + 1) cs = some (v :: items, behind) := by
  rw [parseItems, hv]
  show ((parseItems fuel rest).bind fun r => some (v :: r.1, r.2)) = _
  rw [hitems]
  rfl

variable {key : List Char} {k : String}

theorem parseMembers_last (hk : readKey cs = some (k, key)) (hv : parseValue fuel key = some (v, rest))
    (hclose : skipJsonSpace rest = '\x7d' :: behind) : parseMembers (fuel + 1) cs = some ([(k, v)], behind) := by
  rw [parseMembers, hk]
  show ((parseValue fuel key).bind fun r =>
    match skipJsonSpace r.2 with
    | ',' :: rest => (parseMembers fuel rest).bind fun s => some ((k, r.1) :: s.1, s.2)
    | '\x7d' :: rest => some ([(k, r.1)], rest)
    | _ => none) = _
  rw [hv, Option.bind_some, hclose]
  rfl

theorem parseMembers_more {members : List (String × JsValue)} (hk : readKey cs = some (k, key))
    (hv : parseValue fuel key = some (v, ',' :: rest)) (hmembers : parseMembers fuel rest = some (members, behind)) :
    parseMembers (fuel + 1) cs = some ((k, v) :: members, behind) := by
  rw [parseMembers, hk]
  show ((parseValue fuel key).bind fun r =>
    match skipJsonSpace r.2 with
    | ',' :: rest => (parseMembers fuel rest).bind fun s => some ((k, r.1) :: s.1, s.2)
    | '\x7d' :: rest => some ([(k, r.1)], rest)
    | _ => none) = _
  rw [hv, Option.bind_some]
  show ((parseMembers fuel rest).bind fun s => some ((k, v) :: s.1, s.2)) = _
  rw [hmembers]
  rfl

end Steps

/-! ## A value is read back -/

def Spaces (lead : List Char) : Prop := ∀ c ∈ lead, isJsonSpace c = true

theorem spaces_nil : Spaces [] := nofun

variable {lead : List Char}

theorem skipJsonSpace_append {cs : List Char} (hlead : Spaces lead) (hc : isJsonSpace c = false) :
    skipJsonSpace (lead ++ c :: cs) = c :: cs := by
  unfold skipJsonSpace
  rw [List.dropWhile_append_of_pos hlead, List.dropWhile_cons_of_neg (by rw [hc]; exact Bool.false_ne_true)]

theorem spaces_newline {gap : List Char} (hgap : Spaces gap) (level : Nat) : Spaces (newline gap level) := by
  unfold newline
  split
  · exact nofun
  · refine List.forall_mem_cons.mpr ⟨rfl, fun c hc => ?_⟩
    obtain ⟨cs, hcs, hc⟩ := List.mem_flatten.mp hc
    rw [List.eq_of_mem_replicate hcs] at hc
    exact hgap c hc

variable {rest : List Char}

theorem endsLiteral_cons (hc : c ∈ [',', '\n', ']', '\x7d']) : EndsLiteral (c :: rest) := by
  intro d hd
  obtain rfl : c = d := Option.some.inj hd
  simp only [List.mem_cons, List.not_mem_nil, or_false] at hc
  rcases hc with rfl | rfl | rfl | rfl <;> decide

theorem endsLiteral_newline (gap : List Char) (level : Nat) (hc : c ∈ [',', '\n', ']', '\x7d']) :
    EndsLiteral (newline gap level ++ c :: rest) := by
  unfold newline
  split
  · exact endsLiteral_cons hc
  · exact endsLiteral_cons (by decide)

theorem parseValue_word {fuel : Nat} {cs : List Char} (hlead : Spaces lead) (hspace : isJsonSpace c = false)
    (hc : c ∉ ['[', '\x7b', quote]) : parseValue (fuel + 1) (lead ++ c :: cs) = parseWord (c :: cs) := by
  simp only [List.mem_cons, List.not_mem_nil, or_false, not_or] at hc
  rw [parseValue, skipJsonSpace_append hlead hspace]
  dsimp only
  rw [if_neg hc.1, if_neg hc.2.1, if_neg hc.2.2]

variable {v : JsValue}

section ReadBack
variable (numbers : NumberTexts)

theorem head_number (x : Double) : ∃ c cs, x.text numbers = c :: cs ∧ (c.isDigit = true ∨ c = '-') := by
  obtain ⟨c, hc, hdigit⟩ := x.head?_literal numbers
  obtain ⟨cs, htext⟩ := List.head?_eq_some_iff.mp hc
  unfold Double.text
  split
  · exact ⟨'-', _, rfl, .inr rfl⟩
  · exact ⟨c, cs, htext, .inl hdigit⟩

theorem ne_of_number {d : Char} (hc : c.isDigit = true ∨ c = '-') (hd : d.isDigit = false) (hminus : d ≠ '-') : c ≠ d := by
  rintro rfl
  rcases hc with hc | hc
  · rw [hd] at hc
    cases hc
  · exact hminus hc

theorem isJsonSpace_number (hc : c.isDigit = true ∨ c = '-') : isJsonSpace c = false := by
  unfold isJsonSpace
  simp only [ne_of_number hc (show ' '.isDigit = false from rfl) (by decide),
    ne_of_number hc (show '\n'.isDigit = false from rfl) (by decide),
    ne_of_number hc (show '\r'.isDigit = false from rfl) (by decide),
    ne_of_number hc (show '\t'.isDigit = false from rfl) (by decide), decide_false, Bool.or_false]

theorem parseWord_number (x : Double) (hrest : EndsLiteral rest) :
    parseWord (x.text numbers ++ rest) = some (.num (.finite x), rest) := by
  obtain ⟨c, cs, htext, hc⟩ := head_number numbers x
  have hword : ∀ (d : Char) (ds : List Char), d.isDigit = false → d ≠ '-' → ¬ d :: ds <+: x.text numbers ++ rest := by
    intro d ds hd hminus hprefix
    rw [htext] at hprefix
    exact ne_of_number hc hd hminus (List.cons_prefix_cons.mp hprefix).1.symm
  have hnull : ¬ "null".toList <+: x.text numbers ++ rest := hword 'n' "ull".toList rfl (by decide)
  have htrue : ¬ "true".toList <+: x.text numbers ++ rest := hword 't' "rue".toList rfl (by decide)
  have hfalse : ¬ "false".toList <+: x.text numbers ++ rest := hword 'f' "alse".toList rfl (by decide)
  unfold parseWord
  rw [if_neg hnull, if_neg htrue, if_neg hfalse, x.readNumber?_text numbers hrest]
  rfl

theorem parseWord_null (rest : List Char) : parseWord ("null".toList ++ rest) = some (.null, rest) :=
  if_pos (List.prefix_append _ _)

theorem parseWord_bool (b : Bool) (rest : List Char) :
    parseWord ((if b then "true".toList else "false".toList) ++ rest) = some (.bool b, rest) := by
  cases b with
  | true =>
    have hnull : ¬ "null".toList <+: "true".toList ++ rest := fun h => absurd (List.cons_prefix_cons.mp h).1 (by decide)
    exact (if_neg hnull).trans (if_pos (List.prefix_append _ _))
  | false =>
    have hnull : ¬ "null".toList <+: "false".toList ++ rest := fun h => absurd (List.cons_prefix_cons.mp h).1 (by decide)
    have htrue : ¬ "true".toList <+: "false".toList ++ rest := fun h => absurd (List.cons_prefix_cons.mp h).1 (by decide)
    exact (if_neg hnull).trans ((if_neg htrue).trans (if_pos (List.prefix_append _ _)))

variable (gap : List Char)

theorem head_stringifyAt (level : Nat) (v : JsValue) : ∃ c cs, stringifyAt numbers gap level v = c :: cs ∧
    isJsonSpace c = false ∧ c ≠ ']' ∧ c ≠ '_' := by
  cases v with
  | null => exact ⟨'n', _, rfl, rfl, by decide, by decide⟩
  | bool b =>
    cases b with
    | true => exact ⟨'t', _, rfl, rfl, by decide, by decide⟩
    | false => exact ⟨'f', _, rfl, rfl, by decide, by decide⟩
  | num x =>
    cases x with
    | finite x =>
      obtain ⟨c, cs, htext, hc⟩ := head_number numbers x
      exact ⟨c, cs, htext, isJsonSpace_number hc, ne_of_number hc rfl (by decide), ne_of_number hc rfl (by decide)⟩
    | infinite negative => exact ⟨'n', _, rfl, rfl, by decide, by decide⟩
  | str s => exact ⟨quote, _, rfl, rfl, by decide, by decide⟩
  | arr items => cases items <;> exact ⟨'[', _, rfl, rfl, by decide, by decide⟩
  | obj fields => cases fields <;> exact ⟨'\x7b', _, rfl, rfl, by decide, by decide⟩

theorem endsLiteral_items (level : Nat) (items : List JsValue) (hc : c ∈ [',', '\n', ']', '\x7d']) :
    EndsLiteral (stringifyItems numbers gap level items ++ (newline gap level ++ c :: rest)) := by
  cases items with
  | nil => exact endsLiteral_newline gap level hc
  | cons v items => exact endsLiteral_cons (by decide)

theorem endsLiteral_fields (level : Nat) (fields : Fields) (hc : c ∈ [',', '\n', ']', '\x7d']) :
    EndsLiteral (stringifyFields numbers gap level fields ++ (newline gap level ++ c :: rest)) := by
  cases fields with
  | nil => exact endsLiteral_newline gap level hc
  | cons f fields => exact endsLiteral_cons (by decide)

/-- A value is read back as it is shown, from behind some white space and in front of what ends a number. -/
def ReadsBack (v : JsValue) : Prop :=
  ∀ (level : Nat) (lead rest : List Char) (fuel : Nat), Spaces lead → EndsLiteral rest →
    2 * (stringifyAt numbers gap level v).length ≤ fuel →
      parseValue fuel (lead ++ (stringifyAt numbers gap level v ++ rest)) = some (v.shown, rest)

variable {gap} (hgap : Spaces gap)
include hgap

theorem parseItems_stringify {items : List JsValue} (hback : ∀ w ∈ v :: items, ReadsBack numbers gap w)
    {level : Nat} {fuel : Nat} (hlead : Spaces lead)
    (hfuel : 2 * ((stringifyAt numbers gap (level + 1) v).length +
      (stringifyItems numbers gap level items).length) + 1 ≤ fuel) :
    parseItems fuel (lead ++ (stringifyAt numbers gap (level + 1) v ++ (stringifyItems numbers gap level items ++
      (newline gap level ++ ']' :: rest)))) = some ((v :: items).map JsValue.shown, rest) := by
  induction items generalizing v lead fuel with
  | nil =>
    obtain ⟨fuel, rfl⟩ : ∃ n, fuel = n + 1 := ⟨fuel - 1, by omega⟩
    have hv := hback v List.mem_cons_self (level + 1) lead (newline gap level ++ ']' :: rest) fuel hlead
      (endsLiteral_newline gap level (by decide)) (by omega)
    exact parseItems_last hv (skipJsonSpace_append (spaces_newline hgap level) rfl)
  | cons w items ih =>
    obtain ⟨fuel, rfl⟩ : ∃ n, fuel = n + 1 := ⟨fuel - 1, by omega⟩
    obtain ⟨hv, hitems⟩ := List.forall_mem_cons.mp hback
    simp only [stringifyItems, List.length_cons, List.length_append] at hfuel
    have hends : EndsLiteral (stringifyItems numbers gap level (w :: items) ++ (newline gap level ++ ']' :: rest)) :=
      endsLiteral_items numbers gap level _ (by decide)
    have hv := hv (level + 1) lead _ fuel hlead hends (by omega)
    simp only [stringifyItems, List.cons_append, List.append_assoc] at hv ⊢
    exact parseItems_more hv (ih hitems (spaces_newline hgap (level + 1)) (by omega))

omit hgap in
theorem readKey_quoted (hlead : Spaces lead) (k : String) (rest : List Char) :
    readKey (lead ++ (quoted k ++ ':' :: rest)) = some (k, rest) := by
  have hquoted : quoted k ++ ':' :: rest = quote :: (k.toList.flatMap escapeChar ++ quote :: ':' :: rest) := by
    simp [quoted]
  unfold readKey
  rw [hquoted, skipJsonSpace_append hlead rfl]
  dsimp only
  rw [if_pos rfl, readText_quoted]
  rfl

theorem parseMembers_stringify {k : String} {fields : Fields}
    (hback : ∀ f ∈ (k, v) :: fields, ReadsBack numbers gap f.2) {level : Nat} {fuel : Nat}
    (hlead : Spaces lead) (hfuel : 2 * ((stringifyAt numbers gap (level + 1) v).length +
      (stringifyFields numbers gap level fields).length) + 1 ≤ fuel) :
    parseMembers fuel (lead ++ (quoted k ++ (colon gap ++ (stringifyAt numbers gap (level + 1) v ++
      (stringifyFields numbers gap level fields ++ (newline gap level ++ '\x7d' :: rest)))))) =
        some (((k, v) :: fields).map fun f => (f.1, f.2.shown), rest) := by
  have hspace : Spaces (if gap = [] then [] else [' ']) := by
    split
    · exact nofun
    · exact List.forall_mem_singleton.mpr rfl
  induction fields generalizing k v lead fuel with
  | nil =>
    obtain ⟨fuel, rfl⟩ : ∃ n, fuel = n + 1 := ⟨fuel - 1, by omega⟩
    have hv : ReadsBack numbers gap v := hback (k, v) List.mem_cons_self
    have hends : EndsLiteral (newline gap level ++ '\x7d' :: rest) := endsLiteral_newline gap level (by decide)
    have hv := hv (level + 1) _ _ fuel hspace hends (by omega)
    exact parseMembers_last (readKey_quoted hlead k _) hv (skipJsonSpace_append (spaces_newline hgap level) rfl)
  | cons f fields ih =>
    obtain ⟨fuel, rfl⟩ : ∃ n, fuel = n + 1 := ⟨fuel - 1, by omega⟩
    obtain ⟨l, w⟩ := f
    obtain ⟨hv, hfields⟩ := List.forall_mem_cons.mp hback
    have hv : ReadsBack numbers gap v := hv
    simp only [stringifyFields, List.length_cons, List.length_append] at hfuel
    have hends : EndsLiteral (stringifyFields numbers gap level ((l, w) :: fields) ++
        (newline gap level ++ '\x7d' :: rest)) :=
      endsLiteral_fields numbers gap level _ (by decide)
    have hv := hv (level + 1) _ _ fuel hspace hends (by omega)
    simp only [stringifyFields, List.cons_append, List.append_assoc] at hv ⊢
    exact parseMembers_more (readKey_quoted hlead k _) hv (ih hfields (spaces_newline hgap (level + 1)) (by omega))

omit hgap in
theorem readsBack_word {text : List Char} (htext : ∀ level, stringifyAt numbers gap level v = text)
    (hhead : ∃ c cs, text = c :: cs ∧ isJsonSpace c = false ∧ c ∉ ['[', '\x7b', quote])
    (hparse : ∀ rest, EndsLiteral rest → parseWord (text ++ rest) = some (v.shown, rest)) : ReadsBack numbers gap v := by
  obtain ⟨c, cs, rfl, hspace, hc⟩ := hhead
  intro level lead rest fuel hlead hrest hfuel
  rw [htext, List.length_cons] at hfuel
  obtain ⟨fuel, rfl⟩ : ∃ n, fuel = n + 1 := ⟨fuel - 1, by omega⟩
  rw [htext, List.cons_append, parseValue_word hlead hspace hc]
  exact hparse rest hrest

/-- **A value is read back** as it is shown. -/
theorem parseValue_stringifyAt (h : v.WellFormed) : ReadsBack numbers gap v := by
  induction h with
  | null =>
    exact readsBack_word numbers (fun _ => rfl) ⟨'n', _, rfl, rfl, by decide⟩ fun rest _ => parseWord_null rest
  | bool b =>
    refine readsBack_word numbers (fun _ => ?_) ?_ fun rest _ => parseWord_bool b rest
    · cases b <;> rfl
    · cases b
      · exact ⟨'f', _, rfl, rfl, by decide⟩
      · exact ⟨'t', _, rfl, rfl, by decide⟩
  | num x =>
    cases x with
    | finite x =>
      obtain ⟨c, cs, htext, hc⟩ := head_number numbers x
      have hnone : c ∉ ['[', '\x7b', quote] := by
        simp only [List.mem_cons, List.not_mem_nil, or_false, not_or]
        exact ⟨ne_of_number hc rfl (by decide), ne_of_number hc rfl (by decide), ne_of_number hc rfl (by decide)⟩
      refine readsBack_word numbers (fun _ => htext) ⟨c, cs, rfl, isJsonSpace_number hc, hnone⟩ fun rest hrest => ?_
      rw [← htext]
      exact parseWord_number numbers x hrest
    | infinite negative =>
      exact readsBack_word numbers (fun _ => rfl) ⟨'n', _, rfl, rfl, by decide⟩ fun rest _ => parseWord_null rest
  | str s =>
    intro level lead rest fuel hlead _ hfuel
    obtain ⟨fuel, rfl⟩ : ∃ n, fuel = n + 1 := ⟨fuel - 1, by simp only [stringifyAt, quoted, List.length_cons] at hfuel; omega⟩
    have hquoted : stringifyAt numbers gap level (.str s) ++ rest =
        quote :: (s.toList.flatMap escapeChar ++ quote :: rest) := by
      simp [stringifyAt, quoted]
    rw [hquoted, parseValue, skipJsonSpace_append hlead rfl]
    dsimp only
    rw [if_neg (by decide), if_neg (by decide), if_pos rfl, readText_quoted]
    rfl
  | @arr items _ ih =>
    intro level lead rest fuel hlead _ hfuel
    cases items with
    | nil =>
      simp only [stringifyAt, List.length_cons] at hfuel
      obtain ⟨fuel, rfl⟩ : ∃ n, fuel = n + 1 := ⟨fuel - 1, by omega⟩
      exact parseValue_list_nil (skipJsonSpace_append hlead rfl) rfl
    | cons v items =>
      simp only [stringifyAt, List.length_cons, List.length_append] at hfuel
      obtain ⟨fuel, rfl⟩ : ∃ n, fuel = n + 1 := ⟨fuel - 1, by omega⟩
      obtain ⟨c, cs, htext, hspace, hc, -⟩ := head_stringifyAt numbers gap (level + 1) v
      have hshown : (JsValue.arr (v :: items)).shown = .arr ((v :: items).map JsValue.shown) := by
        rw [JsValue.shown, JsValue.shownItems_eq]
      rw [hshown]
      simp only [stringifyAt, List.cons_append, List.append_assoc, htext]
      refine parseValue_list (skipJsonSpace_append hlead rfl) (skipJsonSpace_append (spaces_newline hgap _) hspace) hc ?_
      rw [← List.cons_append, ← htext]
      show parseItems fuel ([] ++ (stringifyAt numbers gap (level + 1) v ++ _)) = _
      exact parseItems_stringify numbers hgap ih spaces_nil (by omega)
  | @obj fields listed _ ih =>
    intro level lead rest fuel hlead _ hfuel
    cases fields with
    | nil =>
      simp only [stringifyAt, List.length_cons] at hfuel
      obtain ⟨fuel, rfl⟩ : ∃ n, fuel = n + 1 := ⟨fuel - 1, by omega⟩
      exact parseValue_object_nil (skipJsonSpace_append hlead rfl) rfl
    | cons f fields =>
      obtain ⟨k, v⟩ := f
      simp only [stringifyAt, List.length_cons, List.length_append] at hfuel
      obtain ⟨fuel, rfl⟩ : ∃ n, fuel = n + 1 := ⟨fuel - 1, by omega⟩
      -- the keys that are read are different and in their order, as those of the object are
      have hshown : (JsValue.obj ((k, v) :: fields)).shown =
          .obj (ofEntries (((k, v) :: fields).map fun f => (f.1, f.2.shown))) := by
        rw [JsValue.shown, JsValue.shownFields_eq, ofEntries_of_listed (listed.map JsValue.shown)]
      rw [hshown]
      simp only [stringifyAt, List.cons_append, List.append_assoc]
      refine parseValue_object (c := quote) (skipJsonSpace_append hlead rfl)
        (skipJsonSpace_append (spaces_newline hgap _) rfl) (by decide) ?_
      show parseMembers fuel ([] ++ (quoted k ++ _)) = _
      exact parseMembers_stringify numbers hgap ih spaces_nil (by omega)

end ReadBack

theorem stringifyAt_shown (numbers : NumberTexts) (gap : List Char) (level : Nat) (v : JsValue) :
    stringifyAt numbers gap level v.shown = stringifyAt numbers gap level v := by
  induction v generalizing level with
  | null => rfl
  | bool b => rfl
  | num x => cases x <;> rfl
  | str s => rfl
  | arr items ih =>
    have hitems : ∀ items : List JsValue, (∀ v ∈ items, ∀ level, stringifyAt numbers gap level v.shown =
        stringifyAt numbers gap level v) →
          stringifyItems numbers gap level (JsValue.shownItems items) = stringifyItems numbers gap level items := by
      intro items h
      induction items with
      | nil => rfl
      | cons v items ih =>
        obtain ⟨hv, hitems⟩ := List.forall_mem_cons.mp h
        rw [JsValue.shownItems, stringifyItems, stringifyItems, hv, ih hitems]
    rw [JsValue.shown]
    cases items with
    | nil => rfl
    | cons v items =>
      obtain ⟨hv, hrest⟩ := List.forall_mem_cons.mp ih
      rw [JsValue.shownItems, stringifyAt, stringifyAt, hv, hitems items hrest]
  | obj fields ih =>
    have hfields : ∀ fields : Fields, (∀ f ∈ fields, ∀ level, stringifyAt numbers gap level f.2.shown =
        stringifyAt numbers gap level f.2) →
          stringifyFields numbers gap level (JsValue.shownFields fields) = stringifyFields numbers gap level fields := by
      intro fields h
      induction fields with
      | nil => rfl
      | cons f fields ih =>
        obtain ⟨hf, hfields⟩ := List.forall_mem_cons.mp h
        rw [JsValue.shownFields, stringifyFields, stringifyFields, hf, ih hfields]
    rw [JsValue.shown]
    cases fields with
    | nil => rfl
    | cons f fields =>
      obtain ⟨hf, hrest⟩ := List.forall_mem_cons.mp ih
      rw [JsValue.shownFields, stringifyAt, stringifyAt, hf, hfields fields hrest]

namespace JSON
variable (numbers : NumberTexts) {gap : List Char}

theorem parse_stringify (hgap : Spaces gap) (h : v.WellFormed) : parse (stringify numbers gap v) = some v.shown := by
  have hback := parseValue_stringifyAt numbers hgap h 0 [] [] _ nofun endsLiteral_nil le_rfl
  rw [List.nil_append, List.append_nil] at hback
  unfold parse stringify
  rw [hback]
  rfl

/-- **Values have the same text** only if they are shown alike. -/
theorem stringify_eq_iff (hgap : Spaces gap) {w : JsValue} (hv : v.WellFormed) (hw : w.WellFormed) :
    stringify numbers gap v = stringify numbers gap w ↔ v.shown = w.shown := by
  constructor
  · intro h
    have hback := parse_stringify numbers hgap hv
    rw [h, parse_stringify numbers hgap hw] at hback
    exact (Option.some.inj hback).symm
  · intro h
    unfold stringify
    rw [← stringifyAt_shown, h, stringifyAt_shown]

end JSON

end SiloForge.Frontend
