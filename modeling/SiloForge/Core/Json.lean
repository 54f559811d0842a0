import Mathlib.Data.List.DropRight

/-!
# JSON values and the texts in them

Request payloads and the JSON columns hold arbitrary values. An object keeps its keys in insertion order,
as the source's dictionaries do.

* `Json.get?`, `Json.setField` : reading and writing a key of an object;
* `Json.sortKeys` : the value with the keys of its objects in order, and `lookup_sortFields`: it reads the same.
-/

namespace SiloForge

/-- A uuid, as the number its 128 bits spell. -/
abbrev Uuid := Nat

abbrev Time := Nat

/-- A JSON value; a float is its 64 bits. -/
inductive Json where
  | null
  | bool (b : Bool)
  | int (n : Int)
  | float (bits : BitVec 64)
  | str (s : String)
  | arr (items : List Json)
  | obj (fields : List (String × Json))

namespace Json

def lookup (fields : List (String × Json)) (k : String) : Option Json :=
  (fields.find? fun f => f.1 = k).map Prod.snd

def get? : Json → String → Option Json
  | .obj fields, k => lookup fields k
  | _, _ => none

def setField (fields : List (String × Json)) (k : String) (v : Json) : List (String × Json) :=
  if fields.any (fun f => f.1 = k) then fields.map (fun f => if f.1 = k then (k, v) else f)
  else fields ++ [(k, v)]

def str? : Json → Option String
  | .str s => some s
  | _ => none

/-! ## Equality -/

mutual

def beq : Json → Json → Bool
  | .null, .null => true
  | .bool a, .bool b => a = b
  | .int a, .int b => a = b
  | .float a, .float b => a = b
  | .str a, .str b => a = b
  | .arr as, .arr bs => beqItems as bs
  | .obj as, .obj bs => beqFields as bs
  | _, _ => false

def beqItems : List Json → List Json → Bool
  | [], [] => true
  | a :: as, b :: bs => a.beq b && beqItems as bs
  | _, _ => false

def beqFields : List (String × Json) → List (String × Json) → Bool
  | [], [] => true
  | (k, a) :: as, (l, b) :: bs => k = l && a.beq b && beqFields as bs
  | _, _ => false

end

mutual

theorem beq_iff : ∀ a b : Json, a.beq b = true ↔ a = b
  | .null, b | .bool _, b | .int _, b | .float _, b | .str _, b => by cases b <;> simp [beq]
  | .arr as, b => by cases b <;> simp [beq, beqItems_iff as]
  | .obj as, b => by cases b <;> simp [beq, beqFields_iff as]

theorem beqItems_iff : ∀ as bs : List Json, beqItems as bs = true ↔ as = bs
  | [], bs => by cases bs <;> simp [beqItems]
  | a :: as, bs => by cases bs <;> simp [beqItems, beq_iff a, beqItems_iff as]

theorem beqFields_iff : ∀ as bs : List (String × Json), beqFields as bs = true ↔ as = bs
  | [], bs => by cases bs <;> simp [beqFields]
  | (k, a) :: as, bs => by
    cases bs with
    | nil => simp [beqFields]
    | cons f bs =>
      obtain ⟨l, b⟩ := f
      simp [beqFields, beq_iff a, beqFields_iff as]

end

instance : DecidableEq Json := fun a b => decidable_of_iff _ (beq_iff a b)

/-! ## Sorted keys -/

/-- A field put among fields whose keys are in order, before those with the same key. -/
def insertField (f : String × Json) : List (String × Json) → List (String × Json)
  | [] => [f]
  | g :: rest => if f.1 ≤ g.1 then f :: g :: rest else g :: insertField f rest

mutual

def sortKeys : Json → Json
  | .arr items => .arr (sortItems items)
  | .obj fields => .obj (sortFields fields)
  | j => j

def sortItems : List Json → List Json
  | [] => []
  | j :: rest => j.sortKeys :: sortItems rest

def sortFields : List (String × Json) → List (String × Json)
  | [] => []
  | (k, j) :: rest => insertField (k, j.sortKeys) (sortFields rest)

end

theorem lookup_nil (k : String) : lookup [] k = none := rfl

theorem lookup_cons (f : String × Json) (fields : List (String × Json)) (k : String) :
    lookup (f :: fields) k = if f.1 = k then some f.2 else lookup fields k := by
  unfold lookup
  by_cases h : f.1 = k
  · rw [List.find?_cons_of_pos (by simpa using h), if_pos h]
    rfl
  · rw [List.find?_cons_of_neg (by simpa using h), if_neg h]

variable {fields : List (String × Json)} {k : String}

theorem mem_setField {v : Json} {f : String × Json} (hf : f ∈ setField fields k v) :
    f = (k, v) ∨ f ∈ fields ∧ f.1 ≠ k := by
  unfold setField at hf
  split at hf
  · obtain ⟨g, hg, rfl⟩ := List.mem_map.mp hf
    split
    · exact .inl rfl
    · rename_i hk
      exact .inr ⟨hg, hk⟩
  · rename_i hany
    obtain hf | hf := List.mem_append.mp hf
    · refine .inr ⟨hf, fun hk => hany (List.any_eq_true.mpr ⟨f, hf, decide_eq_true hk⟩)⟩
    · exact .inl (List.mem_singleton.mp hf)

theorem lookup_insertField (f : String × Json) (fields : List (String × Json)) (k : String) :
    lookup (insertField f fields) k = if f.1 = k then some f.2 else lookup fields k := by
  induction fields with
  | nil => exact lookup_cons f [] k
  | cons g rest ih =>
    unfold insertField
    split
    · exact lookup_cons f _ k
    · rename_i hle
      rw [lookup_cons, ih, lookup_cons]
      by_cases hg : g.1 = k
      · -- the keys differ, so that `f` is not in the way
        have hf : f.1 ≠ k := by
          rintro rfl
          exact hle (hg ▸ String.le_refl _)
        rw [if_pos hg, if_neg hf, if_pos hg]
      · rw [if_neg hg, if_neg hg]

/-- **Sorting the keys** changes no field but for the order inside it. -/
theorem lookup_sortFields (fields : List (String × Json)) (k : String) :
    lookup (sortFields fields) k = (lookup fields k).map sortKeys := by
  induction fields with
  | nil => rfl
  | cons f rest ih =>
    obtain ⟨key, value⟩ := f
    unfold sortFields
    rw [lookup_insertField, lookup_cons, ih]
    split <;> rfl

theorem lookup_append (fields fields' : List (String × Json)) (k : String) :
    lookup (fields ++ fields') k = (lookup fields k).or (lookup fields' k) := by
  induction fields with
  | nil => rfl
  | cons f rest ih =>
    rw [List.cons_append, lookup_cons, lookup_cons, ih]
    split <;> rfl

theorem lookup_eq_none : lookup fields k = none ↔ fields.any (fun f => f.1 = k) = false := by
  unfold lookup
  rw [Option.map_eq_none_iff, List.find?_eq_none, List.any_eq_false]

theorem lookup_replace (fields : List (String × Json)) (k k' : String) (v : Json) :
    lookup (fields.map fun f => if f.1 = k then (k, v) else f) k' =
      (lookup fields k').map fun old => if k = k' then v else old := by
  induction fields with
  | nil => rfl
  | cons f rest ih =>
    rw [List.map_cons, lookup_cons, lookup_cons, ih]
    by_cases hf : f.1 = k
    · rw [if_pos hf, hf]
      by_cases hk : k = k'
      · rw [if_pos hk, if_pos hk, Option.map_some, if_pos hk]
      · rw [if_neg hk, if_neg hk]
    · rw [if_neg hf]
      by_cases hk' : f.1 = k'
      · have hk : k ≠ k' := fun h => hf (hk'.trans h.symm)
        rw [if_pos hk', if_pos hk', Option.map_some, if_neg hk]
      · rw [if_neg hk', if_neg hk']

theorem lookup_setField (fields : List (String × Json)) (k k' : String) (v : Json) :
    lookup (setField fields k v) k' = if k = k' then some v else lookup fields k' := by
  have hnone := @lookup_eq_none fields k
  unfold setField
  cases hany : fields.any (fun f => f.1 = k) with
  | true =>
    rw [if_pos rfl, lookup_replace]
    by_cases hk : k = k'
    · subst hk
      have hsome : lookup fields k ≠ none := by
        rw [Ne, hnone, hany]
        exact nofun
      obtain ⟨old, hold⟩ := Option.ne_none_iff_exists'.mp hsome
      rw [hold, Option.map_some, if_pos rfl, if_pos rfl]
    · simp only [if_neg hk, Option.map_id']
  | false =>
    rw [if_neg Bool.false_ne_true, lookup_append, lookup_cons, lookup_nil]
    by_cases hk : k = k'
    · subst hk
      rw [if_pos rfl, if_pos rfl, hnone.mpr hany]
      rfl
    · rw [if_neg hk, if_neg hk, Option.or_none]

theorem isSome_lookup : (lookup fields k).isSome ↔ k ∈ fields.map Prod.fst := by
  unfold lookup
  rw [Option.isSome_map, List.find?_isSome, List.mem_map]
  simp only [decide_eq_true_eq]

theorem lookup_eq_none_of_not_mem (h : k ∉ fields.map Prod.fst) : lookup fields k = none :=
  Option.not_isSome_iff_eq_none.mp (mt isSome_lookup.mp h)

theorem lookup_of_mem (hnodup : (fields.map Prod.fst).Nodup) {g : String × Json} (hg : g ∈ fields) :
    lookup fields g.1 = some g.2 := by
  induction fields with
  | nil => cases hg
  | cons f fields ih =>
    obtain ⟨hnot, hnodup⟩ := List.nodup_cons.mp hnodup
    rw [lookup_cons]
    rcases List.mem_cons.mp hg with rfl | hg
    · exact if_pos rfl
    · have hne : f.1 ≠ g.1 := fun hkey => hnot (List.mem_map.mpr ⟨g, hg, hkey.symm⟩)
      rw [if_neg hne]
      exact ih hnodup hg

theorem mem_of_lookup {v : Json} (h : lookup fields k = some v) : (k, v) ∈ fields := by
  obtain ⟨f, hfind, rfl⟩ := Option.map_eq_some_iff.mp h
  have hkey : f.1 = k := by simpa using List.find?_some hfind
  exact hkey ▸ List.mem_of_find?_eq_some hfind

theorem keys_setField {k' : String} {v : Json} :
    k' ∈ (setField fields k v).map Prod.fst ↔ k = k' ∨ k' ∈ fields.map Prod.fst := by
  rw [← isSome_lookup, lookup_setField, ← isSome_lookup]
  by_cases hk : k = k'
  · rw [if_pos hk]
    exact ⟨fun _ => .inl hk, fun _ => rfl⟩
  · rw [if_neg hk]
    exact ⟨.inr, fun h => h.resolve_left hk⟩

theorem mem_insertField {f g : String × Json} : g ∈ insertField f fields ↔ g = f ∨ g ∈ fields := by
  induction fields with
  | nil => simp [insertField]
  | cons h rest ih =>
    unfold insertField
    split
    · exact List.mem_cons
    · rw [List.mem_cons, ih, List.mem_cons]
      exact or_left_comm

theorem mem_keys_sortFields : k ∈ (sortFields fields).map Prod.fst ↔ k ∈ fields.map Prod.fst := by
  induction fields with
  | nil => rfl
  | cons f rest ih =>
    obtain ⟨key, value⟩ := f
    unfold sortFields
    rw [List.map_cons, List.mem_cons, ← ih]
    simp only [List.mem_map, mem_insertField, or_and_right, exists_or, exists_eq_left]
    exact or_congr eq_comm Iff.rfl

end Json

/-! ## Texts -/

def isSpace (c : Char) : Bool :=
  c.toNat ∈ [0x9, 0xa, 0xb, 0xc, 0xd, 0x1c, 0x1d, 0x1e, 0x1f, 0x20, 0x85, 0xa0, 0x1680, 0x2028, 0x2029,
    0x202f, 0x205f, 0x3000] || (0x2000 ≤ c.toNat && c.toNat ≤ 0x200a)

def strip (s : String) : String :=
  String.ofList ((s.toList.dropWhile isSpace).reverse.dropWhile isSpace).reverse

@[simp] theorem strip_strip (s : String) : strip (strip s) = strip s := by
  have htrim : ∀ l : List Char, ((l.dropWhile isSpace).rdropWhile isSpace).dropWhile isSpace =
      (l.dropWhile isSpace).rdropWhile isSpace := by
    intro l
    rw [List.dropWhile_eq_self_iff]
    intro hl
    -- the first character left is the first one that is not dropped
    rw [List.IsPrefix.getElem (List.rdropWhile_prefix isSpace _) hl]
    exact List.dropWhile_get_zero_not isSpace l _
  unfold strip
  rw [String.toList_ofList]
  show String.ofList ((((s.toList.dropWhile isSpace).rdropWhile isSpace).dropWhile isSpace).rdropWhile isSpace) = _
  rw [htrim, List.rdropWhile_idempotent]
  rfl

def isBlank (s : String) : Bool := s.toList.all isSpace

/-- A field validator of the schemas: trim, and turn a blank text into an absent one. -/
def normalizeText (s : Option String) : Option String :=
  s.bind fun t => if isBlank t then none else some (strip t)

namespace Uuid

def hexDigit? (c : Char) : Option Nat :=
  if '0' ≤ c ∧ c ≤ '9' then some (c.toNat - '0'.toNat)
  else if 'a' ≤ c ∧ c ≤ 'f' then some (c.toNat - 'a'.toNat + 10)
  else if 'A' ≤ c ∧ c ≤ 'F' then some (c.toNat - 'A'.toNat + 10)
  else none

/-- A text without the occurrences of `pat`, read from left to right. -/
def removeText (pat : List Char) : Nat → List Char → List Char
  | 0, cs => cs
  | _, [] => []
  | n + 1, c :: cs =>
    if pat.isPrefixOf (c :: cs) then removeText pat n ((c :: cs).drop pat.length)
    else c :: removeText pat n cs

def isBrace (c : Char) : Bool := c = '\x7b' || c = '\x7d'

/-- The uuid of a text: 32 hexadecimal digits, once prefixes, braces and dashes are gone. -/
def ofString? (s : String) : Option Uuid :=
  let cs := removeText "urn:".toList s.length s.toList
  let cs := removeText "uuid:".toList s.length cs
  let cs := ((cs.dropWhile isBrace).reverse.dropWhile isBrace).reverse
  let digits := cs.filter (fun c => c ≠ '-')
  if digits.length = 32 then
    digits.foldl (fun acc c => acc.bind fun n => (hexDigit? c).map fun d => 16 * n + d) (some 0)
  else none

end Uuid

end SiloForge
