import SiloForge.Frontend.Numbers
import SiloForge.Lib.Entries

/-!
# Values in the browser

An object lists its keys in an order of its own: those that are array indices in front, from the smallest to the largest,
and the others as they were set.

* `JsValue`, `WellFormed` : values, and those whose objects are in that order;
* `ofEntries`, `assignAll` : the object that is made by setting keys, or by assigning to them;
* `equal` : whether two values are the same, whatever the order of their keys;
* `shown` : a value as its text shows it.
-/

namespace SiloForge.Frontend

open Lib

/-- A value; an object is its keys with their values, as they are listed. -/
inductive JsValue where
  | null
  | bool (b : Bool)
  | num (x : Number)
  | str (s : String)
  | arr (items : List JsValue)
  | obj (fields : List (String × JsValue))

abbrev Fields := List (String × JsValue)

namespace JsValue

@[induction_eliminator]
theorem induct {P : JsValue → Prop} (null : P .null) (bool : ∀ b, P (.bool b)) (num : ∀ x, P (.num x))
    (str : ∀ s, P (.str s)) (arr : ∀ items, (∀ v ∈ items, P v) → P (.arr items))
    (obj : ∀ fields, (∀ f ∈ fields, P f.2) → P (.obj fields)) : ∀ v, P v
  | .null => null
  | .bool b => bool b
  | .num x => num x
  | .str s => str s
  | .arr items => arr items fun v _ => induct null bool num str arr obj v
  | .obj fields => obj fields fun f _ => induct null bool num str arr obj f.2
termination_by v => sizeOf v
decreasing_by
  · have := List.sizeOf_lt_of_mem ‹v ∈ items›
    simp only [JsValue.arr.sizeOf_spec]
    omega
  · have := List.sizeOf_lt_of_mem ‹f ∈ fields›
    obtain ⟨k, v⟩ := f
    simp only [JsValue.obj.sizeOf_spec, Prod.mk.sizeOf_spec] at this ⊢
    omega

def isRecordObject : JsValue → Bool
  | .obj _ => true
  | _ => false

def isArray : JsValue → Bool
  | .arr _ => true
  | _ => false

def isNull : JsValue → Bool
  | .null => true
  | _ => false

end JsValue

/-! ## The order of keys -/

/-- The number of a key that is an array index: its digits spell it, without a zero in front. -/
def arrayIndex? (k : String) : Option Nat :=
  let n := Nat.ofDigitChars 10 k.toList 0
  if n < 2 ^ 32 - 1 ∧ Nat.toDigits 10 n = k.toList then some n else none

/-- A key is listed in front of another one, if it was set before it. -/
def ListedBefore (k l : String) : Prop :=
  match arrayIndex? k, arrayIndex? l with
  | some m, some n => m ≤ n
  | none, some _ => False
  | _, none => True

instance : DecidableRel ListedBefore := fun k l => by
  unfold ListedBefore
  split <;> infer_instance

theorem arrayIndex?_inj {k l : String} {n : Nat} (hk : arrayIndex? k = some n) (hl : arrayIndex? l = some n) : k = l := by
  unfold arrayIndex? at hk hl
  dsimp only at hk hl
  split at hk
  · rename_i h
    split at hl
    · rename_i h'
      obtain rfl := Option.some.inj hk
      refine String.toList_inj.mp ?_
      rw [← h.2, ← h'.2, Option.some.inj hl]
    · cases hl
  · cases hk

theorem arrayIndex?_eq_none {k l : String} (hkl : ListedBefore k l) (hlk : ListedBefore l k) (hne : k ≠ l) :
    arrayIndex? k = none ∧ arrayIndex? l = none := by
  unfold ListedBefore at hkl hlk
  cases hk : arrayIndex? k with
  | none =>
    cases hl : arrayIndex? l with
    | none => exact ⟨rfl, rfl⟩
    | some n =>
      rw [hk, hl] at hkl
      cases hkl
  | some m =>
    cases hl : arrayIndex? l with
    | none =>
      rw [hk, hl] at hlk
      cases hlk
    | some n =>
      rw [hk, hl] at hkl hlk
      obtain rfl : m = n := le_antisymm hkl hlk
      exact absurd (arrayIndex?_inj hk hl) hne

/-- The entries of an object are in the order of their keys. -/
abbrev ListedEntries (f g : String × JsValue) : Prop := ListedBefore f.1 g.1

instance : Std.Total ListedEntries := by
  refine ⟨fun f g => ?_⟩
  unfold ListedEntries ListedBefore
  cases arrayIndex? f.1 <;> cases arrayIndex? g.1 <;> simp
  exact le_total _ _

instance : IsTrans (String × JsValue) ListedEntries := by
  refine ⟨fun f g h hfg hgh => ?_⟩
  unfold ListedEntries ListedBefore at *
  cases hf : arrayIndex? f.1 <;> cases hg : arrayIndex? g.1 <;> cases hh : arrayIndex? h.1 <;>
    simp only [hf, hg, hh] at hfg hgh ⊢
  exact hfg.trans hgh

/-- No key twice, and the keys in their order. -/
structure Listed (fields : Fields) : Prop where
  nodup : (fields.map Prod.fst).Nodup
  ordered : fields.Pairwise ListedEntries

def ofEntries (entries : List (String × JsValue)) : Fields := (setEntries [] entries).insertionSort ListedEntries

/-- The object that is made by assigning to keys one after another. Assigning to `__proto__` sets no key. -/
def assignAll (entries : List (String × JsValue)) : Fields := ofEntries (entries.filter fun e => e.1 ≠ "__proto__")

variable {fields : Fields}

section OfEntries
variable {entries : List (String × JsValue)}

theorem listed_ofEntries (entries : List (String × JsValue)) : Listed (ofEntries entries) where
  nodup := (((List.perm_insertionSort _ _).map Prod.fst).nodup_iff).mpr (nodup_keys_setEntries entries List.nodup_nil)
  ordered := List.pairwise_insertionSort _ _

theorem ofEntries_of_nodup (h : (entries.map Prod.fst).Nodup) :
    ofEntries entries = entries.insertionSort ListedEntries := by
  unfold ofEntries
  rw [setEntries_of_nodup h, List.nil_append]

theorem ofEntries_of_listed (h : Listed entries) : ofEntries entries = entries := by
  rw [ofEntries_of_nodup h.nodup, h.ordered.insertionSort_eq]

theorem mem_of_mem_ofEntries {e : String × JsValue} (h : e ∈ ofEntries entries) : e ∈ entries := by
  rcases mem_setEntries ((List.mem_insertionSort _).mp h) with h | h
  · exact h
  · cases h

theorem lookup_ofEntries (k : String) : (ofEntries entries).lookup k = (setEntries [] entries).lookup k :=
  lookup_perm (listed_ofEntries entries).nodup (List.perm_insertionSort _ _)

theorem lookup_ofEntries_append (h : (fields.map Prod.fst).Nodup) (h' : (entries.map Prod.fst).Nodup)
    (k : String) : (ofEntries (fields ++ entries)).lookup k = (entries.lookup k).or (fields.lookup k) := by
  have hsplit : setEntries [] (fields ++ entries) = setEntries (setEntries [] fields) entries := List.foldl_append
  have hset : setEntries [] fields = fields := setEntries_of_nodup h
  rw [lookup_ofEntries, hsplit, hset, lookup_setEntries h']

theorem mem_keys_assignAll {k : String} :
    k ∈ (assignAll entries).map Prod.fst ↔ k ≠ "__proto__" ∧ k ∈ entries.map Prod.fst := by
  unfold assignAll ofEntries
  rw [((List.perm_insertionSort _ _).map Prod.fst).mem_iff, mem_keys_setEntries]
  simp only [List.map_nil, List.not_mem_nil, false_or, List.mem_map, List.mem_filter, decide_eq_true_eq]
  constructor
  · rintro ⟨e, ⟨he, hne⟩, rfl⟩
    exact ⟨hne, e, he, rfl⟩
  · rintro ⟨hne, e, he, rfl⟩
    exact ⟨e, ⟨he, hne⟩, rfl⟩

theorem lookup_assignAll (f : String → JsValue) (h : ∀ e ∈ entries, e.2 = f e.1) (k : String) :
    (assignAll entries).lookup k = if k ∈ (assignAll entries).map Prod.fst then some (f k) else none := by
  have hkeys : k ∈ (assignAll entries).map Prod.fst ↔ k ∈ (entries.filter fun e => e.1 ≠ "__proto__").map Prod.fst := by
    rw [mem_keys_assignAll]
    simp only [List.mem_map, List.mem_filter, decide_eq_true_eq]
    constructor
    · rintro ⟨hne, e, he, rfl⟩
      exact ⟨e, ⟨he, hne⟩, rfl⟩
    · rintro ⟨e, ⟨he, hne⟩, rfl⟩
      exact ⟨hne, e, he, rfl⟩
  rw [if_congr hkeys rfl rfl]
  unfold assignAll
  rw [lookup_ofEntries, lookup_setEntries_nil f fun e he => h e (List.mem_filter.mp he).1]

end OfEntries

namespace JsValue

/-- No object in the value has a key twice, and all have their keys in their order. -/
inductive WellFormed : JsValue → Prop
  | null : WellFormed .null
  | bool (b : Bool) : WellFormed (.bool b)
  | num (x : Number) : WellFormed (.num x)
  | str (s : String) : WellFormed (.str s)
  | arr {items : List JsValue} (h : ∀ v ∈ items, WellFormed v) : WellFormed (.arr items)
  | obj {fields : Fields} (listed : Listed fields) (h : ∀ f ∈ fields, WellFormed f.2) : WellFormed (.obj fields)

/-! ## A response -/

mutual

/-- The value the browser reads, if the response can be written: a float that is no number cannot. -/
def fromJson : Json → Option JsValue
  | .null => some .null
  | .bool b => some (.bool b)
  | .int n => some (.num (.ofRat n))
  | .float bits =>
    match floatValue bits with
    | .finite q => some (.num (.ofRat q))
    | _ => none
  | .str s => some (.str s)
  | .arr items => (fromItems items).map .arr
  | .obj fields => (fromFields fields).map fun entries => .obj (ofEntries entries)

def fromItems : List Json → Option (List JsValue)
  | [] => some []
  | j :: items => do return (← fromJson j) :: (← fromItems items)

def fromFields : List (String × Json) → Option (List (String × JsValue))
  | [] => some []
  | (k, j) :: fields => do return (k, ← fromJson j) :: (← fromFields fields)

end

mutual

theorem wellFormed_fromJson : ∀ (j : Json) (v : JsValue), fromJson j = some v → v.WellFormed
  | .null, v, h => by
    obtain rfl := Option.some.inj h
    exact .null
  | .bool b, v, h => by
    obtain rfl := Option.some.inj h
    exact .bool b
  | .int n, v, h => by
    obtain rfl := Option.some.inj h
    exact .num _
  | .float bits, v, h => by
    unfold fromJson at h
    split at h
    · obtain rfl := Option.some.inj h
      exact .num _
    · cases h
  | .str s, v, h => by
    obtain rfl := Option.some.inj h
    exact .str s
  | .arr items, v, h => by
    obtain ⟨vs, hvs, rfl⟩ := Option.map_eq_some_iff.mp h
    exact .arr (wellFormed_fromItems items vs hvs)
  | .obj fields, v, h => by
    obtain ⟨entries, hentries, rfl⟩ := Option.map_eq_some_iff.mp h
    refine .obj (listed_ofEntries entries) fun f hf => ?_
    exact wellFormed_fromFields fields entries hentries f (mem_of_mem_ofEntries hf)

theorem wellFormed_fromItems : ∀ (items : List Json) (vs : List JsValue), fromItems items = some vs →
    ∀ v ∈ vs, v.WellFormed
  | [], vs, h => by
    obtain rfl := Option.some.inj h
    exact nofun
  | j :: items, vs, h => by
    obtain ⟨v, hv, h⟩ := Option.bind_eq_some_iff.mp h
    obtain ⟨vs', hvs', h⟩ := Option.bind_eq_some_iff.mp h
    obtain rfl := Option.some.inj h
    exact List.forall_mem_cons.mpr ⟨wellFormed_fromJson j v hv, wellFormed_fromItems items vs' hvs'⟩

theorem wellFormed_fromFields : ∀ (fields : List (String × Json)) (entries : List (String × JsValue)),
    fromFields fields = some entries → ∀ e ∈ entries, e.2.WellFormed
  | [], entries, h => by
    obtain rfl := Option.some.inj h
    exact nofun
  | (k, j) :: fields, entries, h => by
    obtain ⟨v, hv, h⟩ := Option.bind_eq_some_iff.mp h
    obtain ⟨entries', hentries', h⟩ := Option.bind_eq_some_iff.mp h
    obtain rfl := Option.some.inj h
    exact List.forall_mem_cons.mpr ⟨wellFormed_fromJson j v hv, wellFormed_fromFields fields entries' hentries'⟩

end

/-! ## Equality -/

mutual

def equal : JsValue → JsValue → Bool
  | .null, .null => true
  | .bool b, .bool b' => b = b'
  | .num x, .num y => x = y
  | .str s, .str s' => s = s'
  | .arr items, .arr items' => equalItems items items'
  | .obj fields, .obj fields' => fields.length = fields'.length && equalFields fields fields'
  | _, _ => false

def equalItems : List JsValue → List JsValue → Bool
  | [], [] => true
  | v :: vs, w :: ws => v.equal w && equalItems vs ws
  | _, _ => false

/-- Whether each key has an equal value among the others. -/
def equalFields : Fields → Fields → Bool
  | [], _ => true
  | (k, v) :: fields, fields' =>
    (match fields'.lookup k with
    | some w => v.equal w
    | none => false) && equalFields fields fields'

end

theorem equalItems_iff {vs ws : List JsValue} :
    equalItems vs ws = true ↔ List.Forall₂ (fun v w => v.equal w = true) vs ws := by
  induction vs generalizing ws with
  | nil => cases ws <;> simp [equalItems]
  | cons v vs ih => cases ws <;> simp [equalItems, ih]

theorem equalFields_iff {fields' : Fields} : equalFields fields fields' = true ↔
    ∀ f ∈ fields, ∃ w, fields'.lookup f.1 = some w ∧ f.2.equal w = true := by
  induction fields with
  | nil => simp [equalFields]
  | cons f fields ih =>
    obtain ⟨k, v⟩ := f
    rw [List.forall_mem_cons, ← ih, equalFields, Bool.and_eq_true]
    refine and_congr_left fun _ => ?_
    cases fields'.lookup k <;> simp

/-- **Objects are equal** if what is read of each key is. -/
theorem equal_obj_iff {fields' : Fields} (h : Listed fields) (h' : Listed fields') :
    equal (.obj fields) (.obj fields') = true ↔
      ∀ k, Option.Rel (fun v w => v.equal w = true) (fields.lookup k) (fields'.lookup k) := by
  rw [forall_rel_lookup_iff h.nodup h'.nodup, ← equalFields_iff]
  unfold equal
  rw [Bool.and_eq_true, decide_eq_true_iff]

theorem equal_refl {v : JsValue} (h : v.WellFormed) : v.equal v = true := by
  induction h with
  | null => rfl
  | bool b => exact decide_eq_true rfl
  | num x => exact decide_eq_true rfl
  | str s => exact decide_eq_true rfl
  | arr _ ih => exact equalItems_iff.mpr (List.forall₂_same.mpr ih)
  | @obj fields listed _ ih =>
    refine (equal_obj_iff listed listed).mpr fun k => ?_
    cases hk : fields.lookup k with
    | none => exact .none
    | some v => exact .some (ih _ (mem_of_lookup hk))

/-! ## What a text shows -/

mutual

/-- The value as its text shows it: there are no infinite numbers. -/
def shown : JsValue → JsValue
  | .num (.infinite _) => .null
  | .arr items => .arr (shownItems items)
  | .obj fields => .obj (shownFields fields)
  | v => v

def shownItems : List JsValue → List JsValue
  | [] => []
  | v :: vs => v.shown :: shownItems vs

def shownFields : Fields → Fields
  | [] => []
  | (k, v) :: fields => (k, v.shown) :: shownFields fields

end

theorem shownItems_eq (vs : List JsValue) : shownItems vs = vs.map shown := by
  induction vs with
  | nil => rfl
  | cons v vs ih => rw [shownItems, ih, List.map_cons]

theorem shownFields_eq (fields : Fields) : shownFields fields = fields.map fun f => (f.1, f.2.shown) := by
  induction fields with
  | nil => rfl
  | cons f fields ih => rw [shownFields, ih, List.map_cons]

inductive Finite : JsValue → Prop
  | null : Finite .null
  | bool (b : Bool) : Finite (.bool b)
  | num (x : Double) : Finite (.num (.finite x))
  | str (s : String) : Finite (.str s)
  | arr {items : List JsValue} (h : ∀ v ∈ items, Finite v) : Finite (.arr items)
  | obj {fields : Fields} (h : ∀ f ∈ fields, Finite f.2) : Finite (.obj fields)

end JsValue

theorem Listed.map (f : JsValue → JsValue) (h : Listed fields) : Listed (fields.map fun e => (e.1, f e.2)) where
  nodup := by
    rw [List.map_map]
    exact h.nodup
  ordered := List.pairwise_map.mpr h.ordered

namespace JsValue

theorem shown_of_finite {v : JsValue} (h : v.Finite) : v.shown = v := by
  induction h with
  | null => rfl
  | bool b => rfl
  | num x => rfl
  | str s => rfl
  | arr _ ih => rw [JsValue.shown, shownItems_eq, List.map_congr_left ih, List.map_id']
  | @obj fields _ ih =>
    have hfields : (fields.map fun f => (f.1, f.2.shown)) = fields.map id :=
      List.map_congr_left fun f hf => Prod.ext rfl (ih f hf)
    rw [JsValue.shown, shownFields_eq, hfields, List.map_id]

theorem equal_shown_iff {v : JsValue} (h : v.WellFormed) : v.shown.equal v = true ↔ v.Finite := by
  induction h with
  | null => exact iff_of_true rfl .null
  | bool b => exact iff_of_true (decide_eq_true rfl) (.bool b)
  | num x =>
    cases x with
    | finite x => exact iff_of_true (decide_eq_true rfl) (.num x)
    | infinite negative => exact iff_of_false Bool.false_ne_true nofun
  | str s => exact iff_of_true (decide_eq_true rfl) (.str s)
  | @arr items _ ih =>
    have hitems : equalItems (items.map JsValue.shown) items = true ↔ ∀ v ∈ items, v.Finite := by
      rw [equalItems_iff, List.forall₂_map_left_iff, List.forall₂_same]
      exact forall₂_congr fun v hv => ih v hv
    unfold JsValue.shown JsValue.equal
    rw [shownItems_eq, hitems]
    exact ⟨.arr, fun | .arr h => h⟩
  | @obj fields listed _ ih =>
    have hfields : (∀ k, Option.Rel (fun v w => v.equal w = true)
        ((fields.map fun f => (f.1, f.2.shown)).lookup k) (fields.lookup k)) ↔ ∀ f ∈ fields, f.2.Finite := by
      constructor
      · intro h f hf
        have hrel := h f.1
        rw [lookup_map, (lookup_eq_some_iff_mem listed.nodup).mpr hf, Option.map_some] at hrel
        cases hrel with
        | some hequal => exact (ih f hf).mp hequal
      · intro h k
        rw [lookup_map]
        cases hk : fields.lookup k with
        | none => exact .none
        | some v => exact .some ((ih _ (mem_of_lookup hk)).mpr (h _ (mem_of_lookup hk)))
    rw [JsValue.shown, shownFields_eq, equal_obj_iff (listed.map JsValue.shown) listed, hfields]
    exact ⟨.obj, fun | .obj h => h⟩

end JsValue

end SiloForge.Frontend
