import SiloForge.Frontend.CustomFields
import SiloForge.Silos.DispatchRanking

/-!
# The patch of the custom fields

The board sends the custom fields of a task whose values are not the same any more. Two values are compared by their
texts, with the keys of objects sorted, where the sort reaches them: it does not enter a list, unless it is in an
object, and of such a list it sorts the objects that are its items.

* `Alike`, `AlikeText` : the values that have the same text;
* `canonicalize_eq_iff` : no others have;
* `patchCorrect_iff` : when the patch is the difference of the values.
-/

namespace SiloForge.Frontend

open Lib
open Silos (Collation)

/-! ## Sorting keys -/

/-- `left.localeCompare(right)` does not put an entry behind another one. -/
abbrev InLocale (collation : Collation) (left right : String × JsValue) : Prop :=
  (collation.localeCompare left.1 right.1).isLE = true

instance (collation : Collation) : Std.Total (InLocale collation) := by
  have := collation.consistent
  refine ⟨fun left right => ?_⟩
  unfold InLocale
  cases h : collation.localeCompare left.1 right.1 with
  | lt => exact .inl rfl
  | eq => exact .inl rfl
  | gt => exact .inr (by rw [Std.OrientedCmp.lt_of_gt h]; rfl)

instance (collation : Collation) : IsTrans (String × JsValue) (InLocale collation) := by
  have := collation.consistent
  exact ⟨fun _ _ _ hxy hyz => Std.TransCmp.isLE_trans hxy hyz⟩

section Normalize
variable (collation : Collation)

def sortedObject (entries : List (String × JsValue)) : Fields := assignAll (entries.insertionSort (InLocale collation))

mutual

def normalizeValue : JsValue → JsValue
  | .obj fields => .obj (sortedObject collation (normalizeEntries fields))
  | .arr items => .arr (normalizeItems items)
  | v => v

def normalizeItems : List JsValue → List JsValue
  | [] => []
  | v :: items => (if v.isRecordObject then normalizeValue v else v) :: normalizeItems items

def normalizeEntries : Fields → List (String × JsValue)
  | [] => []
  | (k, v) :: fields => (k, normalizeValue v) :: normalizeEntries fields

end

def normalizeCustomFieldValues : JsValue → Fields
  | .obj fields => sortedObject collation (normalizeEntries collation fields)
  | _ => []

end Normalize

section Patch
variable (numbers : NumberTexts) (collation : Collation)

def canonicalizeCustomFieldValue (value : JsValue) : List Char :=
  if value.isNull then "__null__".toList
  else if value.isRecordObject then JSON.stringify numbers [] (.obj (normalizeCustomFieldValues collation value))
  else JSON.stringify numbers [] value

structure ValueMap where
  fields : Fields
  wellFormed : (JsValue.obj fields).WellFormed

def valueOf (values : Fields) (key : String) : JsValue := (values.lookup key).getD .null

def customFieldPatchPayload (definitions : List TaskCustomFieldDefinition) (currentValues nextValues : Fields) : Fields :=
  assignAll (definitions.filterMap fun definition =>
    let key := definition.fieldKey
    let currentValue := valueOf currentValues key
    let nextValue := valueOf nextValues key
    if canonicalizeCustomFieldValue numbers collation currentValue = canonicalizeCustomFieldValue numbers collation nextValue
    then none
    else some (key, nextValue))

/-- `{ ...currentValues, ...patch }`. -/
def override (currentValues patch : Fields) : Fields := ofEntries (currentValues ++ patch)

/-- The patch is the difference of the values: with it the current values are the next ones, and no field is in it
that is the same. -/
structure PatchCorrect (definitions : List TaskCustomFieldDefinition) (currentValues nextValues : Fields) : Prop where
  gives : ∀ definition ∈ definitions,
    (valueOf (override currentValues (customFieldPatchPayload numbers collation definitions currentValues nextValues))
      definition.fieldKey).equal (valueOf nextValues definition.fieldKey) = true
  minimal : ∀ key, key ∈ (customFieldPatchPayload numbers collation definitions currentValues nextValues).map Prod.fst ↔
    (∃ definition ∈ definitions, definition.fieldKey = key) ∧
      ¬ (valueOf currentValues key).equal (valueOf nextValues key) = true

end Patch

/-! ## Values with the same text -/

section Alike
variable (collation : Collation)

/-- Neither the order of an object nor `localeCompare` tells two keys apart. -/
structure Tied (k l : String) : Prop where
  left : k ≠ "__proto__"
  right : l ≠ "__proto__"
  left_index : arrayIndex? k = none
  right_index : arrayIndex? l = none
  compare : collation.localeCompare k l = .eq

/-- Keys that are tied stand in the same order. -/
def SameOrder (fields fields' : Fields) : Prop :=
  ∀ k l, Tied collation k l → [k, l].Sublist (fields.map Prod.fst) → [k, l].Sublist (fields'.map Prod.fst)

mutual

/-- Values whose texts are the same: objects have the same keys, but for `__proto__`, with values
that are alike, lists have items that are alike, and other values are shown as the same. -/
inductive Alike : JsValue → JsValue → Prop
  | obj {fields fields' : Fields}
      (hvalues : ∀ k, k ≠ "__proto__" → Option.Rel Alike (fields.lookup k) (fields'.lookup k))
      (horder : SameOrder collation fields fields') : Alike (.obj fields) (.obj fields')
  | arr {items items' : List JsValue} (hitems : List.Forall₂ AlikeItem items items') : Alike (.arr items) (.arr items')
  | other {v w : JsValue} (hobj : v.isRecordObject = false) (harr : v.isArray = false) (h : v.shown = w.shown) : Alike v w

/-- Items of two such lists: objects are alike, and any other values, with all that is in them, are shown as the same. -/
inductive AlikeItem : JsValue → JsValue → Prop
  | obj {v w : JsValue} (hv : v.isRecordObject = true) (h : Alike v w) : AlikeItem v w
  | other {v w : JsValue} (hv : v.isRecordObject = false) (h : v.shown = w.shown) : AlikeItem v w

end

/-- Values of two fields whose texts are the same: null is like no other value, and other values are alike as such items. -/
inductive AlikeText : JsValue → JsValue → Prop
  | null : AlikeText .null .null
  | value {v w : JsValue} (hv : v.isNull = false) (hw : w.isNull = false) (h : AlikeItem collation v w) : AlikeText v w

end Alike

/-! ## Sorted objects -/

section Sorted
variable (collation : Collation)

theorem normalizeEntries_eq (fields : Fields) :
    normalizeEntries collation fields = fields.map fun f => (f.1, normalizeValue collation f.2) := by
  induction fields with
  | nil => rfl
  | cons f fields ih => rw [normalizeEntries, ih, List.map_cons]

def normalizeItem (v : JsValue) : JsValue := if v.isRecordObject then normalizeValue collation v else v

theorem normalizeItems_eq (items : List JsValue) : normalizeItems collation items = items.map (normalizeItem collation) := by
  induction items with
  | nil => rfl
  | cons v items ih =>
    rw [normalizeItems, ih, List.map_cons]
    rfl

variable {collation}

theorem listed_sortedObject (entries : List (String × JsValue)) : Listed (sortedObject collation entries) :=
  listed_ofEntries _

theorem mem_of_mem_sortedObject {entries : List (String × JsValue)} {e : String × JsValue}
    (h : e ∈ sortedObject collation entries) : e ∈ entries :=
  (List.mem_insertionSort _).mp (List.mem_filter.mp (mem_of_mem_ofEntries h)).1

theorem wellFormed_normalizeValue {v : JsValue} (h : v.WellFormed) : (normalizeValue collation v).WellFormed := by
  induction h with
  | null => exact .null
  | bool b => exact .bool b
  | num x => exact .num x
  | str s => exact .str s
  | @arr items h ih =>
    rw [normalizeValue, normalizeItems_eq]
    refine .arr (List.forall_mem_map.mpr fun v hv => ?_)
    unfold normalizeItem
    split
    · exact ih v hv
    · exact h v hv
  | obj _ _ ih =>
    rw [normalizeValue]
    refine .obj (listed_sortedObject _) fun f hf => ?_
    have hmem := mem_of_mem_sortedObject hf
    rw [normalizeEntries_eq] at hmem
    obtain ⟨g, hg, rfl⟩ := List.mem_map.mp hmem
    exact ih g hg

variable (collation)

/-- A value as its text with sorted keys shows it. -/
def shownNormal (v : JsValue) : JsValue := (normalizeValue collation v).shown

def keptEntries (fields : Fields) : Fields :=
  (fields.map fun f => (f.1, shownNormal collation f.2)).filter fun f => f.1 ≠ "__proto__"

theorem keys_keptEntries (fields : Fields) :
    (keptEntries collation fields).map Prod.fst = (fields.map Prod.fst).filter fun k => k ≠ "__proto__" := by
  unfold keptEntries
  rw [List.filter_map, List.filter_map, List.map_map]
  rfl

theorem lookup_keptEntries (fields : Fields) (k : String) : (keptEntries collation fields).lookup k =
    if k ≠ "__proto__" then (fields.lookup k).map (shownNormal collation) else none := by
  unfold keptEntries
  rw [lookup_filter fun k => decide (k ≠ "__proto__"), lookup_map]
  simp

/-- **A sorted object** is shown as its entries, sorted by `localeCompare` and by the order of objects. -/
theorem shownFields_sortedObject {fields : Fields} (h : Listed fields) :
    JsValue.shownFields (sortedObject collation (normalizeEntries collation fields)) =
      ((keptEntries collation fields).insertionSort (InLocale collation)).insertionSort ListedEntries := by
  have hkeys : ((normalizeEntries collation fields).map Prod.fst).Nodup := by
    rw [normalizeEntries_eq, List.map_map]
    exact h.nodup
  have hnodup : (normalizeEntries collation fields).Nodup := List.Nodup.of_map _ hkeys
  have hsorted : ((((normalizeEntries collation fields).filter fun e => e.1 ≠ "__proto__").insertionSort
      (InLocale collation)).map Prod.fst).Nodup :=
    (((List.perm_insertionSort _ _).map Prod.fst).nodup_iff).mpr (hkeys.sublist (List.filter_sublist.map Prod.fst))
  have hshown : ((normalizeEntries collation fields).filter fun e => e.1 ≠ "__proto__").map (fun e => (e.1, e.2.shown)) =
      keptEntries collation fields := by
    unfold keptEntries
    rw [normalizeEntries_eq, List.filter_map, List.filter_map, List.map_map]
    rfl
  have hlisted : ∀ es : Fields, (es.insertionSort ListedEntries).map (fun e => (e.1, e.2.shown)) =
      (es.map fun e => (e.1, e.2.shown)).insertionSort ListedEntries :=
    fun es => List.map_insertionSort _ _ _ _ fun _ _ _ _ => Iff.rfl
  have hlocale : ∀ es : Fields, (es.insertionSort (InLocale collation)).map (fun e => (e.1, e.2.shown)) =
      (es.map fun e => (e.1, e.2.shown)).insertionSort (InLocale collation) :=
    fun es => List.map_insertionSort _ _ _ _ fun _ _ _ _ => Iff.rfl
  unfold sortedObject assignAll
  rw [filter_insertionSort hnodup, ofEntries_of_nodup hsorted, JsValue.shownFields_eq, hlisted, hlocale, hshown]

variable {collation} {fields fields' : Fields}

theorem nodup_keys_keptEntries (h : Listed fields) : ((keptEntries collation fields).map Prod.fst).Nodup := by
  rw [keys_keptEntries]
  exact h.nodup.filter _

variable {k l : String}

theorem tied_of_both (hk : k ≠ "__proto__") (hl : l ≠ "__proto__") (hne : k ≠ l) (hkl : ListedBefore k l)
    (hlk : ListedBefore l k) (hle : (collation.localeCompare k l).isLE = true)
    (hge : (collation.localeCompare l k).isLE = true) : Tied collation k l := by
  have := collation.consistent
  obtain ⟨hki, hli⟩ := arrayIndex?_eq_none hkl hlk hne
  refine ⟨hk, hl, hki, hli, ?_⟩
  cases h : collation.localeCompare k l with
  | eq => rfl
  | lt =>
    rw [Std.OrientedCmp.gt_of_lt h] at hge
    cases hge
  | gt =>
    rw [h] at hle
    cases hle

theorem Tied.listedBefore (h : Tied collation k l) : ListedBefore k l ∧ ListedBefore l k := by
  unfold ListedBefore
  rw [h.left_index, h.right_index]
  exact ⟨trivial, trivial⟩

theorem Tied.isLE (h : Tied collation k l) :
    (collation.localeCompare k l).isLE = true ∧ (collation.localeCompare l k).isLE = true := by
  have := collation.consistent
  rw [h.compare, Std.OrientedCmp.eq_symm h.compare]
  exact ⟨rfl, rfl⟩

theorem pair_sublist_keys_iff (hk : k ≠ "__proto__") (hl : l ≠ "__proto__") :
    [k, l].Sublist ((keptEntries collation fields).map Prod.fst) ↔ [k, l].Sublist (fields.map Prod.fst) := by
  rw [keys_keptEntries]
  refine ⟨fun h => h.trans List.filter_sublist, fun h => ?_⟩
  have hpair : [k, l].filter (fun k => k ≠ "__proto__") = [k, l] := List.filter_eq_self.mpr (by simp [hk, hl])
  have hfilter := h.filter fun k => decide (k ≠ "__proto__")
  rwa [hpair] at hfilter

/-- **Sorted objects are shown as the same** if they have the same values, and their tied keys are in the same order. -/
theorem shown_sortedObject_eq_iff (h : Listed fields) (h' : Listed fields') :
    JsValue.shownFields (sortedObject collation (normalizeEntries collation fields)) =
        JsValue.shownFields (sortedObject collation (normalizeEntries collation fields')) ↔
      (∀ k, k ≠ "__proto__" →
        (fields.lookup k).map (shownNormal collation) = (fields'.lookup k).map (shownNormal collation)) ∧
          SameOrder collation fields fields' := by
  have hkeys : ((keptEntries collation fields).map Prod.fst).Nodup := nodup_keys_keptEntries h
  have hkeys' : ((keptEntries collation fields').map Prod.fst).Nodup := nodup_keys_keptEntries h'
  have hvalues : (keptEntries collation fields).Perm (keptEntries collation fields') ↔ ∀ k, k ≠ "__proto__" →
      (fields.lookup k).map (shownNormal collation) = (fields'.lookup k).map (shownNormal collation) := by
    rw [perm_iff_lookup hkeys hkeys']
    refine forall_congr' fun k => ?_
    rw [lookup_keptEntries, lookup_keptEntries]
    by_cases hk : k ≠ "__proto__"
    · rw [if_pos hk, if_pos hk]
      exact ⟨fun heq _ => heq, fun heq => heq hk⟩
    · rw [if_neg hk, if_neg hk]
      exact ⟨fun _ hne => absurd hne hk, fun _ => rfl⟩
  rw [shownFields_sortedObject collation h, shownFields_sortedObject collation h',
    insertionSort_insertionSort_eq_iff (List.Nodup.of_map _ hkeys) (List.Nodup.of_map _ hkeys'), ← hvalues]
  refine and_congr_right fun hperm => ⟨fun htied k l hkl hsub => ?_, fun horder a b hab hba hle hge hsub => ?_⟩
  · -- the entries of the two keys are tied
    have hsub : [k, l].Sublist ((keptEntries collation fields).map Prod.fst) :=
      (pair_sublist_keys_iff hkl.left hkl.right).mpr hsub
    obtain ⟨a, ha, rfl⟩ := List.mem_map.mp (hsub.subset List.mem_cons_self)
    obtain ⟨b, hb, rfl⟩ := List.mem_map.mp (hsub.subset (List.mem_cons_of_mem _ List.mem_cons_self))
    have hentries := htied a b hkl.listedBefore.1 hkl.listedBefore.2 hkl.isLE.1 hkl.isLE.2
      ((pair_sublist_iff_keys hkeys).mpr ⟨ha, hb, hsub⟩)
    exact (pair_sublist_keys_iff hkl.left hkl.right).mp (hentries.map Prod.fst)
  · obtain ⟨ha, hb, hkeysub⟩ := (pair_sublist_iff_keys hkeys).mp hsub
    have hk : a.1 ≠ "__proto__" := of_decide_eq_true (List.mem_filter.mp ha).2
    have hl : b.1 ≠ "__proto__" := of_decide_eq_true (List.mem_filter.mp hb).2
    have hne : a.1 ≠ b.1 := by
      intro heq
      rw [heq] at hkeysub
      exact not_sublist_swap hkeys hkeysub hkeysub
    have hback := horder a.1 b.1 (tied_of_both hk hl hne hab hba hle hge) ((pair_sublist_keys_iff hk hl).mp hkeysub)
    exact (pair_sublist_iff_keys hkeys').mpr
      ⟨hperm.mem_iff.mp ha, hperm.mem_iff.mp hb, (pair_sublist_keys_iff hk hl).mpr hback⟩

end Sorted

/-! ## Values with the same text -/

section SameText
variable {collation : Collation} {v w : JsValue}

theorem isRecordObject_shown (v : JsValue) : v.shown.isRecordObject = v.isRecordObject := by
  cases v with
  | num x => cases x <;> rfl
  | null | bool b | str s | arr items | obj fields => rfl

theorem isArray_shown (v : JsValue) : v.shown.isArray = v.isArray := by
  cases v with
  | num x => cases x <;> rfl
  | null | bool b | str s | arr items | obj fields => rfl

theorem isRecordObject_shownNormal (v : JsValue) : (shownNormal collation v).isRecordObject = v.isRecordObject := by
  unfold shownNormal
  rw [isRecordObject_shown]
  cases v <;> rfl

theorem isArray_shownNormal (v : JsValue) : (shownNormal collation v).isArray = v.isArray := by
  unfold shownNormal
  rw [isArray_shown]
  cases v <;> rfl

theorem shownNormal_of_other (hobj : v.isRecordObject = false) (harr : v.isArray = false) :
    shownNormal collation v = v.shown := by
  cases v with
  | obj fields => cases hobj
  | arr items => cases harr
  | null | bool b | num x | str s => rfl

theorem forall₂_congr_of_mem {α β : Type} {R S : α → β → Prop} {as : List α} {bs : List β}
    (h : ∀ a ∈ as, ∀ b ∈ bs, R a b ↔ S a b) : List.Forall₂ R as bs ↔ List.Forall₂ S as bs := by
  induction as generalizing bs with
  | nil => cases bs <;> simp
  | cons a as ih =>
    cases bs with
    | nil => simp
    | cons b bs =>
      rw [List.forall₂_cons, List.forall₂_cons, h a List.mem_cons_self b List.mem_cons_self,
        ih fun a ha b hb => h a (List.mem_cons_of_mem _ ha) b (List.mem_cons_of_mem _ hb)]

theorem isRecordObject_eq_of_shown (h : v.shown = w.shown) : v.isRecordObject = w.isRecordObject := by
  rw [← isRecordObject_shown, h, isRecordObject_shown]

theorem Alike.isRecordObject_eq (h : Alike collation v w) : v.isRecordObject = w.isRecordObject := by
  cases h with
  | obj _ _ | arr _ => rfl
  | other _ _ h => exact isRecordObject_eq_of_shown h

theorem Alike.isArray_eq (h : Alike collation v w) : v.isArray = w.isArray := by
  cases h with
  | obj _ _ | arr _ => rfl
  | other _ _ h => rw [← isArray_shown, h, isArray_shown]

theorem eq_iff_of_isRecordObject_ne (h : v.isRecordObject ≠ w.isRecordObject) :
    shownNormal collation v = shownNormal collation w ↔ Alike collation v w := by
  refine iff_of_false (fun heq => h ?_) fun halike => h halike.isRecordObject_eq
  rw [← isRecordObject_shownNormal v, heq, isRecordObject_shownNormal]

theorem eq_iff_of_isArray_ne (h : v.isArray ≠ w.isArray) :
    shownNormal collation v = shownNormal collation w ↔ Alike collation v w := by
  refine iff_of_false (fun heq => h ?_) fun halike => h halike.isArray_eq
  rw [← isArray_shownNormal v, heq, isArray_shownNormal]

/-- **Items of lists are shown as the same** if they are alike. -/
theorem shown_normalizeItem_eq_iff (ih : shownNormal collation v = shownNormal collation w ↔ Alike collation v w) :
    (normalizeItem collation v).shown = (normalizeItem collation w).shown ↔ AlikeItem collation v w := by
  have hitem : ∀ v, (normalizeItem collation v).shown = if v.isRecordObject then shownNormal collation v else v.shown := by
    intro v
    unfold normalizeItem
    split <;> rfl
  have hkind : ∀ v, (normalizeItem collation v).shown.isRecordObject = v.isRecordObject := by
    intro v
    rw [hitem]
    split
    · exact isRecordObject_shownNormal v
    · exact isRecordObject_shown v
  constructor
  · intro h
    have hsame : v.isRecordObject = w.isRecordObject := by rw [← hkind v, h, hkind w]
    rw [hitem, hitem, ← hsame] at h
    cases hv : v.isRecordObject with
    | true =>
      rw [hv, if_pos rfl, if_pos rfl] at h
      exact .obj hv (ih.mp h)
    | false =>
      rw [hv, if_neg Bool.false_ne_true, if_neg Bool.false_ne_true] at h
      exact .other hv h
  · intro h
    rw [hitem, hitem]
    cases h with
    | obj hv h =>
      rw [← h.isRecordObject_eq, hv, if_pos rfl, if_pos rfl]
      exact ih.mpr h
    | other hv h => rw [← isRecordObject_eq_of_shown h, hv, if_neg Bool.false_ne_true, if_neg Bool.false_ne_true, h]

theorem shown_eq_iff_of_other (hobj : v.isRecordObject = false) (harr : v.isArray = false) :
    shownNormal collation v = shownNormal collation w ↔ Alike collation v w := by
  by_cases hobj' : w.isRecordObject = false
  · by_cases harr' : w.isArray = false
    · rw [shownNormal_of_other hobj harr, shownNormal_of_other hobj' harr']
      refine ⟨.other hobj harr, fun h => ?_⟩
      cases h with
      | obj _ _ => cases hobj
      | arr _ => cases harr
      | other _ _ h => exact h
    · exact eq_iff_of_isArray_ne (harr ▸ Ne.symm harr')
  · exact eq_iff_of_isRecordObject_ne (hobj ▸ Ne.symm hobj')

/-- **Values with sorted keys are shown as the same** exactly if they are alike. -/
theorem shownNormal_eq_iff (hv : v.WellFormed) (hw : w.WellFormed) :
    shownNormal collation v = shownNormal collation w ↔ Alike collation v w := by
  induction hv generalizing w with
  | null | bool b | num x | str s => exact shown_eq_iff_of_other rfl rfl
  | @arr items hitems ih =>
    cases hw with
    | @arr items' hitems' =>
      have hshown : ∀ items, shownNormal collation (.arr items) =
          .arr (items.map fun v => (normalizeItem collation v).shown) := by
        intro items
        unfold shownNormal
        rw [normalizeValue, JsValue.shown, normalizeItems_eq, JsValue.shownItems_eq, List.map_map]
        rfl
      rw [hshown, hshown, JsValue.arr.injEq, ← List.forall₂_eq_eq_eq, List.forall₂_map_left_iff, List.forall₂_map_right_iff,
        forall₂_congr_of_mem fun v hv w hw => shown_normalizeItem_eq_iff (ih v hv (hitems' w hw))]
      exact ⟨.arr, fun h => by cases h with | arr h => exact h | other _ harr _ => cases harr⟩
    | null | bool b | num x | str s | obj _ _ => exact eq_iff_of_isArray_ne Bool.false_ne_true.symm
  | @obj fields listed _ ih =>
    cases hw with
    | @obj fields' listed' hfields' =>
      have hshown : ∀ fields, shownNormal collation (.obj fields) =
          .obj (JsValue.shownFields (sortedObject collation (normalizeEntries collation fields))) := fun _ => rfl
      have hvalues : ∀ k, (fields.lookup k).map (shownNormal collation) = (fields'.lookup k).map (shownNormal collation) ↔
          Option.Rel (Alike collation) (fields.lookup k) (fields'.lookup k) := by
        intro k
        cases hk : fields.lookup k with
        | none =>
          cases fields'.lookup k with
          | none => exact iff_of_true rfl .none
          | some w => exact iff_of_false (by rintro ⟨⟩) (by rintro ⟨⟩)
        | some v =>
          cases hk' : fields'.lookup k with
          | none => exact iff_of_false (by rintro ⟨⟩) (by rintro ⟨⟩)
          | some w =>
            rw [Option.map_some, Option.map_some, Option.some.injEq, Option.rel_some_some]
            exact ih (k, v) (mem_of_lookup hk) (hfields' (k, w) (mem_of_lookup hk'))
      rw [hshown, hshown, JsValue.obj.injEq, shown_sortedObject_eq_iff listed listed']
      constructor
      · rintro ⟨h, horder⟩
        exact .obj (fun k hk => (hvalues k).mp (h k hk)) horder
      · intro h
        cases h with
        | obj h horder => exact ⟨fun k hk => (hvalues k).mpr (h k hk), horder⟩
        | other hobj _ _ => cases hobj
    | null | bool b | num x | str s | arr _ => exact eq_iff_of_isRecordObject_ne Bool.false_ne_true.symm

variable {numbers : NumberTexts}

theorem canonicalize_of_ne_null (h : v.isNull = false) :
    canonicalizeCustomFieldValue numbers collation v = JSON.stringify numbers [] (normalizeItem collation v) := by
  cases v with
  | null => cases h
  | bool b | num x | str s | arr items | obj fields => rfl

theorem wellFormed_normalizeItem (h : v.WellFormed) : (normalizeItem collation v).WellFormed := by
  unfold normalizeItem
  split
  · exact wellFormed_normalizeValue h
  · exact h

theorem stringify_ne_null (v : JsValue) : JSON.stringify numbers [] v ≠ "__null__".toList := by
  obtain ⟨c, cs, htext, -, -, hc⟩ := head_stringifyAt numbers [] 0 v
  unfold JSON.stringify
  rw [htext]
  intro heq
  exact hc (List.cons.inj heq).1

/-- **The texts of two values are the same** exactly if they are alike. -/
theorem canonicalize_eq_iff (hv : v.WellFormed) (hw : w.WellFormed) :
    canonicalizeCustomFieldValue numbers collation v = canonicalizeCustomFieldValue numbers collation w ↔
      AlikeText collation v w := by
  have hnull : canonicalizeCustomFieldValue numbers collation .null = "__null__".toList := rfl
  cases hv0 : v.isNull with
  | true =>
    obtain rfl : v = .null := by cases v <;> first | rfl | cases hv0
    cases hw0 : w.isNull with
    | true =>
      obtain rfl : w = .null := by cases w <;> first | rfl | cases hw0
      exact iff_of_true rfl .null
    | false =>
      refine iff_of_false (fun h => ?_) fun h => ?_
      · rw [hnull, canonicalize_of_ne_null hw0] at h
        exact stringify_ne_null _ h.symm
      · cases h with
        | null => cases hw0
        | value hv _ _ => cases hv
  | false =>
    cases hw0 : w.isNull with
    | true =>
      obtain rfl : w = .null := by cases w <;> first | rfl | cases hw0
      refine iff_of_false (fun h => ?_) fun h => ?_
      · rw [hnull, canonicalize_of_ne_null hv0] at h
        exact stringify_ne_null _ h
      · cases h with
        | null => cases hv0
        | value _ hw _ => cases hw
    | false =>
      rw [canonicalize_of_ne_null hv0, canonicalize_of_ne_null hw0,
        JSON.stringify_eq_iff numbers spaces_nil (wellFormed_normalizeItem hv) (wellFormed_normalizeItem hw),
        shown_normalizeItem_eq_iff (shownNormal_eq_iff hv hw)]
      exact ⟨.value hv0 hw0, fun h => by cases h with | null => cases hv0 | value _ _ h => exact h⟩

end SameText

/-! ## The patch -/

section Payload
variable {numbers : NumberTexts} {collation : Collation} {definitions : List TaskCustomFieldDefinition}

theorem wellFormed_valueOf (values : ValueMap) (key : String) : (valueOf values.fields key).WellFormed := by
  unfold valueOf
  cases hkey : values.fields.lookup key with
  | none => exact .null
  | some v =>
    cases values.wellFormed with
    | obj _ h => exact h _ (mem_of_lookup hkey)

/-- **The patch holds** the fields whose texts are not the same. -/
theorem mem_keys_customFieldPatchPayload (currentValues nextValues : ValueMap) (key : String) :
    key ∈ (customFieldPatchPayload numbers collation definitions currentValues.fields nextValues.fields).map Prod.fst ↔
      key ≠ "__proto__" ∧ (∃ definition ∈ definitions, definition.fieldKey = key) ∧
        ¬ AlikeText collation (valueOf currentValues.fields key) (valueOf nextValues.fields key) := by
  unfold customFieldPatchPayload
  rw [mem_keys_assignAll]
  refine and_congr_right fun _ => ?_
  simp only [List.mem_map, List.mem_filterMap, Option.ite_none_left_eq_some, Option.some.injEq]
  constructor
  · rintro ⟨-, ⟨definition, hmem, hdiffer, rfl⟩, rfl⟩
    exact ⟨⟨definition, hmem, rfl⟩, fun halike => hdiffer
      ((canonicalize_eq_iff (wellFormed_valueOf _ _) (wellFormed_valueOf _ _)).mpr halike)⟩
  · rintro ⟨⟨definition, hmem, rfl⟩, hdiffer⟩
    exact ⟨_, ⟨definition, hmem, fun heq => hdiffer
      ((canonicalize_eq_iff (wellFormed_valueOf _ _) (wellFormed_valueOf _ _)).mp heq), rfl⟩, rfl⟩

theorem lookup_customFieldPatchPayload (currentValues nextValues : Fields) (key : String) :
    (customFieldPatchPayload numbers collation definitions currentValues nextValues).lookup key =
      if key ∈ (customFieldPatchPayload numbers collation definitions currentValues nextValues).map Prod.fst
      then some (valueOf nextValues key) else none := by
  unfold customFieldPatchPayload
  refine lookup_assignAll (valueOf nextValues) (fun e he => ?_) key
  obtain ⟨definition, -, he⟩ := List.mem_filterMap.mp he
  dsimp only at he
  split at he
  · cases he
  · obtain rfl := Option.some.inj he
    rfl

theorem valueOf_override (currentValues nextValues : ValueMap) (key : String) :
    valueOf (override currentValues.fields
      (customFieldPatchPayload numbers collation definitions currentValues.fields nextValues.fields)) key =
        if key ∈ (customFieldPatchPayload numbers collation definitions currentValues.fields nextValues.fields).map Prod.fst
        then valueOf nextValues.fields key else valueOf currentValues.fields key := by
  have hcurrent : (currentValues.fields.map Prod.fst).Nodup := by
    cases currentValues.wellFormed with
    | obj listed _ => exact listed.nodup
  have hpatch : ((customFieldPatchPayload numbers collation definitions currentValues.fields
      nextValues.fields).map Prod.fst).Nodup := (listed_ofEntries _).nodup
  unfold override
  rw [valueOf, lookup_ofEntries_append hcurrent hpatch, lookup_customFieldPatchPayload]
  split <;> rfl

/-- A field is compared as it should be: its values are equal exactly if their texts are the same.
What is assigned to `__proto__` is not in a patch. -/
def Compared (collation : Collation) (key : String) (currentValue nextValue : JsValue) : Prop :=
  if key = "__proto__" then currentValue.equal nextValue = true
  else currentValue.equal nextValue = true ↔ AlikeText collation currentValue nextValue

/-- **The patch is the difference of the values** exactly if each field is compared as it should be. -/
theorem patchCorrect_iff (numbers : NumberTexts) (collation : Collation) (definitions : List TaskCustomFieldDefinition)
    (currentValues nextValues : ValueMap) :
    PatchCorrect numbers collation definitions currentValues.fields nextValues.fields ↔
      ∀ definition ∈ definitions, Compared collation definition.fieldKey
        (valueOf currentValues.fields definition.fieldKey) (valueOf nextValues.fields definition.fieldKey) := by
  constructor
  · intro h definition hmem
    have hminimal := h.minimal definition.fieldKey
    rw [mem_keys_customFieldPatchPayload] at hminimal
    have hdefined : ∃ d ∈ definitions, d.fieldKey = definition.fieldKey := ⟨definition, hmem, rfl⟩
    unfold Compared
    split
    · rename_i hproto
      by_contra hdiffer
      exact (hminimal.mpr ⟨hdefined, hdiffer⟩).1 hproto
    · rename_i hproto
      constructor
      · intro hequal
        by_contra hdiffer
        exact (hminimal.mp ⟨hproto, hdefined, hdiffer⟩).2 hequal
      · intro halike
        by_contra hdiffer
        exact (hminimal.mpr ⟨hdefined, hdiffer⟩).2.2 halike
  · intro h
    have hminimal : ∀ key, key ∈ (customFieldPatchPayload numbers collation definitions currentValues.fields
        nextValues.fields).map Prod.fst ↔ (∃ definition ∈ definitions, definition.fieldKey = key) ∧
          ¬ (valueOf currentValues.fields key).equal (valueOf nextValues.fields key) = true := by
      intro key
      rw [mem_keys_customFieldPatchPayload]
      constructor
      · rintro ⟨hproto, ⟨definition, hmem, rfl⟩, hdiffer⟩
        have hcompared := h definition hmem
        unfold Compared at hcompared
        rw [if_neg hproto] at hcompared
        exact ⟨⟨definition, hmem, rfl⟩, fun hequal => hdiffer (hcompared.mp hequal)⟩
      · rintro ⟨⟨definition, hmem, rfl⟩, hdiffer⟩
        have hcompared := h definition hmem
        unfold Compared at hcompared
        split at hcompared
        · exact absurd hcompared hdiffer
        · rename_i hproto
          exact ⟨hproto, ⟨definition, hmem, rfl⟩, fun halike => hdiffer (hcompared.mpr halike)⟩
    refine ⟨fun definition hmem => ?_, hminimal⟩
    rw [valueOf_override]
    split
    · exact JsValue.equal_refl (wellFormed_valueOf _ _)
    · rename_i hkey
      by_contra hdiffer
      exact hkey ((hminimal _).mpr ⟨⟨definition, hmem, rfl⟩, hdiffer⟩)

end Payload

namespace Sample

def tagsField : TaskCustomFieldDefinition where
  id := 1
  organizationId := 1
  fieldKey := "tags"
  fieldType := .json

def listed : JsValue := .arr [.obj [("a", .bool true), ("b", .null)]]
def swapped : JsValue := .arr [.obj [("b", .null), ("a", .bool true)]]

def listedMap : ValueMap where
  fields := [("tags", listed)]
  wellFormed := by
    refine .obj ⟨by decide, by decide⟩ (List.forall_mem_singleton.mpr (.arr (List.forall_mem_singleton.mpr ?_)))
    exact .obj ⟨by decide, by decide⟩ (List.forall_mem_cons.mpr ⟨.bool true, List.forall_mem_singleton.mpr .null⟩)

def swappedMap : ValueMap where
  fields := [("tags", swapped)]
  wellFormed := by
    refine .obj ⟨by decide, by decide⟩ (List.forall_mem_singleton.mpr (.arr (List.forall_mem_singleton.mpr ?_)))
    exact .obj ⟨by decide, by decide⟩ (List.forall_mem_cons.mpr ⟨.null, List.forall_mem_singleton.mpr (.bool true)⟩)

end Sample

/-- A list whose object has its keys in another order is sent, though it is the same. -/
theorem not_patchCorrect : ¬ ∀ (numbers : NumberTexts) (collation : Collation) (definitions : List TaskCustomFieldDefinition)
    (currentValues nextValues : ValueMap),
    PatchCorrect numbers collation definitions currentValues.fields nextValues.fields := by
  intro h
  obtain ⟨numbers⟩ := exists_numberTexts
  have hcorrect := h numbers Silos.Sample.letterOrder [Sample.tagsField] Sample.listedMap Sample.swappedMap
  have hequal : Sample.listed.equal Sample.swapped = true := rfl
  have hdiffer : ¬ AlikeText Silos.Sample.letterOrder Sample.listed Sample.swapped := by
    rintro (_ | ⟨-, -, ⟨hobj, -⟩ | ⟨-, hshown⟩⟩)
    · cases hobj
    · simp [Sample.listed, Sample.swapped, JsValue.shown, JsValue.shownItems, JsValue.shownFields] at hshown
  have hmem : "tags" ∈ (customFieldPatchPayload numbers Silos.Sample.letterOrder [Sample.tagsField] Sample.listedMap.fields
      Sample.swappedMap.fields).map Prod.fst :=
    (mem_keys_customFieldPatchPayload _ _ _).mpr ⟨by decide, ⟨_, List.mem_singleton_self _, rfl⟩, hdiffer⟩
  exact ((hcorrect.minimal "tags").mp hmem).2 hequal

end SiloForge.Frontend
