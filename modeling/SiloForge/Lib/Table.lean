import Mathlib.Data.List.Nodup

/-!
# Keyed tables

A `Table` is a list of rows with pairwise distinct primary keys, so a row is determined by its key and
`get?` is the only way to look one up. Its updates are the four a relational store offers:

* `insert?`, `insertAll?` : append rows, refused when a key is taken;
* `updateWhere` : rewrite the rows a predicate selects, keys kept;
* `AgreeOn` : tables with the same rows of a kind, and the updates of rows of other kinds.

Each comes with what it does to `get?` and to membership.
-/

universe u v

namespace Lib

/-! ## Ordered selection -/

/-- `ORDER BY ... LIMIT 1`: the first element that no later one comes strictly before. -/
def firstBy {α : Type u} (before : α → α → Bool) : List α → Option α
  | [] => none
  | a :: as =>
    match firstBy before as with
    | none => some a
    | some b => if before b a then some b else some a

theorem mem_of_firstBy {α : Type u} {before : α → α → Bool} {as : List α} {a : α}
    (h : firstBy before as = some a) : a ∈ as := by
  induction as generalizing a with
  | nil => cases h
  | cons x xs ih =>
    unfold firstBy at h
    split at h
    · exact Option.some.inj h ▸ List.mem_cons_self ..
    · rename_i b hb
      split at h
      · exact Option.some.inj h ▸ List.mem_cons_of_mem _ (ih hb)
      · exact Option.some.inj h ▸ List.mem_cons_self ..

theorem firstBy_eq_none {α : Type u} {before : α → α → Bool} {as : List α} :
    firstBy before as = none ↔ as = [] := by
  cases as with
  | nil => simp [firstBy]
  | cons x xs =>
    unfold firstBy
    split
    · simp
    · split <;> simp

/-- `SELECT k, count(*), sum(CASE WHEN p THEN 1 ELSE 0 END) ... GROUP BY k`: no row for a key without rows. -/
def groupCounts {κ : Type u} {α : Type v} [DecidableEq κ] (p : α → Bool) (rows : List (κ × α)) (k : κ) :
    Option (Nat × Nat) :=
  match (rows.filter fun r => r.1 = k).map (·.2) with
  | [] => none
  | a :: group => some ((a :: group).length, (a :: group).countP p)

theorem groupCounts_getD {κ : Type u} {α : Type v} [DecidableEq κ] {p : α → Bool} {rows : List (κ × α)} {k : κ}
    {group : List α} (h : ((rows.filter fun r => r.1 = k).map (·.2)).Perm group) :
    (groupCounts p rows k).getD (0, 0) = (group.length, group.countP p) := by
  rw [← h.length_eq, ← h.countP_eq]
  unfold groupCounts
  split
  · rename_i hnone
    rw [hnone]
    rfl
  · rename_i a rest hsome
    rw [hsome]
    rfl

/-! ## Tables -/

/-- Rows with a primary key. -/
class Keyed (ρ : Type u) (κ : outParam (Type v)) where
  key : ρ → κ

export Keyed (key)

/-- Rows in insertion order, no two with the same key. -/
structure Table (ρ : Type u) {κ : Type v} [Keyed ρ κ] where
  rows : List ρ
  nodup : (rows.map key).Nodup

namespace Table

variable {ρ : Type u} {κ : Type v} [Keyed ρ κ]

instance : Membership ρ (Table ρ) := ⟨fun t r => r ∈ t.rows⟩

variable {t : Table ρ}

theorem mem_def {r : ρ} : r ∈ t ↔ r ∈ t.rows := Iff.rfl

theorem ext_rows {t' : Table ρ} (h : t.rows = t'.rows) : t = t' := by
  cases t
  cases t'
  congr

def empty : Table ρ := ⟨[], List.nodup_nil⟩

instance : EmptyCollection (Table ρ) := ⟨empty⟩

@[simp] theorem rows_empty : (∅ : Table ρ).rows = [] := rfl

@[simp] theorem not_mem_empty (r : ρ) : r ∉ (∅ : Table ρ) := List.not_mem_nil

theorem eq_of_key_eq {r r' : ρ} (h : r ∈ t) (h' : r' ∈ t) (hk : key r = key r') : r = r' :=
  List.inj_on_of_nodup_map t.nodup h h' hk

/-! ## Lookup -/

section Lookup
variable [DecidableEq κ]

def get? (t : Table ρ) (k : κ) : Option ρ := t.rows.find? (fun r => key r = k)

variable {t : Table ρ}

theorem get?_eq_some {k : κ} {r : ρ} : t.get? k = some r ↔ r ∈ t ∧ key r = k := by
  constructor
  · intro h
    exact ⟨List.mem_of_find?_eq_some h, by simpa using List.find?_some h⟩
  · rintro ⟨hr, hk⟩
    cases h : t.get? k with
    | none =>
      have := List.find?_eq_none.mp h r hr
      simp [hk] at this
    | some r' =>
      have hr' : r' ∈ t := List.mem_of_find?_eq_some h
      have hk' : key r' = k := by simpa using List.find?_some h
      rw [eq_of_key_eq hr' hr (hk'.trans hk.symm)]

theorem get?_eq_none {k : κ} : t.get? k = none ↔ ∀ r ∈ t, key r ≠ k := by
  simp [get?, mem_def]

theorem get?_key {r : ρ} (h : r ∈ t) : t.get? (key r) = some r :=
  get?_eq_some.mpr ⟨h, rfl⟩

theorem mem_of_get? {k : κ} {r : ρ} (h : t.get? k = some r) : r ∈ t :=
  (get?_eq_some.mp h).1

theorem key_of_get? {k : κ} {r : ρ} (h : t.get? k = some r) : key r = k :=
  (get?_eq_some.mp h).2

theorem any_get? (t : Table ρ) (k : κ) (p : ρ → Bool) :
    (t.get? k).any p = t.rows.any fun r => decide (key r = k) && p r := by
  rw [Bool.eq_iff_iff, Option.any_eq_true, List.any_eq_true]
  constructor
  · rintro ⟨r, hget, hp⟩
    obtain ⟨hmem, hk⟩ := get?_eq_some.mp hget
    exact ⟨r, hmem, by simp [hk, hp]⟩
  · rintro ⟨r, hmem, hr⟩
    obtain ⟨hk, hp⟩ := Bool.and_eq_true_iff.mp hr
    exact ⟨r, get?_eq_some.mpr ⟨hmem, of_decide_eq_true hk⟩, hp⟩

end Lookup

/-! ## Updates -/

/-- `UPDATE ... WHERE`: `f` on the rows that satisfy `p`. -/
def updateWhere (t : Table ρ) (p : ρ → Bool) (f : ρ → ρ) (hf : ∀ r, p r → key (f r) = key r) : Table ρ where
  rows := t.rows.map (fun r => if p r then f r else r)
  nodup := by
    have h : (t.rows.map (fun r => if p r then f r else r)).map key = t.rows.map key := by
      rw [List.map_map]
      apply List.map_congr_left
      intro r _
      by_cases hp : p r <;> simp [hp, hf]
    rw [h]
    exact t.nodup

def deleteWhere (t : Table ρ) (p : ρ → Bool) : Table ρ where
  rows := t.rows.filter (fun r => !p r)
  nodup := t.nodup.sublist (List.filter_sublist.map key)

def view {σ : Type u} [Keyed σ κ] (t : Table ρ) (f : ρ → σ) (hf : ∀ r, key (f r) = key r) : Table σ where
  rows := t.rows.map f
  nodup := by
    have h : (t.rows.map f).map key = t.rows.map key := by
      rw [List.map_map]
      exact List.map_congr_left fun r _ => hf r
    rw [h]
    exact t.nodup

theorem mem_updateWhere {p : ρ → Bool} {f : ρ → ρ} {hf} {r : ρ} :
    r ∈ t.updateWhere p f hf ↔ ∃ r' ∈ t, (if p r' then f r' else r') = r :=
  List.mem_map

@[simp] theorem mem_deleteWhere {p : ρ → Bool} {r : ρ} : r ∈ t.deleteWhere p ↔ r ∈ t ∧ p r = false := by
  simp [mem_def, deleteWhere]

def AgreeOn (p : ρ → Prop) (t t' : Table ρ) : Prop := ∀ r, p r → (r ∈ t' ↔ r ∈ t)

section Frames
variable {p : ρ → Prop} {q : ρ → Bool} {t' t'' : Table ρ}

theorem AgreeOn.refl (t : Table ρ) : AgreeOn p t t := fun _ _ => Iff.rfl

theorem AgreeOn.trans (h : AgreeOn p t t') (h' : AgreeOn p t' t'') : AgreeOn p t t'' := fun r hp =>
  (h' r hp).trans (h r hp)

theorem AgreeOn.deleteWhere (h : ∀ r ∈ t, q r = true → ¬ p r) : AgreeOn p t (t.deleteWhere q) := fun r hp =>
  mem_deleteWhere.trans (and_iff_left_of_imp fun hr => Bool.eq_false_iff.mpr fun hq => h r hr hq hp)

theorem AgreeOn.updateWhere {f : ρ → ρ} {hf} (h : ∀ r ∈ t, q r = true → ¬ p r ∧ ¬ p (f r)) :
    AgreeOn p t (t.updateWhere q f hf) := by
  intro r hp
  rw [mem_updateWhere]
  constructor
  · rintro ⟨r', hr', rfl⟩
    split at hp
    · rename_i hq
      exact absurd hp (h r' hr' hq).2
    · rename_i hq
      rwa [if_neg hq]
  · intro hr
    exact ⟨r, hr, if_neg fun hq => (h r hr hq).1 hp⟩

end Frames

theorem nodup_one (r : ρ) : ([r].map key).Nodup := List.nodup_singleton _

theorem nodup_append (t : Table ρ) (r : ρ) (h : ∀ r' ∈ t.rows, key r' ≠ key r) :
    ((t.rows ++ [r]).map key).Nodup := by
  rw [List.map_append, List.nodup_append]
  refine ⟨t.nodup, by simp, ?_⟩
  intro k hk k' hk'
  obtain ⟨r', hr', rfl⟩ := List.mem_map.mp hk
  simp only [List.map_cons, List.map_nil, List.mem_singleton] at hk'
  rw [hk']
  exact h r' hr'

section Keys
variable [DecidableEq κ]

variable {t t' : Table ρ} {r : ρ} {rs : List ρ}

theorem get?_view {σ : Type u} [Keyed σ κ] {f : ρ → σ} (hf : ∀ r, key (f r) = key r) (k : κ) :
    (t.view f hf).get? k = (t.get? k).map f := by
  show (t.rows.map f).find? _ = (t.rows.find? _).map f
  rw [List.find?_map]
  simp only [Function.comp_def, hf]

/-- `INSERT`: refused when a row with the key exists. -/
def insert? (t : Table ρ) (r : ρ) : Option (Table ρ) :=
  if h : ∀ r' ∈ t.rows, key r' ≠ key r then some ⟨t.rows ++ [r], t.nodup_append r h⟩ else none

def put (t : Table ρ) (r : ρ) : Table ρ :=
  t.updateWhere (fun r' => key r' = key r) (fun _ => r) (fun r' h => by simpa using Eq.symm (by simpa using h))

theorem get?_updateWhere (t : Table ρ) (p : ρ → Bool) (f : ρ → ρ) (hf) (k : κ) :
    (t.updateWhere p f hf).get? k = (t.get? k).map (fun r => if p r then f r else r) := by
  simp only [get?, updateWhere, List.find?_map]
  congr 2
  funext r
  by_cases hp : p r <;> simp [hp, hf]

theorem get?_deleteWhere (t : Table ρ) (p : ρ → Bool) (k : κ) :
    (t.deleteWhere p).get? k = (t.get? k).filter (fun r => !p r) := by
  cases h : t.get? k with
  | none =>
    rw [Option.filter_none, get?_eq_none]
    intro r hr
    exact get?_eq_none.mp h r (mem_deleteWhere.mp hr).1
  | some r =>
    obtain ⟨hr, rfl⟩ := get?_eq_some.mp h
    cases hp : p r with
    | false =>
      simp only [Option.filter_some, hp, Bool.not_false, if_true]
      exact get?_key (mem_deleteWhere.mpr ⟨hr, hp⟩)
    | true =>
      simp only [Option.filter_some, hp, Bool.not_true, Bool.false_eq_true, if_false]
      rw [get?_eq_none]
      intro r' hr' hk
      obtain ⟨hr', hp'⟩ := mem_deleteWhere.mp hr'
      rw [eq_of_key_eq hr' hr hk, hp] at hp'
      exact absurd hp' (by decide)

theorem insert?_eq_some (h : t.insert? r = some t') : t'.rows = t.rows ++ [r] ∧ t.get? (key r) = none := by
  unfold insert? at h
  split at h
  · rename_i hk
    obtain rfl := Option.some.inj h
    exact ⟨rfl, get?_eq_none.mpr hk⟩
  · cases h

theorem mem_insert? {r' : ρ} (h : t.insert? r = some t') : r' ∈ t' ↔ r' ∈ t ∨ r' = r := by
  simp [mem_def, (insert?_eq_some h).1]

theorem get?_insert? (h : t.insert? r = some t') (k : κ) : t'.get? k = if k = key r then some r else t.get? k := by
  obtain ⟨hrows, hnone⟩ := insert?_eq_some h
  split
  · rename_i hk
    exact get?_eq_some.mpr ⟨(mem_insert? h).mpr (.inr rfl), hk.symm⟩
  · rename_i hk
    have hk' : ¬ key r = k := fun e => hk e.symm
    simp [get?, hrows, List.find?_append, hk']

theorem get?_put (t : Table ρ) (r : ρ) (k : κ) :
    (t.put r).get? k = if k = key r then (t.get? k).map (fun _ => r) else t.get? k := by
  rw [put, get?_updateWhere]
  cases h : t.get? k with
  | none => simp
  | some r' =>
    obtain ⟨_, rfl⟩ := get?_eq_some.mp h
    by_cases hk : key r' = key r <;> simp [hk]

theorem mem_put {r' : ρ} : r ∈ t.put r' ↔ r ∈ t ∧ key r ≠ key r' ∨ r = r' ∧ (t.get? (key r')).isSome = true := by
  rw [put, mem_updateWhere]
  constructor
  · rintro ⟨r₀, hr₀, rfl⟩
    by_cases hk : key r₀ = key r'
    · have hget : t.get? (key r') = some r₀ := get?_eq_some.mpr ⟨hr₀, hk⟩
      simp [hk, hget]
    · simp [hk, hr₀]
  · rintro (⟨hr, hk⟩ | ⟨rfl, hsome⟩)
    · exact ⟨r, hr, by simp [hk]⟩
    · obtain ⟨r₀, hget⟩ := Option.isSome_iff_exists.mp hsome
      obtain ⟨hr₀, hk⟩ := get?_eq_some.mp hget
      exact ⟨r₀, hr₀, by simp [hk]⟩

theorem put_of_mem (h : r ∈ t) : t.put r = t := by
  apply ext_rows
  show t.rows.map _ = t.rows
  rw [List.map_congr_left (g := id), List.map_id]
  intro r' hr'
  simp only [decide_eq_true_eq, id_eq]
  split
  · rename_i hk
    exact eq_of_key_eq h hr' hk.symm
  · rfl

theorem map_key_put (t : Table ρ) (r : ρ) : (t.put r).rows.map key = t.rows.map key := by
  show (t.rows.map _).map key = t.rows.map key
  rw [List.map_map]
  refine List.map_congr_left fun r' _ => ?_
  by_cases hk : key r' = key r
  · simp [hk]
  · simp [hk]

theorem get?_put_ne {k : κ} (h : k ≠ key r) : (t.put r).get? k = t.get? k := by
  rw [get?_put, if_neg h]

theorem get?_put_self {r' : ρ} (h : t.get? (key r) = some r') : (t.put r).get? (key r) = some r := by
  rw [get?_put, if_pos rfl, h, Option.map_some]

def insertAll? (t : Table ρ) : List ρ → Option (Table ρ)
  | [] => some t
  | r :: rs => (t.insert? r).bind fun t' => insertAll? t' rs

theorem mem_insertAll? (h : t.insertAll? rs = some t') (r : ρ) : r ∈ t' ↔ r ∈ t ∨ r ∈ rs := by
  induction rs generalizing t with
  | nil =>
    obtain rfl := Option.some.inj h
    simp
  | cons r' rs ih =>
    obtain ⟨t₁, h₁, h₂⟩ := Option.bind_eq_some_iff.mp h
    rw [ih h₂, mem_insert? h₁, List.mem_cons, or_assoc]

theorem get?_insertAll?_ne (h : t.insertAll? rs = some t') {k : κ} (hk : ∀ r ∈ rs, key r ≠ k) :
    t'.get? k = t.get? k := by
  induction rs generalizing t with
  | nil =>
    obtain rfl := Option.some.inj h
    rfl
  | cons r rs ih =>
    obtain ⟨t₁, h₁, h₂⟩ := Option.bind_eq_some_iff.mp h
    rw [ih h₂ fun r' hr' => hk r' (List.mem_cons_of_mem _ hr'), get?_insert? h₁,
      if_neg fun e => hk r (List.mem_cons_self ..) e.symm]

theorem get?_insertAll? (h : t.insertAll? rs = some t') (k : κ) :
    t'.get? k = (t.get? k).or (rs.find? fun r => key r = k) := by
  induction rs generalizing t with
  | nil =>
    obtain rfl := Option.some.inj h
    exact Option.or_none.symm
  | cons r rs ih =>
    obtain ⟨t₁, h₁, h₂⟩ := Option.bind_eq_some_iff.mp h
    rw [ih h₂, get?_insert? h₁, List.find?_cons]
    by_cases hk : key r = k
    · subst hk
      rw [if_pos rfl, (insert?_eq_some h₁).2, decide_eq_true rfl]
      rfl
    · rw [if_neg fun e => hk e.symm, decide_eq_false hk]

theorem exists_insert? : (∃ t', t.insert? r = some t') ↔ t.get? (key r) = none := by
  constructor
  · rintro ⟨t', h⟩
    exact (insert?_eq_some h).2
  · intro h
    exact ⟨_, dif_pos (get?_eq_none.mp h)⟩

theorem exists_insertAll? :
    (∃ t', t.insertAll? rs = some t') ↔ (∀ r ∈ rs, t.get? (key r) = none) ∧ (rs.map key).Nodup := by
  induction rs generalizing t with
  | nil => exact ⟨fun _ => ⟨fun r hr => absurd hr List.not_mem_nil, List.nodup_nil⟩, fun _ => ⟨t, rfl⟩⟩
  | cons r rs ih =>
    rw [List.map_cons, List.nodup_cons, List.forall_mem_cons]
    constructor
    · rintro ⟨t', h⟩
      obtain ⟨t₁, h₁, h₂⟩ := Option.bind_eq_some_iff.mp h
      obtain ⟨hfresh, hnodup⟩ := ih.mp ⟨t', h₂⟩
      have hother : ∀ r' ∈ rs, key r' ≠ key r := by
        intro r' hr' hk
        have htaken := hfresh r' hr'
        rw [get?_insert? h₁, if_pos hk] at htaken
        cases htaken
      refine ⟨⟨(insert?_eq_some h₁).2, fun r' hr' => ?_⟩, ?_, hnodup⟩
      · rw [← hfresh r' hr', get?_insert? h₁, if_neg (hother r' hr')]
      · rintro hmem
        obtain ⟨r', hr', hk⟩ := List.mem_map.mp hmem
        exact hother r' hr' hk
    · rintro ⟨⟨hr, hfresh⟩, hnot, hnodup⟩
      obtain ⟨t₁, h₁⟩ := exists_insert?.mpr hr
      have hfresh₁ : ∀ r' ∈ rs, t₁.get? (key r') = none := by
        intro r' hr'
        have hk : key r' ≠ key r := fun hk => hnot (List.mem_map.mpr ⟨r', hr', hk⟩)
        rw [get?_insert? h₁, if_neg hk]
        exact hfresh r' hr'
      obtain ⟨t', h₂⟩ := ih.mpr ⟨hfresh₁, hnodup⟩
      exact ⟨t', Option.bind_eq_some_iff.mpr ⟨t₁, h₁, h₂⟩⟩

theorem rows_insertAll? (h : t.insertAll? rs = some t') : t'.rows = t.rows ++ rs := by
  induction rs generalizing t with
  | nil =>
    obtain rfl := Option.some.inj h
    exact (List.append_nil _).symm
  | cons r rs ih =>
    obtain ⟨t₁, h₁, h₂⟩ := Option.bind_eq_some_iff.mp h
    rw [ih h₂, (insert?_eq_some h₁).1, List.append_assoc]
    rfl

theorem replace_again {t'' : Table ρ} {p : ρ → Bool} (hp : ∀ r ∈ rs, p r = true)
    (h : (t.deleteWhere p).insertAll? rs = some t') (h' : (t'.deleteWhere p).insertAll? rs = some t'') :
    t'' = t' := by
  have hnone : rs.filter (fun r => !p r) = [] := List.filter_eq_nil_iff.mpr fun r hr => by simp [hp r hr]
  have hkept : (t'.deleteWhere p).rows = (t.deleteWhere p).rows := by
    show t'.rows.filter (fun r => !p r) = _
    rw [rows_insertAll? h, List.filter_append, hnone, List.append_nil]
    simp [deleteWhere, List.filter_filter]
  apply ext_rows
  rw [rows_insertAll? h', rows_insertAll? h, hkept]

/-! ### Frames -/

theorem AgreeOn.insert {p : ρ → Prop} (h : t.insert? r = some t') (hr : ¬ p r) : AgreeOn p t t' := fun _ hp =>
  (mem_insert? h).trans (or_iff_left fun he => hr (he ▸ hp))

theorem AgreeOn.insertAll {p : ρ → Prop} (h : t.insertAll? rs = some t') (hrs : ∀ r ∈ rs, ¬ p r) : AgreeOn p t t' :=
  fun r hp => (mem_insertAll? h r).trans (or_iff_left fun hmem => hrs r hmem hp)

theorem AgreeOn.put {p : ρ → Prop} {old : ρ} (hget : t.get? (key r) = some old) (hold : ¬ p old) (hr : ¬ p r) :
    AgreeOn p t (t.put r) := by
  refine .updateWhere fun r' hr' hk => ⟨?_, hr⟩
  rwa [eq_of_key_eq hr' (mem_of_get? hget) ((of_decide_eq_true hk).trans (key_of_get? hget).symm)]

end Keys

end Table

end Lib
