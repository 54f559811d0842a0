import SiloForge.Lib.Table

/-!
# Dictionaries

A dictionary keeps its keys in the order in which they were first set.

* `Dict.set`, `Dict.get` : writing and reading a key;
* `Dict.increment`, `Dict.count` : a dictionary of counts;
* `get_set`, `count_increment` : what is read after a write.
-/

universe u v

namespace Lib

structure DictEntry (κ : Type u) (ν : Type v) where
  name : κ
  value : ν
  deriving DecidableEq

instance {κ : Type u} {ν : Type v} : Keyed (DictEntry κ ν) κ := ⟨DictEntry.name⟩

/-- Keys with their values, in insertion order. -/
abbrev Dict (κ : Type u) (ν : Type v) := Table (DictEntry κ ν)

namespace Dict
variable {κ : Type u} {ν : Type v} [DecidableEq κ]

/-- `d.get(k)`. -/
def get (d : Dict κ ν) (k : κ) : Option ν := (d.get? k).map DictEntry.value

/-- `d[k] = v`: in its place, or last. -/
def set (d : Dict κ ν) (k : κ) (v : ν) : Dict κ ν :=
  match d.insert? ⟨k, v⟩ with
  | some d' => d'
  | none => d.put ⟨k, v⟩

def values (d : Dict κ ν) : List ν := d.rows.map DictEntry.value

variable {d : Dict κ ν} {k k' : κ} {v : ν} {entry : DictEntry κ ν}

theorem get_set : (d.set k v).get k' = if k' = k then some v else d.get k' := by
  unfold set get
  cases hinsert : d.insert? ⟨k, v⟩ with
  | some d' =>
    rw [Table.get?_insert? hinsert]
    show Option.map _ (if k' = k then _ else _) = _
    split <;> rfl
  | none =>
    have hsome : ∃ entry, d.get? k = some entry := by
      cases hget : d.get? k with
      | some entry => exact ⟨entry, rfl⟩
      | none =>
        obtain ⟨d', hd'⟩ := Table.exists_insert?.mpr (show d.get? (key (DictEntry.mk k v)) = none from hget)
        rw [hinsert] at hd'
        cases hd'
    obtain ⟨entry, hentry⟩ := hsome
    rw [Table.get?_put]
    show Option.map _ (if k' = k then _ else _) = _
    split
    · rename_i hk
      rw [hk, hentry]
      rfl
    · rfl

theorem mem_set (h : entry ∈ d.set k v) : entry = ⟨k, v⟩ ∨ entry ∈ d := by
  unfold set at h
  cases hinsert : d.insert? ⟨k, v⟩ with
  | some d' =>
    rw [hinsert] at h
    exact ((Table.mem_insert? hinsert).mp h).symm
  | none =>
    rw [hinsert] at h
    obtain ⟨hmem, -⟩ | ⟨rfl, -⟩ := Table.mem_put.mp h
    · exact .inr hmem
    · exact .inl rfl

/-! ## Counts -/

def count (d : Dict κ Nat) (k : κ) : Nat := (d.get k).getD 0

/-- `d[k] = d.get(k, 0) + 1`. -/
def increment (d : Dict κ Nat) (k : κ) : Dict κ Nat := d.set k (d.count k + 1)

variable {counts : Dict κ Nat}

theorem count_empty (k : κ) : (∅ : Dict κ Nat).count k = 0 := rfl

theorem count_increment : (counts.increment k).count k' = counts.count k' + if k' = k then 1 else 0 := by
  unfold increment count
  rw [get_set]
  split
  · rename_i hk
    rw [hk]
    rfl
  · rfl

end Dict

end Lib
