import SiloForge.Lib.Table

/-!
# Foreign keys

Rows of several tables in one store. A column may hold the id of a row of another table, and a store has the row of
every id it holds. A statement that would leave an id without its row fails, and with it all its transaction has done.

* `Store` : rows none of which names a row that is not there;
* `Store.deleteWhere?`, `Store.updateWhere?`, `Store.insert?` : statements, checked when they end;
* `Ids`, `Delete` : the deletions of rows whose columns hold certain ids, `Store.run?` : several of them;
* `exists_run?` : they go through exactly where each row goes no later than the rows it names.
-/

universe u v w x

namespace Lib

/-- Rows of tables `ν` with ids `ι` in columns `γ`. -/
class Relational (ρ : Type u) (ν : outParam (Type v)) (γ : outParam (Type w)) (ι : outParam (Type x)) extends
    Keyed ρ (ν × List ι) where
  column : γ → ρ → Option ι
  /-- The columns of a table that name rows, and the tables of those rows. -/
  foreignKeys : ν → List (γ × ν)
  /-- Those whose rows go with the rows they name. -/
  cascades : ν → List (γ × ν)
  /-- Rows that go with others are not named themselves. -/
  cascades_leaf : ∀ t, cascades t ≠ [] → ∀ t' c, (c, t) ∉ foreignKeys t' ∧ (c, t) ∉ cascades t'

export Relational (column foreignKeys cascades)

section Rows

variable {ρ : Type u} {ν : Type v} {γ : Type w} {ι : Type x} [Relational ρ ν γ ι]

def tableOf (r : ρ) : ν := (key r).1

/-- The id other rows name a row by. -/
def rowId? (r : ρ) : Option ι :=
  match (key r).2 with
  | [i] => some i
  | _ => none

def named (columns : List (γ × ν)) (r : ρ) : List (ν × ι) :=
  columns.filterMap fun c => (column c.1 r).map fun i => (c.2, i)

def refs (r : ρ) : List (ν × ι) := named (foreignKeys ρ (tableOf r)) r

def cascadeRefs (r : ρ) : List (ν × ι) := named (cascades ρ (tableOf r)) r

variable {r : ρ} {n : ν × ι}

theorem mem_named {columns : List (γ × ν)} : n ∈ named columns r ↔ ∃ c, (c, n.1) ∈ columns ∧ column c r = some n.2 := by
  unfold named
  rw [List.mem_filterMap]
  constructor
  · rintro ⟨⟨c, t⟩, hc, hn⟩
    obtain ⟨i, hi, rfl⟩ := Option.map_eq_some_iff.mp hn
    exact ⟨c, hc, hi⟩
  · rintro ⟨c, hc, hi⟩
    exact ⟨(c, n.1), hc, by rw [hi]; rfl⟩

theorem named_of_columns {r' : ρ} (hkey : key r' = key r) (h : ∀ c i, column c r' = some i → column c r = some i)
    (hn : n ∈ refs r' ∨ n ∈ cascadeRefs r') : n ∈ refs r ∨ n ∈ cascadeRefs r := by
  have htable : tableOf r' = tableOf r := congrArg Prod.fst hkey
  refine hn.imp (fun hn => ?_) fun hn => ?_
  · obtain ⟨c, hc, hi⟩ := mem_named.mp hn
    exact mem_named.mpr ⟨c, htable ▸ hc, h c _ hi⟩
  · obtain ⟨c, hc, hi⟩ := mem_named.mp hn
    exact mem_named.mpr ⟨c, htable ▸ hc, h c _ hi⟩

/-- What holds of all a row names holds of what each of its columns names. -/
theorem forall_refs {P : ν × ι → Prop} :
    (∀ n ∈ refs r, P n) ↔ ∀ k ∈ foreignKeys ρ (tableOf r), ∀ i, column k.1 r = some i → P (k.2, i) := by
  constructor
  · exact fun h k hk i hi => h (k.2, i) (mem_named.mpr ⟨k.1, hk, hi⟩)
  · intro h n hn
    obtain ⟨c, hc, hi⟩ := mem_named.mp hn
    exact h (c, n.1) hc n.2 hi

theorem rowId?_eq_some {i : ι} : rowId? r = some i ↔ (key r).2 = [i] := by
  unfold rowId?
  split
  · rename_i j hj
    rw [hj]
    simp
  · rename_i hne
    exact ⟨fun h => (Option.some_ne_none _ h.symm).elim, fun h => (hne i h).elim⟩

theorem key_eq_iff : key r = (n.1, [n.2]) ↔ tableOf r = n.1 ∧ rowId? r = some n.2 := by
  rw [Prod.ext_iff, rowId?_eq_some]
  rfl

theorem not_named_of_cascades {r' : ρ} (h : cascadeRefs r ≠ []) (hn : n ∈ refs r' ∨ n ∈ cascadeRefs r') :
    tableOf r ≠ n.1 := by
  intro heq
  have hne : cascades ρ (tableOf r) ≠ [] := by
    intro hnil
    exact h (by rw [cascadeRefs, hnil]; rfl)
  rcases hn with hn | hn
  · obtain ⟨c, hc, -⟩ := mem_named.mp hn
    exact (Relational.cascades_leaf _ hne _ c).1 (heq ▸ hc)
  · obtain ⟨c, hc, -⟩ := mem_named.mp hn
    exact (Relational.cascades_leaf _ hne _ c).2 (heq ▸ hc)

end Rows

/-- Rows with the rows they name. -/
structure Store (ρ : Type u) {ν : Type v} {γ : Type w} {ι : Type x} [Relational ρ ν γ ι] extends Table ρ where
  closed : ∀ r ∈ rows, ∀ n, n ∈ refs r ∨ n ∈ cascadeRefs r → ∃ r' ∈ rows, key r' = (n.1, [n.2])

namespace Store

variable {ρ : Type u} {ν : Type v} {γ : Type w} {ι : Type x} [Relational ρ ν γ ι]

instance : Membership ρ (Store ρ) := ⟨fun s r => r ∈ s.rows⟩

variable {s t : Store ρ} {r : ρ} {n : ν × ι} {p : ρ → Bool}

theorem mem_def : r ∈ s ↔ r ∈ s.rows := Iff.rfl

theorem ext_rows (h : s.rows = t.rows) : s = t := by
  obtain ⟨s, hs⟩ := s
  obtain ⟨t, ht⟩ := t
  obtain rfl : s = t := Table.ext_rows h
  rfl

theorem eq_of_key_eq {r' : ρ} (h : r ∈ s) (h' : r' ∈ s) (hkey : key r = key r') : r = r' :=
  Table.eq_of_key_eq (t := s.toTable) h h' hkey

variable [DecidableEq ν] [DecidableEq ι]

def ofRows (rows : List ρ) (hnodup : (rows.map key).Nodup)
    (hclosed : ∀ r ∈ rows, ∀ n ∈ refs r ++ cascadeRefs r, ∃ r' ∈ rows, key r' = (n.1, [n.2])) : Store ρ where
  rows
  nodup := hnodup
  closed r hr n hn := hclosed r hr n (List.mem_append.mpr hn)

omit [DecidableEq ν] [DecidableEq ι] in
theorem not_named_of_gone (hsub : ∀ r ∈ t, r ∈ s) {gone : ρ} (hr : r ∈ t) (hn : n ∈ refs r ∨ n ∈ cascadeRefs r)
    (hgone : gone ∈ s) (hnot : gone ∉ t) : key gone ≠ (n.1, [n.2]) := by
  intro hkey
  obtain ⟨r', hr', hkey'⟩ := t.closed r hr n hn
  obtain rfl := eq_of_key_eq (hsub r' hr') hgone (hkey'.trans hkey.symm)
  exact hnot hr'

/-! ## Deletions -/

def removes (rows : List ρ) (p : ρ → Bool) (n : ν × ι) : Bool := rows.any fun r => p r && decide (key r = (n.1, [n.2]))

def goes (rows : List ρ) (p : ρ → Bool) (r : ρ) : Bool := p r || (cascadeRefs r).any (removes rows p)

theorem removes_eq_true {rows : List ρ} : removes rows p n = true ↔ ∃ r ∈ rows, p r = true ∧ key r = (n.1, [n.2]) := by
  simp [removes]

theorem removes_eq_false {rows : List ρ} :
    removes rows p n = false ↔ ∀ r ∈ rows, key r = (n.1, [n.2]) → p r = false := by
  rw [Bool.eq_false_iff, ne_eq, removes_eq_true]
  constructor
  · exact fun h r hr hkey => Bool.eq_false_iff.mpr fun hp => h ⟨r, hr, hp, hkey⟩
  · rintro h ⟨r, hr, hp, hkey⟩
    exact Bool.eq_false_iff.mp (h r hr hkey) hp

theorem goes_of_named {rows : List ρ} {r' : ρ} (hn : n ∈ refs r ∨ n ∈ cascadeRefs r) (hkey : key r' = (n.1, [n.2])) :
    goes rows p r' = p r' := by
  have hnil : cascadeRefs r' = [] := by
    by_contra hne
    exact not_named_of_cascades hne hn (congrArg Prod.fst hkey)
  rw [goes, hnil, List.any_nil, Bool.or_false]

/-- `DELETE ... WHERE`: no row that stays names one that goes. -/
def deleteWhere? (s : Store ρ) (p : ρ → Bool) : Option (Store ρ) :=
  if h : ∀ r ∈ s.rows, goes s.rows p r = false → ∀ n ∈ refs r, removes s.rows p n = false then
    some
      { s.toTable.deleteWhere (goes s.rows p) with
        closed := by
          intro r hr n hn
          obtain ⟨hr, hstays⟩ := List.mem_filter.mp hr
          rw [Bool.not_eq_true'] at hstays
          obtain ⟨r', hr', hkey⟩ := s.closed r hr n hn
          refine ⟨r', List.mem_filter.mpr ⟨hr', ?_⟩, hkey⟩
          rw [Bool.not_eq_true', goes_of_named hn hkey]
          rcases hn with hn | hn
          · exact removes_eq_false.mp (h r hr hstays n hn) r' hr' hkey
          · have hcascade := (Bool.or_eq_false_iff.mp hstays).2
            rw [List.any_eq_false] at hcascade
            exact removes_eq_false.mp (Bool.eq_false_iff.mpr (hcascade n hn)) r' hr' hkey }
  else none

theorem deleteWhere?_eq_some : s.deleteWhere? p = some t ↔
    (∀ r ∈ s, goes s.rows p r = false → ∀ n ∈ refs r, removes s.rows p n = false) ∧
      t.rows = s.rows.filter (fun r => !goes s.rows p r) := by
  unfold deleteWhere?
  split
  · rename_i h
    constructor
    · intro heq
      obtain rfl := Option.some.inj heq
      exact ⟨h, rfl⟩
    · exact fun ⟨_, hrows⟩ => congrArg some (ext_rows hrows.symm)
  · rename_i h
    exact ⟨fun heq => (Option.some_ne_none _ heq.symm).elim, fun ⟨hall, _⟩ => (h hall).elim⟩

theorem removes_of_subset (hsub : ∀ r ∈ t, r ∈ s) (hr : r ∈ t) (hn : n ∈ refs r ∨ n ∈ cascadeRefs r) (p : ρ → Bool) :
    removes t.rows p n = removes s.rows p n := by
  rw [Bool.eq_iff_iff, removes_eq_true, removes_eq_true]
  constructor
  · rintro ⟨r', hr', hp, hkey⟩
    exact ⟨r', hsub r' hr', hp, hkey⟩
  · rintro ⟨r', hr', hp, hkey⟩
    obtain ⟨r'', hr'', hkey'⟩ := t.closed r hr n hn
    obtain rfl := eq_of_key_eq (hsub r'' hr'') hr' (hkey'.trans hkey.symm)
    exact ⟨r'', hr'', hp, hkey⟩

theorem goes_of_subset (hsub : ∀ r ∈ t, r ∈ s) (hr : r ∈ t) (p : ρ → Bool) : goes t.rows p r = goes s.rows p r := by
  unfold goes
  congr 1
  rw [Bool.eq_iff_iff, List.any_eq_true, List.any_eq_true]
  exact exists_congr fun n => and_congr_right fun hn => by rw [removes_of_subset hsub hr (.inr hn)]

/-! ## Several deletions -/

def deleteEach? (s : Store ρ) : List (ρ → Bool) → Option (Store ρ)
  | [] => some s
  | p :: ps => (s.deleteWhere? p).bind fun t => t.deleteEach? ps

/-- A row goes no later than the row of a name. -/
def NoLater (rows : List ρ) : List (ρ → Bool) → ρ → ν × ι → Prop
  | [], _, _ => True
  | p :: ps, r, n => goes rows p r = true ∨ (removes rows p n = false ∧ NoLater rows ps r n)

theorem noLater_of_subset (hsub : ∀ r ∈ t, r ∈ s) (hr : r ∈ t) (hn : n ∈ refs r) (ps : List (ρ → Bool)) :
    NoLater t.rows ps r n ↔ NoLater s.rows ps r n := by
  induction ps with
  | nil => exact Iff.rfl
  | cons p ps ih => rw [NoLater, NoLater, ih, goes_of_subset hsub hr, removes_of_subset hsub hr (.inl hn)]

theorem mem_of_deleteWhere? (h : s.deleteWhere? p = some t) (r : ρ) : r ∈ t ↔ r ∈ s ∧ goes s.rows p r = false := by
  rw [mem_def, (deleteWhere?_eq_some.mp h).2, List.mem_filter, Bool.not_eq_true', mem_def]

theorem filter_of_deleteWhere? (h : s.deleteWhere? p = some t) (ps : List (ρ → Bool)) :
    (t.rows.filter fun r => ps.all fun q => !goes t.rows q r) =
      s.rows.filter fun r => (p :: ps).all fun q => !goes s.rows q r := by
  have hrows := (deleteWhere?_eq_some.mp h).2
  have hsub : ∀ r ∈ t, r ∈ s := fun r hr => ((mem_of_deleteWhere? h r).mp hr).1
  have hsame : t.rows.filter (fun r => ps.all fun q => !goes t.rows q r) =
      t.rows.filter fun r => ps.all fun q => !goes s.rows q r :=
    List.filter_congr fun r hr => by simp only [goes_of_subset hsub hr]
  rw [hsame, hrows, List.filter_filter]
  exact List.filter_congr fun r _ => by rw [List.all_cons, Bool.and_comm]

theorem rows_of_deleteEach? {ps : List (ρ → Bool)} (h : s.deleteEach? ps = some t) :
    t.rows = s.rows.filter fun r => ps.all fun p => !goes s.rows p r := by
  induction ps generalizing s with
  | nil =>
    obtain rfl := Option.some.inj h
    simp
  | cons p ps ih =>
    obtain ⟨s', hdelete, hrest⟩ := Option.bind_eq_some_iff.mp h
    exact (ih hrest).trans (filter_of_deleteWhere? hdelete ps)

/-- **Deletions go through** exactly where each row goes no later than those it names. -/
theorem exists_deleteEach? {ps : List (ρ → Bool)} :
    (∃ t, s.deleteEach? ps = some t) ↔ ∀ r ∈ s, ∀ n ∈ refs r, NoLater s.rows ps r n := by
  induction ps generalizing s with
  | nil => exact ⟨fun _ _ _ _ _ => trivial, fun _ => ⟨s, rfl⟩⟩
  | cons p ps ih =>
    constructor
    · rintro ⟨t, h⟩ r hr n hn
      obtain ⟨s', hdelete, hrest⟩ := Option.bind_eq_some_iff.mp h
      have hsub : ∀ r ∈ s', r ∈ s := fun r hr => ((mem_of_deleteWhere? hdelete r).mp hr).1
      cases hgoes : goes s.rows p r with
      | true => exact .inl hgoes
      | false =>
        have hr' := (mem_of_deleteWhere? hdelete r).mpr ⟨hr, hgoes⟩
        have hstays := (deleteWhere?_eq_some.mp hdelete).1 r hr hgoes n hn
        exact .inr ⟨hstays, (noLater_of_subset hsub hr' hn ps).mp (ih.mp ⟨t, hrest⟩ r hr' n hn)⟩
    · intro hlater
      have hchecked : ∀ r ∈ s, goes s.rows p r = false → ∀ n ∈ refs r, removes s.rows p n = false := by
        intro r hr hstays n hn
        rcases hlater r hr n hn with hgoes | ⟨hstays', -⟩
        · exact absurd (hstays.symm.trans hgoes) (by decide)
        · exact hstays'
      obtain ⟨s', hdelete⟩ : ∃ s', s.deleteWhere? p = some s' := ⟨_, dif_pos hchecked⟩
      have hsub : ∀ r ∈ s', r ∈ s := fun r hr => ((mem_of_deleteWhere? hdelete r).mp hr).1
      obtain ⟨t, hrest⟩ := ih.mpr fun r hr n hn => (noLater_of_subset hsub hr hn ps).mpr (by
        obtain ⟨hr', hstays⟩ := (mem_of_deleteWhere? hdelete r).mp hr
        rcases hlater r hr' n hn with hgoes | ⟨-, hrest⟩
        · exact absurd (hstays.symm.trans hgoes) (by decide)
        · exact hrest)
      exact ⟨t, Option.bind_eq_some_iff.mpr ⟨s', hdelete, hrest⟩⟩

/-! ## Updates and insertions -/

/-- `UPDATE ... WHERE`: the rows that are written name rows that are there. -/
def updateWhere? (s : Store ρ) (p : ρ → Bool) (f : ρ → ρ) (hf : ∀ r, p r → key (f r) = key r) : Option (Store ρ) :=
  if h : ∀ r ∈ s.rows, p r → ∀ n ∈ refs (f r) ++ cascadeRefs (f r), ∃ r' ∈ s.rows, key r' = (n.1, [n.2]) then
    some
      { s.toTable.updateWhere p f hf with
        closed := by
          have hkept : ∀ k, (∃ r ∈ s.rows, key r = k) → ∃ r ∈ (s.toTable.updateWhere p f hf).rows, key r = k := by
            rintro k ⟨r, hr, rfl⟩
            refine ⟨_, List.mem_map_of_mem hr, ?_⟩
            split
            · exact hf r (by assumption)
            · rfl
          intro r hr n hn
          obtain ⟨r, hmem, rfl⟩ := List.mem_map.mp hr
          apply hkept
          split at hn
          · exact h r hmem (by assumption) n (List.mem_append.mpr hn)
          · exact s.closed r hmem n hn }
  else none

section Update
variable {s t : Store ρ} {p : ρ → Bool} {f : ρ → ρ} {hf : ∀ r, p r → key (f r) = key r}

theorem mem_of_updateWhere? (h : s.updateWhere? p f hf = some t) (r : ρ) :
    r ∈ t ↔ ∃ r' ∈ s, (if p r' then f r' else r') = r := by
  unfold updateWhere? at h
  split at h
  · obtain rfl := Option.some.inj h
    exact List.mem_map
  · exact (Option.some_ne_none _ h.symm).elim

theorem exists_updateWhere? (h : ∀ r ∈ s, p r → ∀ n, n ∈ refs (f r) ∨ n ∈ cascadeRefs (f r) →
    ∃ r' ∈ s, key r' = (n.1, [n.2])) : ∃ t, s.updateWhere? p f hf = some t :=
  ⟨_, dif_pos fun r hr hp n hn => h r hr hp n (List.mem_append.mp hn)⟩

theorem exists_updateWhere?_of_forgets (h : ∀ r, p r → ∀ n, n ∈ refs (f r) ∨ n ∈ cascadeRefs (f r) →
    n ∈ refs r ∨ n ∈ cascadeRefs r) : ∃ t, s.updateWhere? p f hf = some t :=
  exists_updateWhere? fun r hr hp n hn => s.closed r hr n (h r hp n hn)

end Update

/-- `INSERT`: refused where the key is taken or a row that is named is not there. -/
def insert? (s : Store ρ) (r : ρ) : Option (Store ρ) :=
  if h : ∀ n ∈ refs r ++ cascadeRefs r, ∃ r' ∈ s.rows, key r' = (n.1, [n.2]) then
    match hinsert : s.toTable.insert? r with
    | none => none
    | some t =>
      some
        { t with
          closed := by
            intro r' hr' n hn
            rcases (Table.mem_insert? hinsert).mp hr' with hold | rfl
            · obtain ⟨named, hnamed, hkey⟩ := s.closed r' hold n hn
              exact ⟨named, (Table.mem_insert? hinsert).mpr (.inl hnamed), hkey⟩
            · obtain ⟨named, hnamed, hkey⟩ := h n (List.mem_append.mpr hn)
              exact ⟨named, (Table.mem_insert? hinsert).mpr (.inl hnamed), hkey⟩ }
  else none

theorem exists_insert? (hfresh : ∀ r' ∈ s, key r' ≠ key r)
    (hnamed : ∀ n, n ∈ refs r ∨ n ∈ cascadeRefs r → ∃ r' ∈ s, key r' = (n.1, [n.2])) :
    ∃ t, s.insert? r = some t := by
  obtain ⟨t, ht⟩ := Table.exists_insert?.mpr (Table.get?_eq_none.mpr hfresh)
  have hthere : ∀ n ∈ refs r ++ cascadeRefs r, ∃ r' ∈ s.rows, key r' = (n.1, [n.2]) :=
    fun n hn => hnamed n (List.mem_append.mp hn)
  unfold insert?
  rw [dif_pos hthere]
  split
  · rename_i hnone
    exact (Option.some_ne_none _ (ht.symm.trans hnone)).elim
  · exact ⟨_, rfl⟩

end Store

/-! ## Rows whose columns hold certain ids -/

/-- Ids: given ones, or those of the rows of a table whose column holds one of others. -/
inductive Ids (ν : Type v) (γ : Type w) (ι : Type x) where
  | given (ids : List ι)
  | select (table : ν) (column : γ) (of : Ids ν γ ι)

/-- `DELETE FROM table WHERE column IN ids OR ...`. -/
structure Delete (ν : Type v) (γ : Type w) (ι : Type x) where
  table : ν
  columns : List γ
  ids : Ids ν γ ι

section Statements

variable {ρ : Type u} {ν : Type v} {γ : Type w} {ι : Type x} [Relational ρ ν γ ι] [DecidableEq ν] [DecidableEq ι]

def holds (table : ν) (columns : List γ) (ids : List ι) (r : ρ) : Bool :=
  decide (tableOf r = table) && columns.any fun c => (column c r).any (· ∈ ids)

variable {table : ν} {r : ρ} {plan : List (Delete ν γ ι)} {s : Store ρ} {rows : List ρ} {d : Delete ν γ ι} {n : ν × ι}

theorem holds_eq_true {columns : List γ} {ids : List ι} :
    holds table columns ids r = true ↔ tableOf r = table ∧ ∃ c ∈ columns, ∃ i ∈ ids, column c r = some i := by
  unfold holds
  rw [Bool.and_eq_true, decide_eq_true_eq, List.any_eq_true]
  refine and_congr_right fun _ => exists_congr fun c => and_congr_right fun _ => ?_
  rw [Option.any_eq_true]
  constructor
  · rintro ⟨i, hi, hmem⟩
    exact ⟨i, of_decide_eq_true hmem, hi⟩
  · rintro ⟨i, hmem, hi⟩
    exact ⟨i, hi, decide_eq_true hmem⟩

theorem holds_eq_false {columns : List γ} {ids : List ι} :
    holds table columns ids r = false ↔ (tableOf r = table → ∀ c ∈ columns, ∀ i, column c r = some i → i ∉ ids) := by
  rw [Bool.eq_false_iff, ne_eq, holds_eq_true]
  constructor
  · exact fun h htable c hc i hi hmem => h ⟨htable, c, hc, i, hmem, hi⟩
  · rintro h ⟨htable, c, hc, i, hmem, hi⟩
    exact h htable c hc i hi hmem

theorem holds_singleton_eq_false {c : γ} {i : ι} :
    holds table [c] [i] r = false ↔ (tableOf r = table → column c r ≠ some i) := by
  rw [holds_eq_false]
  refine imp_congr_right fun _ => ⟨fun h hi => ?_, fun h c' hc' j hj hmem => ?_⟩
  · exact h c List.mem_cons_self i hi List.mem_cons_self
  · rw [List.mem_singleton.mp hc', List.mem_singleton.mp hmem] at hj
    exact h hj

namespace Ids

def eval (rows : List ρ) : Ids ν γ ι → List ι
  | given ids => ids
  | select table c of => (rows.filter (holds table [c] (of.eval rows))).filterMap rowId?

def reads : Ids ν γ ι → List ν
  | given _ => []
  | select table _ of => table :: of.reads

theorem mem_select {rows : List ρ} {table : ν} {c : γ} {of : Ids ν γ ι} {i : ι} :
    i ∈ (select table c of).eval rows ↔
      ∃ r ∈ rows, tableOf r = table ∧ (∃ j ∈ of.eval rows, column c r = some j) ∧ rowId? r = some i := by
  rw [eval, List.mem_filterMap]
  simp only [List.mem_filter, holds_eq_true, List.mem_singleton, exists_eq_left, and_assoc]

theorem eval_filter {rows : List ρ} {stays : ρ → Bool} {ids : Ids ν γ ι}
    (h : ∀ r ∈ rows, tableOf r ∈ ids.reads → stays r = true) : ids.eval (rows.filter stays) = ids.eval rows := by
  induction ids with
  | given ids => rfl
  | select table c of ih =>
    rw [eval, eval, ih fun r hr hread => h r hr (List.mem_cons_of_mem _ hread), List.filter_filter]
    congr 1
    refine List.filter_congr fun r hr => ?_
    cases hholds : holds table [c] (of.eval rows) r with
    | false => rfl
    | true =>
      have htable : tableOf r = table := of_decide_eq_true (Bool.and_eq_true_iff.mp hholds).1
      rw [Bool.true_and]
      exact h r hr (htable ▸ List.mem_cons_self)

end Ids

namespace Delete

variable {rows : List ρ} {d : Delete ν γ ι}

def clause (rows : List ρ) (d : Delete ν γ ι) : ρ → Bool := holds d.table d.columns (d.ids.eval rows)

def removed (rows : List ρ) (d : Delete ν γ ι) : List ι := (rows.filter (d.clause rows)).filterMap rowId?

theorem mem_removed {i : ι} : i ∈ d.removed rows ↔ ∃ r ∈ rows, d.clause rows r = true ∧ rowId? r = some i := by
  unfold removed
  rw [List.mem_filterMap]
  simp only [List.mem_filter, and_assoc]

theorem clause_table {r : ρ} (h : d.clause rows r = true) : tableOf r = d.table :=
  of_decide_eq_true (Bool.and_eq_true_iff.mp h).1

theorem removes_clause {n : ν × ι} :
    Store.removes rows (d.clause rows) n = true ↔ d.table = n.1 ∧ n.2 ∈ d.removed rows := by
  rw [Store.removes_eq_true, removed, List.mem_filterMap]
  constructor
  · rintro ⟨r, hr, hclause, hkey⟩
    obtain ⟨htable, hid⟩ := key_eq_iff.mp hkey
    exact ⟨(clause_table hclause).symm.trans htable, r, List.mem_filter.mpr ⟨hr, hclause⟩, hid⟩
  · rintro ⟨htable, r, hr, hid⟩
    obtain ⟨hr, hclause⟩ := List.mem_filter.mp hr
    exact ⟨r, hr, hclause, key_eq_iff.mpr ⟨(clause_table hclause).trans htable, hid⟩⟩

theorem table_of_goes {r : ρ} (h : Store.goes rows (d.clause rows) r = true) :
    tableOf r = d.table ∨ ∃ n ∈ cascadeRefs r, d.table = n.1 := by
  rcases Bool.or_eq_true_iff.mp h with h | h
  · exact .inl (clause_table h)
  · obtain ⟨n, hn, hremoves⟩ := List.any_eq_true.mp h
    exact .inr ⟨n, hn, (removes_clause.mp hremoves).1⟩

theorem goes_clause {r : ρ} (h : ∀ t c, (c, d.table) ∉ cascades ρ t) :
    Store.goes rows (d.clause rows) r = d.clause rows r := by
  have hnone : (cascadeRefs r).any (Store.removes rows (d.clause rows)) = false := by
    rw [List.any_eq_false]
    intro n hn hremoves
    obtain ⟨c, hc, -⟩ := mem_named.mp hn
    exact h (tableOf r) c ((removes_clause.mp hremoves).1 ▸ hc)
  rw [Store.goes, hnone, Bool.or_false]

end Delete

/-! ## Runs of deletions -/

/-- Deletions, each of the rows its query gives when it is its turn. -/
def Store.run? (s : Store ρ) : List (Delete ν γ ι) → Option (Store ρ)
  | [] => some s
  | d :: ds => (s.deleteWhere? (d.clause s.rows)).bind fun t => t.run? ds

theorem run?_append (s : Store ρ) (ds ds' : List (Delete ν γ ι)) :
    s.run? (ds ++ ds') = (s.run? ds).bind fun t => t.run? ds' := by
  induction ds generalizing s with
  | nil => rfl
  | cons d ds ih =>
    rw [List.cons_append, Store.run?, Store.run?, Option.bind_assoc]
    exact congrArg _ (funext fun t => ih t)

theorem run?_of_given_nil (s : Store ρ) {ds : List (Delete ν γ ι)} (h : ∀ d ∈ ds, d.ids = .given []) :
    s.run? ds = some s := by
  induction ds with
  | nil => rfl
  | cons d ds ih =>
    have hclause : ∀ r, d.clause s.rows r = false := by
      intro r
      rw [Delete.clause, h d List.mem_cons_self, Ids.eval]
      exact holds_eq_false.mpr fun _ _ _ _ _ => List.not_mem_nil
    have hgoes : ∀ r, Store.goes s.rows (d.clause s.rows) r = false := by
      intro r
      have hnone : (cascadeRefs r).any (Store.removes s.rows (d.clause s.rows)) = false := by
        rw [List.any_eq_false]
        intro n _
        rw [Bool.not_eq_true, Store.removes_eq_false]
        exact fun r' _ _ => hclause r'
      rw [Store.goes, hclause, hnone]
      rfl
    have hdelete : s.deleteWhere? (d.clause s.rows) = some s := by
      refine Store.deleteWhere?_eq_some.mpr ⟨fun r hr _ n hn => ?_, ?_⟩
      · exact Store.removes_eq_false.mpr fun r' _ _ => hclause r'
      · simp [hgoes]
    rw [Store.run?, hdelete, Option.bind_some, ih fun d' hd' => h d' (List.mem_cons_of_mem _ hd')]

/-- No query reads a table from which rows have gone. -/
def Steady (ρ : Type u) [Relational ρ ν γ ι] (plan : List (Delete ν γ ι)) : Prop :=
  plan.Pairwise (fun d later => d.table ∉ later.ids.reads) ∧ ∀ d ∈ plan, ∀ t ∈ d.ids.reads, cascades ρ t = []

omit [DecidableEq ν] [DecidableEq ι] in
theorem steady_of_given (h : ∀ d ∈ plan, d.ids.reads = []) : Steady ρ plan := by
  refine ⟨?_, fun d hd t ht => absurd (h d hd ▸ ht) List.not_mem_nil⟩
  induction plan with
  | nil => exact List.Pairwise.nil
  | cons d ds ih =>
    refine List.pairwise_cons.mpr ⟨fun later hlater hread => ?_, ih fun d' hd' => h d' (List.mem_cons_of_mem _ hd')⟩
    rw [h later (List.mem_cons_of_mem _ hlater)] at hread
    exact List.not_mem_nil hread

omit [DecidableEq ν] [DecidableEq ι] in
theorem steady_of_reads {reads : List (ν × List ν)} (hplan : plan.map (fun d => (d.table, d.ids.reads)) = reads)
    (hpair : reads.Pairwise fun d later => d.1 ∉ later.2) (hleaf : ∀ d ∈ reads, ∀ t ∈ d.2, cascades ρ t = []) :
    Steady ρ plan := by
  subst hplan
  refine ⟨List.pairwise_map.mp hpair, fun d hd t ht => ?_⟩
  exact hleaf _ (List.mem_map_of_mem (f := fun d => (d.table, d.ids.reads)) hd) t ht

theorem run?_eq_deleteEach? (h : Steady ρ plan) : s.run? plan = s.deleteEach? (plan.map (·.clause s.rows)) := by
  induction plan generalizing s with
  | nil => rfl
  | cons d ds ih =>
    obtain ⟨hpair, hleaf⟩ := h
    obtain ⟨hfirst, hrest⟩ := List.pairwise_cons.mp hpair
    rw [Store.run?, List.map_cons, Store.deleteEach?]
    cases hdelete : s.deleteWhere? (d.clause s.rows) with
    | none => rfl
    | some t =>
      rw [Option.bind_some, Option.bind_some, ih ⟨hrest, fun d' hd' => hleaf d' (List.mem_cons_of_mem _ hd')⟩]
      congr 1
      refine List.map_congr_left fun later hlater => ?_
      -- what a later query reads has stayed
      have hsame : later.ids.eval t.rows = later.ids.eval s.rows := by
        rw [(Store.deleteWhere?_eq_some.mp hdelete).2]
        refine Ids.eval_filter fun r hr hread => ?_
        rw [Bool.not_eq_true', Bool.eq_false_iff]
        intro hgoes
        rcases Delete.table_of_goes hgoes with htable | ⟨n, hn, -⟩
        · exact hfirst later hlater (htable ▸ hread)
        · have hnil : cascadeRefs r = [] := by
            rw [cascadeRefs, hleaf later (List.mem_cons_of_mem _ hlater) _ hread]
            rfl
          rw [hnil] at hn
          exact absurd hn List.not_mem_nil
      exact congrArg (holds later.table later.columns) hsame

/-- The deletion is one of the row, or of a row it goes with. -/
def Delete.Takes (rows : List ρ) (d : Delete ν γ ι) (r : ρ) : Prop :=
  d.clause rows r = true ∨ ∃ n ∈ cascadeRefs r, d.table = n.1 ∧ n.2 ∈ d.removed rows

/-- A row goes no later than the row of a name. -/
def NoLater (rows : List ρ) : List (Delete ν γ ι) → ρ → ν × ι → Prop
  | [], _, _ => True
  | d :: ds, r, n => d.Takes rows r ∨ (¬ (d.table = n.1 ∧ n.2 ∈ d.removed rows) ∧ NoLater rows ds r n)

theorem Delete.goes_iff : Store.goes rows (d.clause rows) r = true ↔ d.Takes rows r := by
  rw [Store.goes, Bool.or_eq_true, List.any_eq_true]
  simp only [Delete.removes_clause]
  rfl

theorem noLater_iff : Store.NoLater rows (plan.map (·.clause rows)) r n ↔ NoLater rows plan r n := by
  induction plan with
  | nil => exact Iff.rfl
  | cons d ds ih =>
    rw [List.map_cons, Store.NoLater, NoLater, ih, Delete.goes_iff, ← Delete.removes_clause, Bool.not_eq_true]

/-- **Deletions go through** exactly where each row goes no later than those it names. -/
theorem exists_run? (hsteady : Steady ρ plan) :
    (∃ t, s.run? plan = some t) ↔ ∀ r ∈ s, ∀ n ∈ refs r, NoLater s.rows plan r n := by
  rw [run?_eq_deleteEach? hsteady, Store.exists_deleteEach?]
  simp only [noLater_iff]

theorem mem_of_run? {t : Store ρ} (hsteady : Steady ρ plan) (h : s.run? plan = some t) (r : ρ) :
    r ∈ t ↔ r ∈ s ∧ ∀ d ∈ plan, Store.goes s.rows (d.clause s.rows) r = false := by
  rw [run?_eq_deleteEach? hsteady] at h
  rw [Store.mem_def, Store.rows_of_deleteEach? h, List.mem_filter, List.all_eq_true]
  simp only [List.mem_map, forall_exists_index, and_imp, forall_apply_eq_imp_iff₂, Bool.not_eq_true', Store.mem_def]

theorem exists_run?_of_unnamed (hsteady : Steady ρ plan) (h : ∀ d ∈ plan, ∀ t c, (c, d.table) ∉ foreignKeys ρ t) :
    ∃ t, s.run? plan = some t := by
  rw [exists_run? hsteady]
  intro r _ n hn
  clear hsteady
  induction plan with
  | nil => trivial
  | cons d ds ih =>
    refine .inr ⟨?_, ih fun d' hd' => h d' (List.mem_cons_of_mem _ hd')⟩
    rintro ⟨htable, -⟩
    obtain ⟨c, hc, -⟩ := mem_named.mp hn
    exact h d List.mem_cons_self (tableOf r) c (htable ▸ hc)

def Taken (rows : List ρ) (plan : List (Delete ν γ ι)) (r : ρ) : Prop := ∃ d ∈ plan, d.Takes rows r

/-- One of the deletions is one of the row of a name. -/
def Gone (rows : List ρ) (plan : List (Delete ν γ ι)) (n : ν × ι) : Prop :=
  ∃ d ∈ plan, d.table = n.1 ∧ n.2 ∈ d.removed rows

def Touches (ρ : Type u) [Relational ρ ν γ ι] (deleted table : ν) : Prop :=
  deleted = table ∨ deleted ∈ (cascades ρ table).map (·.2)

instance (deleted table : ν) : Decidable (Touches ρ deleted table) := inferInstanceAs (Decidable (_ ∨ _))

theorem Delete.touches_of_takes (h : d.Takes rows r) : Touches ρ d.table (tableOf r) := by
  rcases h with h | ⟨n, hn, htable, -⟩
  · exact .inl (Delete.clause_table h).symm
  · obtain ⟨c, hc, -⟩ := mem_named.mp hn
    exact .inr (List.mem_map.mpr ⟨(c, n.1), hc, htable.symm⟩)

theorem not_taken_of_untouched (h : ∀ table ∈ plan.map (·.table), ¬ Touches ρ table (tableOf r)) :
    ¬ Taken rows plan r :=
  fun ⟨d, hd, htakes⟩ => h d.table (List.mem_map_of_mem hd) (Delete.touches_of_takes htakes)

theorem taken_iff : Taken rows plan r ↔ (∃ d ∈ plan.filter (fun d => decide (d.table = tableOf r)),
      ∃ c ∈ d.columns, ∃ i ∈ d.ids.eval rows, column c r = some i) ∨ ∃ n ∈ cascadeRefs r, Gone rows plan n := by
  simp only [Taken, Delete.Takes, Delete.clause, holds_eq_true, Gone, List.mem_filter, decide_eq_true_eq, and_assoc,
    and_or_left, exists_or]
  refine or_congr ?_ ?_
  · exact exists_congr fun d => by rw [eq_comm (a := tableOf r)]
  · constructor
    · rintro ⟨d, hd, n, hn, hgone⟩
      exact ⟨n, hn, d, hd, hgone⟩
    · rintro ⟨n, hn, d, hd, hgone⟩
      exact ⟨d, hd, n, hn, hgone⟩

theorem taken_iff_of_plain (hplain : cascades ρ (tableOf r) = []) :
    Taken rows plan r ↔ ∃ d ∈ plan.filter (fun d => decide (d.table = tableOf r)),
      ∃ c ∈ d.columns, ∃ i ∈ d.ids.eval rows, column c r = some i := by
  rw [taken_iff, cascadeRefs, hplain]
  exact or_iff_left fun ⟨_, hn, _⟩ => List.not_mem_nil hn

theorem taken_iff_of_column {c : γ} (hplain : cascades ρ (tableOf r) = [])
    (hd : plan.filter (fun d => decide (d.table = tableOf r)) = [d]) (hc : d.columns = [c]) :
    Taken rows plan r ↔ ∃ i ∈ d.ids.eval rows, column c r = some i := by
  rw [taken_iff_of_plain hplain, hd]
  simp only [List.mem_singleton, exists_eq_left, hc]

theorem taken_iff_mem {c : γ} {i : ι} (hplain : cascades ρ (tableOf r) = [])
    (hd : plan.filter (fun d => decide (d.table = tableOf r)) = [d]) (hc : d.columns = [c]) (hi : column c r = some i) :
    Taken rows plan r ↔ i ∈ d.ids.eval rows := by
  rw [taken_iff_of_column hplain hd hc, hi]
  exact ⟨fun ⟨j, hj, heq⟩ => Option.some.inj heq ▸ hj, fun h => ⟨i, h, rfl⟩⟩

/-- Where rows are deleted from these tables, in this order, none of a table go after those of another. -/
def Before (ρ : Type u) [Relational ρ ν γ ι] (table other : ν) : List ν → Prop
  | [] => True
  | deleted :: rest => if deleted = other then ∀ later ∈ rest, ¬ Touches ρ later table else Before ρ table other rest

instance decidableBefore (table other : ν) : (tables : List ν) → Decidable (Before ρ table other tables)
  | [] => inferInstanceAs (Decidable True)
  | deleted :: rest =>
    have := decidableBefore table other rest
    inferInstanceAs (Decidable (if deleted = other then ∀ later ∈ rest, ¬ Touches ρ later table else
      Before ρ table other rest))

omit [DecidableEq ι] in
theorem before_concat {ds : List (Delete ν γ ι)} {other : ν} (h : ∀ d' ∈ ds, d'.table ≠ other) :
    Before ρ table other ((ds ++ [d]).map (·.table)) := by
  induction ds with
  | nil =>
    rw [List.nil_append, List.map_singleton, Before]
    split
    · exact fun _ hlater => absurd hlater List.not_mem_nil
    · trivial
  | cons d' ds ih =>
    rw [List.cons_append, List.map_cons, Before, if_neg (h d' List.mem_cons_self)]
    exact ih fun d'' hd'' => h d'' (List.mem_cons_of_mem _ hd'')

omit [DecidableEq ι] in
theorem Before.not_mem {other t : ν} {pre post : List ν} (h : Before ρ table other (pre ++ t :: post))
    (ht : Touches ρ t table) : other ∉ pre := by
  induction pre with
  | nil => exact List.not_mem_nil
  | cons deleted rest ih =>
    rw [List.cons_append, Before] at h
    split at h
    · exact absurd ht (h t (List.mem_append_right _ List.mem_cons_self))
    · rename_i hne
      rw [List.mem_cons, not_or]
      exact ⟨fun heq => hne heq.symm, ih h⟩

theorem noLater_of_not_gone (h : ¬ Gone rows plan n) : NoLater rows plan r n := by
  induction plan with
  | nil => trivial
  | cons d ds ih =>
    refine .inr ⟨fun hgone => h ⟨d, List.mem_cons_self, hgone⟩, ih ?_⟩
    exact fun ⟨d', hd', hgone⟩ => h ⟨d', List.mem_cons_of_mem _ hd', hgone⟩

/-- A row that a deletion takes goes no later than those that no earlier deletion is about. -/
theorem noLater_of_takes {before after : List (Delete ν γ ι)} (hbefore : ∀ d' ∈ before, d'.table ≠ n.1)
    (h : d.Takes rows r) : NoLater rows (before ++ d :: after) r n := by
  induction before with
  | nil => exact .inl h
  | cons d' ds ih =>
    exact .inr ⟨fun hgone => hbefore d' List.mem_cons_self hgone.1, ih fun d'' hd'' =>
      hbefore d'' (List.mem_cons_of_mem _ hd'')⟩

theorem noLater_iff_of_before (h : Before ρ (tableOf r) n.1 (plan.map (·.table))) :
    NoLater rows plan r n ↔ Taken rows plan r ∨ ¬ Gone rows plan n := by
  constructor
  · intro hlater
    clear h
    induction plan with
    | nil => exact .inr fun ⟨_, hd, _⟩ => List.not_mem_nil hd
    | cons d ds ih =>
      rcases hlater with htakes | ⟨hstays, hlater⟩
      · exact .inl ⟨d, List.mem_cons_self, htakes⟩
      · refine (ih hlater).imp (fun ⟨d', hd', htakes⟩ => ⟨d', List.mem_cons_of_mem _ hd', htakes⟩) ?_
        rintro hkept ⟨d', hd', hgone⟩
        rcases List.mem_cons.mp hd' with rfl | hd'
        · exact hstays hgone
        · exact hkept ⟨d', hd', hgone⟩
  · rintro (⟨d', hd', htakes⟩ | hkept)
    · obtain ⟨before, after, rfl⟩ := List.append_of_mem hd'
      rw [List.map_append, List.map_cons] at h
      have hfirst := h.not_mem (Delete.touches_of_takes htakes)
      exact noLater_of_takes (fun d hd htable => hfirst (List.mem_map.mpr ⟨d, hd, htable⟩)) htakes
    · exact noLater_of_not_gone hkept

theorem mem_run?_iff {t : Store ρ} (hsteady : Steady ρ plan) (h : s.run? plan = some t) (r : ρ) :
    r ∈ t ↔ r ∈ s ∧ ¬ Taken s.rows plan r := by
  rw [mem_of_run? hsteady h]
  refine and_congr_right fun _ => ?_
  rw [Taken, not_exists]
  exact forall_congr' fun d => by rw [not_and, ← Delete.goes_iff, Bool.not_eq_true]

end Statements

end Lib
