import SiloForge.Lib.Table

/-!
# A table without some of its rows

`t.deleteWhere hidden` is the part of a table an observer sees. A statement that selects and writes only rows of that
part does on the part what it does on the table; and what is left without the rows of the part stays as it was.

* `filter_part`, `find?_part`, `any_part`, `all_part`, `get?_part` : queries for rows of the part;
* `put_part`, `updateWhere_part`, `deleteWhere_part`, `insert?_part`, `insertAll?_part` : writes on the part;
* `put_rest`, `updateWhere_rest`, `deleteWhere_rest`, `insert?_rest` : what writes on the part leave alone.
-/

universe u v w x

namespace Lib

/-! ## Two computations -/

section Computations
variable {ε : Type u} {α β α' β' : Type v}

variable {x x' : Except ε α} {f : α → Except ε β}

/-- Where each step of a computation gives the image of a step, the computation gives the image. -/
theorem bind_eq_map {x' : Except ε α'} {f' : α' → Except ε β'} (n : α → α') {m : β → β'} (hx : x' = x.map n)
    (hf : ∀ a, x = .ok a → f' (n a) = (f a).map m) :
    (x' >>= f') = (x >>= f).map m := by
  subst hx
  cases x with
  | error e => rfl
  | ok a => exact hf a rfl

theorem bind_congr_map {f' : α → Except ε β'} {m : β → β'} (hx : x' = x) (hf : ∀ a, x = .ok a → f' a = (f a).map m) :
    (x' >>= f') = (x >>= f).map m := by
  subst hx
  cases x' with
  | error e => rfl
  | ok a => exact hf a rfl

theorem bind_congr_ok {f' : α → Except ε β} (hx : x' = x) (hf : ∀ a, x = .ok a → f' a = f a) :
    (x' >>= f') = (x >>= f) := by
  subst hx
  cases x' with
  | error e => rfl
  | ok a => exact hf a rfl

theorem bind_congr_image {γ : Type w} {g : β → γ} {g' : β' → γ} {f' : α → Except ε β'} (hx : x' = x)
    (hf : ∀ a, x = .ok a → (f' a).map g' = (f a).map g) :
    (x' >>= f').map g' = (x >>= f).map g := by
  subst hx
  cases x' with
  | error e => rfl
  | ok a => exact hf a rfl

theorem map_bind_pure {γ : Type w} (x : Except ε α) (f : α → β) (g : β → γ) :
    (x >>= fun a => pure (f a)).map g = x.map fun a => g (f a) := by
  cases x <;> rfl

end Computations

namespace Table

variable {ρ : Type u} {κ : Type v} [Keyed ρ κ] {t : Table ρ} {hidden selected : ρ → Bool}

/-! ## Queries -/

theorem filter_part (h : ∀ r ∈ t, selected r = true → hidden r = false) :
    (t.deleteWhere hidden).rows.filter selected = t.rows.filter selected := by
  show (t.rows.filter fun r => !hidden r).filter selected = _
  rw [List.filter_filter]
  apply List.filter_congr
  intro r hr
  cases hsel : selected r with
  | false => rfl
  | true => rw [h r hr hsel]; rfl

theorem find?_part (h : ∀ r ∈ t, selected r = true → hidden r = false) :
    (t.deleteWhere hidden).rows.find? selected = t.rows.find? selected := by
  rw [← List.head?_filter, ← List.head?_filter, filter_part h]

theorem any_part (h : ∀ r ∈ t, selected r = true → hidden r = false) :
    (t.deleteWhere hidden).rows.any selected = t.rows.any selected := by
  have hany : ∀ rows : List ρ, rows.any selected = !(rows.filter selected).isEmpty := by
    intro rows
    induction rows with
    | nil => rfl
    | cons r rows ih =>
      rw [List.any_cons, List.filter_cons]
      cases selected r with
      | false => exact ih
      | true => rfl
  rw [hany, hany, filter_part h]

theorem all_part (h : ∀ r ∈ t, selected r = false → hidden r = false) :
    (t.deleteWhere hidden).rows.all selected = t.rows.all selected := by
  have hany : (t.deleteWhere hidden).rows.any (fun r => !selected r) = t.rows.any fun r => !selected r :=
    any_part fun r hr hsel => h r hr (by simpa using hsel)
  rw [← Bool.not_inj_iff, List.not_all_eq_any_not, List.not_all_eq_any_not]
  exact hany

theorem view_part {σ : Type u} [Keyed σ κ] {f : ρ → σ} {hf : ∀ r, key (f r) = key r} (hidden : σ → Bool) :
    (t.deleteWhere fun r => hidden (f r)).view f hf = (t.view f hf).deleteWhere hidden := by
  apply ext_rows
  show (t.rows.filter _).map f = (t.rows.map f).filter _
  rw [List.filter_map]
  rfl

section Keys
variable [DecidableEq κ]

theorem get?_part {k : κ} (h : ∀ r ∈ t, key r = k → hidden r = false) :
    (t.deleteWhere hidden).get? k = t.get? k :=
  find?_part fun r hr hk => h r hr (of_decide_eq_true hk)

theorem get?_part_of_get? {k : κ} {r : ρ} (h : t.get? k = some r) (hr : hidden r = false) :
    (t.deleteWhere hidden).get? k = some r := by
  rw [get?_deleteWhere, h, Option.filter_some, hr]
  rfl

/-! ## Writes on the part -/

omit [DecidableEq κ] in
theorem updateWhere_part {f : ρ → ρ} {hf : ∀ r, selected r → key (f r) = key r}
    (h : ∀ r ∈ t, selected r = true → hidden r = false ∧ hidden (f r) = false) :
    (t.deleteWhere hidden).updateWhere selected f hf = (t.updateWhere selected f hf).deleteWhere hidden := by
  apply ext_rows
  show (t.rows.filter fun r => !hidden r).map _ = (t.rows.map _).filter fun r => !hidden r
  rw [List.filter_map]
  congr 1
  apply List.filter_congr
  intro r hr
  rw [Function.comp]
  cases hsel : selected r with
  | false => rfl
  | true => rw [(h r hr hsel).1, if_pos rfl, (h r hr hsel).2]

theorem put_part {r : ρ} (hr : hidden r = false) (h : ∀ r' ∈ t, key r' = key r → hidden r' = false) :
    (t.deleteWhere hidden).put r = (t.put r).deleteWhere hidden :=
  updateWhere_part fun r' hr' hk => ⟨h r' hr' (of_decide_eq_true hk), hr⟩

omit [DecidableEq κ] in
theorem deleteWhere_part :
    (t.deleteWhere hidden).deleteWhere selected = (t.deleteWhere selected).deleteWhere hidden := by
  apply ext_rows
  show (t.rows.filter _).filter _ = (t.rows.filter _).filter _
  rw [List.filter_filter, List.filter_filter]
  apply List.filter_congr
  intro r _
  exact Bool.and_comm _ _

theorem insert?_part {r : ρ} (hr : hidden r = false) (h : ∀ r' ∈ t, key r' = key r → hidden r' = false) :
    (t.deleteWhere hidden).insert? r = (t.insert? r).map fun t' => t'.deleteWhere hidden := by
  cases hins : t.insert? r with
  | none =>
    cases hpart : (t.deleteWhere hidden).insert? r with
    | none => rfl
    | some t' =>
      have hfree := (insert?_eq_some hpart).2
      rw [get?_part h] at hfree
      obtain ⟨t'', ht''⟩ := exists_insert?.mpr hfree
      rw [hins] at ht''
      cases ht''
  | some t' =>
    obtain ⟨hrows, hfree⟩ := insert?_eq_some hins
    rw [← get?_part h] at hfree
    obtain ⟨t'', ht''⟩ := exists_insert?.mpr hfree
    rw [ht'', Option.map_some]
    congr 1
    apply ext_rows
    rw [(insert?_eq_some ht'').1]
    show (t.rows.filter _) ++ [r] = t'.rows.filter _
    rw [hrows, List.filter_append, List.filter_singleton, hr]
    rfl

theorem insertAll?_part {rs : List ρ} (hrs : ∀ r ∈ rs, hidden r = false)
    (h : ∀ r ∈ rs, ∀ r' ∈ t, key r' = key r → hidden r' = false) :
    (t.deleteWhere hidden).insertAll? rs = (t.insertAll? rs).map fun t' => t'.deleteWhere hidden := by
  induction rs generalizing t with
  | nil => rfl
  | cons r rs ih =>
    unfold insertAll?
    rw [insert?_part (hrs r List.mem_cons_self) (h r List.mem_cons_self)]
    cases hins : t.insert? r with
    | none => rfl
    | some t₁ =>
      refine ih (fun r' hr' => hrs r' (List.mem_cons_of_mem r hr')) ?_
      intro r' hr' r'' hr'' hk
      rcases (mem_insert? hins).mp hr'' with hold | rfl
      · exact h r' (List.mem_cons_of_mem r hr') r'' hold hk
      · exact hrs r'' List.mem_cons_self

/-! ## The rest -/

omit [DecidableEq κ] in
theorem updateWhere_rest {f : ρ → ρ} {hf : ∀ r, selected r → key (f r) = key r}
    (h : ∀ r ∈ t, selected r = true → hidden r = true ∧ hidden (f r) = true) :
    (t.updateWhere selected f hf).deleteWhere hidden = t.deleteWhere hidden := by
  apply ext_rows
  show (t.rows.map fun r => if selected r then f r else r).filter (fun r => !hidden r) = t.rows.filter fun r => !hidden r
  have hrows : ∀ rows : List ρ, (∀ r ∈ rows, selected r = true → hidden r = true ∧ hidden (f r) = true) →
      (rows.map fun r => if selected r then f r else r).filter (fun r => !hidden r) =
        rows.filter fun r => !hidden r := by
    intro rows hrows
    induction rows with
    | nil => rfl
    | cons r rows ih =>
      rw [List.map_cons, List.filter_cons, List.filter_cons, ih fun r' hr' => hrows r' (List.mem_cons_of_mem r hr')]
      cases hsel : selected r with
      | false => rfl
      | true => simp [hrows r List.mem_cons_self hsel]
  exact hrows t.rows h

theorem put_rest {r : ρ} (hr : hidden r = true) (h : ∀ r' ∈ t, key r' = key r → hidden r' = true) :
    (t.put r).deleteWhere hidden = t.deleteWhere hidden :=
  updateWhere_rest fun r' hr' hk => ⟨h r' hr' (of_decide_eq_true hk), hr⟩

omit [DecidableEq κ] in
theorem deleteWhere_rest (h : ∀ r ∈ t, selected r = true → hidden r = true) :
    (t.deleteWhere selected).deleteWhere hidden = t.deleteWhere hidden := by
  apply ext_rows
  show (t.rows.filter _).filter _ = t.rows.filter _
  rw [List.filter_filter]
  apply List.filter_congr
  intro r hr
  cases hsel : selected r with
  | false => exact Bool.and_true _
  | true => rw [h r hr hsel]; rfl

theorem insert?_rest {t' : Table ρ} {r : ρ} (hr : hidden r = true) (h : t.insert? r = some t') :
    t'.deleteWhere hidden = t.deleteWhere hidden := by
  apply ext_rows
  show t'.rows.filter _ = t.rows.filter _
  rw [(insert?_eq_some h).1, List.filter_append, List.filter_singleton, hr]
  exact List.append_nil _

end Keys

end Table

end Lib
