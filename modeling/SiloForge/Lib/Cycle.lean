import Mathlib.Data.List.Chain
import Mathlib.Data.List.Nodup
import Mathlib.Data.List.Sort
import Mathlib.Order.WellFoundedSet

/-!
# Depth-first cycle detection

`hasCycle depth succ nodes` walks a directed graph, given by its successor lists, depth first from each
vertex of `nodes`, with a set of visited vertices and a stack of the vertices being explored; a vertex
met again while on the stack closes a cycle. A search that nests more calls than `depth` is cut off.

* `Acyclic.exists_last` : from a vertex of a finite set a path leads to one without edges into the set;
* `acyclic_of_hasCycle_eq_false`, `exists_cycle_of_hasCycle` : its answers are right, whatever the depth;
* `hasCycle_ne_none`, `hasCycle_eq_none` : it is not cut off where no path is deeper, and is along a path that is.
-/

universe u

namespace Lib

open Relation

def Acyclic {α : Type u} (r : α → α → Prop) : Prop := ∀ x, ¬ TransGen r x x

theorem Acyclic.mono {α : Type u} {r r' : α → α → Prop} (h : Acyclic r) (hr : ∀ x y, r' x y → r x y) :
    Acyclic r' :=
  fun x hx => h x (TransGen.mono hr x x hx)

theorem acyclic_of_rank {α : Type u} {r : α → α → Prop} (rank : α → ℕ) (h : ∀ x y, r x y → rank y < rank x) :
    Acyclic r := by
  have hdown : ∀ x y, TransGen r x y → rank y < rank x := by
    intro x y hxy
    induction hxy with
    | single hedge => exact h _ _ hedge
    | tail _ hedge ih => exact (h _ _ hedge).trans ih
  exact fun x hx => (hdown x x hx).false

theorem Acyclic.add_source {α : Type u} {r r' : α → α → Prop} (h : Acyclic r) {n : α}
    (hsource : ∀ x, ¬ r' x n) (hr : ∀ x y, x ≠ n → r' x y → r x y) : Acyclic r' := by
  have hlift : ∀ x y, x ≠ n → TransGen r' x y → TransGen r x y := by
    intro x y hx hxy
    induction hxy with
    | single hedge => exact .single (hr _ _ hx hedge)
    | tail hpath hedge ih =>
      rename_i b c
      have hb : b ≠ n := by
        rintro rfl
        cases hpath with
        | single hlast => exact hsource _ hlast
        | tail _ hlast => exact hsource _ hlast
      exact ih.tail (hr _ _ hb hedge)
  intro x hx
  by_cases hxn : x = n
  · subst hxn
    cases hx with
    | single hlast => exact hsource _ hlast
    | tail _ hlast => exact hsource _ hlast
  · exact h x (hlift x x hxn hx)

/-- In a finite set some vertex that `x` reaches has no edge into the set. -/
theorem Acyclic.exists_last {α : Type u} {r : α → α → Prop} (h : Acyclic r) {s : Set α} (hs : s.Finite) {x : α}
    (hx : x ∈ s) : ∃ y ∈ s, ReflTransGen r x y ∧ ∀ z ∈ s, ¬ r y z := by
  have : IsStrictOrder α (Function.swap (TransGen r)) :=
    { irrefl := h, trans := fun _ _ _ hba hcb => hcb.trans hba }
  have hwf : s.WellFoundedOn (Function.swap (TransGen r)) := hs.wellFoundedOn
  apply hwf.induction hx
  intro y hy ih
  by_cases hlast : ∀ z ∈ s, ¬ r y z
  · exact ⟨y, hy, .refl, hlast⟩
  · obtain ⟨z, hz, hyz⟩ : ∃ z ∈ s, r y z := by simpa using hlast
    obtain ⟨w, hw, hzw, hlast⟩ := ih z hz (.single hyz)
    exact ⟨w, hw, hzw.head hyz, hlast⟩

namespace Cycle

variable {α : Type u} [DecidableEq α]

structure Search (α : Type u) where
  visited : List α
  inStack : List α

/-- Search from each vertex in turn until a search finds a cycle, or is cut off. -/
def searchEach (f : α → Search α → Option (Bool × Search α)) : List α → Search α → Option (Bool × Search α)
  | [], st => some (false, st)
  | x :: xs, st =>
    match f x st with
    | none => none
    | some (true, st') => some (true, st')
    | some (false, st') => searchEach f xs st'

/-- Search from a vertex, with calls nested up to a depth. -/
def dfs (succ : α → List α) : Nat → α → Search α → Option (Bool × Search α)
  | 0, _, _ => none
  | n + 1, current, st =>
    if current ∈ st.inStack then some (true, st)
    else if current ∈ st.visited then some (false, st)
    else
      match searchEach (dfs succ n) (succ current) ⟨current :: st.visited, current :: st.inStack⟩ with
      | none => none
      | some (true, st') => some (true, st')
      | some (false, st') => some (false, { st' with inStack := st'.inStack.erase current })

/-- Whether a cycle can be reached from `nodes`; none where the search is cut off. -/
def hasCycle (depth : Nat) (succ : α → List α) (nodes : List α) : Option Bool :=
  (searchEach (dfs succ depth) nodes ⟨[], []⟩).map Prod.fst

theorem hasCycle_eq_some {depth : Nat} {succ : α → List α} {nodes : List α} {found : Bool} :
    hasCycle depth succ nodes = some found ↔
      ∃ st', searchEach (dfs succ depth) nodes ⟨[], []⟩ = some (found, st') := by
  simp [hasCycle]

/-! ## The answer `false` -/

section Sound
variable (succ : α → List α)

def Edge (x y : α) : Prop := y ∈ succ x

def Grounded (x : α) : Prop := Acc (fun y x => Edge succ x y) x

omit [DecidableEq α] in
theorem Grounded.not_cycle {x : α} (h : Grounded succ x) : ¬ TransGen (Edge succ) x x := by
  intro hx
  have hacc : Acc (TransGen fun y x => Edge succ x y) x := Acc.transGen h
  have hswap : TransGen (fun y x => Edge succ x y) x x := transGen_swap.mpr hx
  clear h hx
  induction hacc with
  | intro x _ ih => exact ih x hswap hswap

omit [DecidableEq α] in
theorem Grounded.of_reaches {x y : α} (h : Grounded succ x) (hxy : ReflTransGen (Edge succ) x y) :
    Grounded succ y := by
  induction hxy with
  | refl => exact h
  | tail _ hyz ih => exact ih.inv hyz

def Explored (st : Search α) : Prop := ∀ x ∈ st.visited, x ∉ st.inStack → Grounded succ x

/-- What a search that found nothing from `x` did. -/
structure Found (x : α) (st st' : Search α) : Prop where
  explored : Explored succ st'
  inStack : st'.inStack = st.inStack
  grounded : Grounded succ x

omit [DecidableEq α] in
theorem searchEach_false {f : α → Search α → Option (Bool × Search α)}
    (hf : ∀ x st st', Explored succ st → f x st = some (false, st') → Found succ x st st') :
    ∀ (xs : List α) (st st' : Search α), Explored succ st → searchEach f xs st = some (false, st') →
      Explored succ st' ∧ st'.inStack = st.inStack ∧ ∀ x ∈ xs, Grounded succ x := by
  intro xs
  induction xs with
  | nil =>
    intro st st' hst h
    obtain rfl : st = st' := congrArg Prod.snd (Option.some.inj h)
    exact ⟨hst, rfl, by simp⟩
  | cons x xs ih =>
    intro st st' hst h
    unfold searchEach at h
    split at h
    · cases h
    · cases h
    · rename_i st₁ h₁
      have hx := hf x st st₁ hst h₁
      obtain ⟨he, hs, hxs⟩ := ih st₁ st' hx.explored h
      refine ⟨he, hs.trans hx.inStack, ?_⟩
      rintro y (_ | ⟨_, hy⟩)
      · exact hx.grounded
      · exact hxs y hy

theorem dfs_false : ∀ (n : Nat) (x : α) (st st' : Search α), Explored succ st →
    dfs succ n x st = some (false, st') → Found succ x st st' := by
  intro n
  induction n with
  | zero => intro x st st' _ h; cases h
  | succ n ih =>
    intro x st st' hst h
    unfold dfs at h
    split at h
    · cases h
    · rename_i hstack
      split at h
      · rename_i hvisited
        obtain rfl : st = st' := congrArg Prod.snd (Option.some.inj h)
        exact ⟨hst, rfl, hst x hvisited hstack⟩
      · split at h
        · cases h
        · cases h
        · rename_i st₁ h₁
          obtain rfl := (congrArg Prod.snd (Option.some.inj h)).symm
          have hopen : Explored succ ⟨x :: st.visited, x :: st.inStack⟩ := by
            rintro y (_ | ⟨_, hy⟩) hns
            · exact absurd (List.mem_cons_self ..) hns
            · exact hst y hy fun hm => hns (List.mem_cons_of_mem _ hm)
          obtain ⟨he, hs, hsucc⟩ := searchEach_false succ ih _ _ _ hopen h₁
          have hx : Grounded succ x := Acc.intro _ fun y hy => hsucc y hy
          have herase : st₁.inStack.erase x = st.inStack := by rw [hs, List.erase_cons_head]
          refine ⟨?_, herase, hx⟩
          intro y hy hns
          rcases eq_or_ne y x with rfl | hne
          · exact hx
          · refine he y hy ?_
            rw [hs]
            intro hm
            rcases List.mem_cons.mp hm with h | h
            · exact hne h
            · exact hns (show y ∈ st₁.inStack.erase x by rw [herase]; exact h)

/-- **No cycle found is no cycle**: a vertex reachable from `nodes` is not on a cycle. -/
theorem acyclic_of_hasCycle_eq_false {depth : Nat} {nodes : List α} (h : hasCycle depth succ nodes = some false) :
    ∀ n ∈ nodes, ∀ x, ReflTransGen (Edge succ) n x → ¬ TransGen (Edge succ) x x := by
  have hempty : Explored succ (⟨[], []⟩ : Search α) := by intro x hx; cases hx
  obtain ⟨st', hfalse⟩ := hasCycle_eq_some.mp h
  obtain ⟨-, -, hall⟩ := searchEach_false succ (dfs_false succ depth) _ _ _ hempty hfalse
  intro n hn x hx
  exact ((hall n hn).of_reaches succ hx).not_cycle

/-- When every successor is one of `nodes`, no cycle found means an acyclic graph. -/
theorem acyclic_of_closed {depth : Nat} {nodes : List α} (h : hasCycle depth succ nodes = some false)
    (hclosed : ∀ x, ∀ y ∈ succ x, y ∈ nodes) : Acyclic (Edge succ) := by
  intro x hx
  obtain ⟨y, -, hyx⟩ := TransGen.tail'_iff.mp hx
  exact acyclic_of_hasCycle_eq_false succ h x (hclosed y x hyx) x .refl hx

end Sound

/-! ## The answer `true` -/

section Complete
variable (succ : α → List α)

/-- What a search from some vertices reports: a cycle they reach when it answers `true`, the old stack otherwise. -/
structure Report (xs : List α) (st : Search α) (out : Bool × Search α) : Prop where
  cycle : out.1 = true → ∃ x ∈ xs, ∃ y, ReflTransGen (Edge succ) x y ∧ TransGen (Edge succ) y y
  inStack : out.1 = false → out.2.inStack = st.inStack

omit [DecidableEq α] in
theorem searchEach_report {f : α → Search α → Option (Bool × Search α)} (xs : List α) :
    ∀ (st : Search α) {out : Bool × Search α}, searchEach f xs st = some out →
      (∀ x ∈ xs, ∀ (st₁ : Search α) (out₁ : Bool × Search α), st₁.inStack = st.inStack → f x st₁ = some out₁ →
        Report succ [x] st₁ out₁) →
      Report succ xs st out := by
  induction xs with
  | nil =>
    intro st out h _
    obtain rfl := Option.some.inj h
    exact ⟨nofun, fun _ => rfl⟩
  | cons x xs ih =>
    intro st out h hf
    unfold searchEach at h
    split at h
    · cases h
    · rename_i st₁ h₁
      obtain rfl := Option.some.inj h
      obtain ⟨x', hx', y, hy⟩ := (hf x List.mem_cons_self st _ rfl h₁).cycle rfl
      obtain rfl := List.mem_singleton.mp hx'
      exact ⟨fun _ => ⟨x', List.mem_cons_self, y, hy⟩, nofun⟩
    · rename_i st₁ h₁
      have hstack := (hf x List.mem_cons_self st _ rfl h₁).inStack rfl
      have hrest := ih st₁ h fun y hy st₂ out₂ hs₂ => hf y (List.mem_cons_of_mem _ hy) st₂ out₂ (hs₂.trans hstack)
      refine ⟨fun htrue => ?_, fun hfalse => (hrest.inStack hfalse).trans hstack⟩
      obtain ⟨y, hy, hcycle⟩ := hrest.cycle htrue
      exact ⟨y, List.mem_cons_of_mem x hy, hcycle⟩

theorem dfs_report : ∀ (n : Nat) (x : α) (st : Search α) (out : Bool × Search α), dfs succ n x st = some out →
    (∀ y ∈ st.inStack, TransGen (Edge succ) y x) → Report succ [x] st out := by
  intro n
  induction n with
  | zero => intro x st out h; cases h
  | succ n ih =>
    intro x st out h hpath
    unfold dfs at h
    split at h
    · rename_i hstack
      obtain rfl := Option.some.inj h
      exact ⟨fun _ => ⟨x, List.mem_cons_self, x, .refl, hpath x hstack⟩, nofun⟩
    · split at h
      · obtain rfl := Option.some.inj h
        exact ⟨nofun, fun _ => rfl⟩
      · have hsub : ∀ {out₁}, searchEach (dfs succ n) (succ x) ⟨x :: st.visited, x :: st.inStack⟩ = some out₁ →
            Report succ (succ x) ⟨x :: st.visited, x :: st.inStack⟩ out₁ := fun hsearch =>
          searchEach_report succ (succ x) _ hsearch fun y hy st₁ out₁ hs₁ hdfs => by
            refine ih y st₁ out₁ hdfs fun z hz => ?_
            rw [hs₁] at hz
            rcases List.mem_cons.mp hz with rfl | hz
            · exact .single hy
            · exact (hpath z hz).tail hy
        split at h
        · cases h
        · rename_i st₁ h₁
          obtain rfl := Option.some.inj h
          obtain ⟨y, hy, z, hreach, hcycle⟩ := (hsub h₁).cycle rfl
          exact ⟨fun _ => ⟨x, List.mem_cons_self, z, .head hy hreach, hcycle⟩, nofun⟩
        · rename_i st₁ h₁
          obtain rfl := Option.some.inj h
          refine ⟨nofun, fun _ => ?_⟩
          show st₁.inStack.erase x = st.inStack
          rw [(hsub h₁).inStack rfl, List.erase_cons_head]

/-- **A cycle found is a cycle** that is reached. -/
theorem exists_cycle_of_hasCycle {depth : Nat} {nodes : List α} (h : hasCycle depth succ nodes = some true) :
    ∃ x ∈ nodes, ∃ y, ReflTransGen (Edge succ) x y ∧ TransGen (Edge succ) y y := by
  obtain ⟨st', htrue⟩ := hasCycle_eq_some.mp h
  exact (searchEach_report succ nodes _ htrue fun x _ st₁ out₁ hs₁ hdfs =>
    dfs_report succ depth x st₁ out₁ hdfs (by rw [hs₁]; simp)).cycle rfl

end Complete

/-! ## Searches that are cut off -/

section Depth
variable {succ : α → List α} {f g : α → Search α → Option (Bool × Search α)}

omit [DecidableEq α] in
theorem searchEach_ne_none (xs : List α) (hf : ∀ x ∈ xs, ∀ st, f x st ≠ none) : ∀ st, searchEach f xs st ≠ none := by
  induction xs with
  | nil => exact fun st => Option.some_ne_none _
  | cons x xs ih =>
    intro st
    unfold searchEach
    split
    · rename_i h
      exact absurd h (hf x List.mem_cons_self st)
    · exact Option.some_ne_none _
    · exact ih (fun y hy => hf y (List.mem_cons_of_mem x hy)) _

/-- A path from `x` has so many vertices at most. -/
def Shallow (succ : α → List α) (depth : Nat) (x : α) : Prop :=
  ∀ path, List.IsChain (Edge succ) (x :: path) → (x :: path).length ≤ depth

omit [DecidableEq α] in
theorem shallow_of_rank (rank : α → ℕ) (h : ∀ x y, Edge succ x y → rank y < rank x) (x : α) :
    Shallow succ (rank x + 1) x := by
  intro path hpath
  induction path generalizing x with
  | nil => exact Nat.le_add_left ..
  | cons y path ih =>
    obtain ⟨hxy, hpath⟩ := List.isChain_cons_cons.mp hpath
    have hlength := ih y hpath
    have hless := h x y hxy
    rw [List.length_cons]
    omega

/-- **A search is not cut off** where no path is deeper. -/
theorem dfs_ne_none : ∀ (n : Nat) (x : α) (st : Search α), Shallow succ n x → dfs succ n x st ≠ none := by
  intro n
  induction n with
  | zero => exact fun x st h => absurd (h [] (List.isChain_singleton x)) (by simp)
  | succ n ih =>
    intro x st h
    have hnext : ∀ y ∈ succ x, ∀ st₁, dfs succ n y st₁ ≠ none := fun y hy st₁ => ih y st₁ fun path hpath =>
      Nat.le_of_succ_le_succ (h (y :: path) (List.isChain_cons_cons.mpr ⟨hy, hpath⟩))
    unfold dfs
    split
    · exact Option.some_ne_none _
    · split
      · exact Option.some_ne_none _
      · split
        · rename_i hnone
          exact absurd hnone (searchEach_ne_none _ hnext _)
        · exact Option.some_ne_none _
        · exact Option.some_ne_none _

theorem hasCycle_ne_none {depth : Nat} {nodes : List α} (h : ∀ x ∈ nodes, Shallow succ depth x) :
    hasCycle depth succ nodes ≠ none := by
  rw [hasCycle, Ne, Option.map_eq_none_iff]
  exact searchEach_ne_none nodes (fun x hx st => dfs_ne_none depth x st (h x hx)) _

/-- A search that goes along a path of new vertices is cut off if the path is deeper. -/
theorem dfs_eq_none : ∀ (n : Nat) (x : α) (path : List α) (st : Search α), n ≤ path.length →
    List.IsChain (fun a b => (succ a).head? = some b) (x :: path) → (x :: path).Nodup →
    (∀ y ∈ x :: path, y ∉ st.visited ∧ y ∉ st.inStack) → dfs succ n x st = none := by
  intro n
  induction n with
  | zero => exact fun x path st _ _ _ _ => rfl
  | succ n ih =>
    intro x path st hlength hchain hnodup hnew
    obtain _ | ⟨y, path⟩ := path
    · cases hlength
    · obtain ⟨hxy, hchain⟩ := List.isChain_cons_cons.mp hchain
      obtain ⟨ys, hsucc⟩ := List.head?_eq_some_iff.mp hxy
      obtain ⟨hx, hnodup⟩ := List.nodup_cons.mp hnodup
      have hcut : dfs succ n y ⟨x :: st.visited, x :: st.inStack⟩ = none := by
        refine ih y path _ (Nat.le_of_succ_le_succ hlength) hchain hnodup fun z hz => ?_
        have hne : z ≠ x := fun heq => hx (heq ▸ hz)
        have hz' := hnew z (List.mem_cons_of_mem x hz)
        exact ⟨List.not_mem_cons_of_ne_of_not_mem hne hz'.1, List.not_mem_cons_of_ne_of_not_mem hne hz'.2⟩
      obtain ⟨hvisited, hstack⟩ := hnew x List.mem_cons_self
      rw [dfs, if_neg hstack, if_neg hvisited, hsucc, searchEach, hcut]

theorem hasCycle_eq_none {depth : Nat} {x : α} {path nodes : List α} (hlength : depth ≤ path.length)
    (hchain : List.IsChain (fun a b => (succ a).head? = some b) (x :: path)) (hnodup : (x :: path).Nodup) :
    hasCycle depth succ (x :: nodes) = none := by
  have hcut : dfs succ depth x ⟨[], []⟩ = none := dfs_eq_none depth x path _ hlength hchain hnodup (by simp)
  rw [hasCycle, searchEach, hcut]
  rfl

/-! ### The order a graph is gone through in -/

/-- The vertices of a path first, in its order. -/
def along (path : List α) (xs : List α) : List α := xs.mergeSort fun a b => path.idxOf a ≤ path.idxOf b

theorem along_perm (path xs : List α) : (along path xs).Perm xs := List.mergeSort_perm xs _

theorem head?_along {path xs : List α} {y : α} (hpath : y ∈ path) (hy : y ∈ xs)
    (hfirst : ∀ z ∈ xs, path.idxOf y ≤ path.idxOf z) : (along path xs).head? = some y := by
  have hsorted : (along path xs).Pairwise fun a b => path.idxOf a ≤ path.idxOf b := by
    have hpairwise := @List.pairwise_mergeSort _ (fun a b => decide (path.idxOf a ≤ path.idxOf b))
      (by simpa using fun a b c => le_trans) (by simpa using fun a b => le_total _ _) xs
    simpa [along] using hpairwise
  cases hzs : along path xs with
  | nil => exact absurd ((along_perm path xs).mem_iff.mpr hy) (by simp [hzs])
  | cons z zs =>
    have hz : z ∈ xs := (along_perm path xs).mem_iff.mp (by simp [hzs])
    have hle : path.idxOf z ≤ path.idxOf y := by
      have hmem : y ∈ z :: zs := hzs ▸ (along_perm path xs).mem_iff.mpr hy
      rw [hzs] at hsorted
      obtain rfl | hin := List.mem_cons.mp hmem
      · exact le_rfl
      · exact (List.pairwise_cons.mp hsorted).1 y hin
    have hsame := le_antisymm (hfirst z hz) hle
    rw [List.head?_cons, List.idxOf_inj hpath |>.mp hsame]

omit [DecidableEq α] in
theorem pairwise_of_path {path : List α} (h : List.IsChain (Edge succ) path) : path.Pairwise (TransGen (Edge succ)) :=
  (h.imp fun _ _ => .single).pairwise

/-- Gone through along a path, an acyclic graph has the next vertex of the path first. -/
theorem isChain_along (hacyclic : Acyclic (Edge succ)) {path : List α} (h : List.IsChain (Edge succ) path) :
    List.IsChain (fun a b => (along path (succ a)).head? = some b) path ∧ path.Nodup := by
  have hpairwise := pairwise_of_path h
  have hnodup : path.Nodup := by
    refine hpairwise.imp fun {a b} hab heq => ?_
    subst heq
    exact hacyclic a hab
  refine ⟨List.isChain_iff_getElem.mpr fun i hi => ?_, hnodup⟩
  have hedge : Edge succ path[i] path[i + 1] := List.isChain_iff_getElem.mp h i hi
  refine head?_along (List.getElem_mem hi) hedge fun z hz => ?_
  rw [hnodup.idxOf_getElem]
  by_contra hbefore
  have hzi : path.idxOf z ≤ i := by omega
  have hlt : path.idxOf z < path.length := by omega
  -- `z` is on the path, not behind `path[i]`, so the edge back to it closes a cycle
  have hget : path[path.idxOf z] = z := List.getElem_idxOf hlt
  rcases hzi.lt_or_eq with hless | heq
  · have hback := List.pairwise_iff_getElem.mp hpairwise _ _ hlt (by omega) hless
    rw [hget] at hback
    exact hacyclic z (hback.tail hz)
  · have hself : path[i] = z := by simp [← heq]
    exact hacyclic z (.single (by rw [Edge]; rwa [hself] at hz))

end Depth

/-! ## Depths that are enough -/

section Ends
variable {succ : α → List α} {f g : α → Search α → Option (Bool × Search α)}

omit [DecidableEq α] in
theorem searchEach_mono {out : Bool × Search α} (hfg : ∀ x st out, f x st = some out → g x st = some out) (xs : List α) :
    ∀ st, searchEach f xs st = some out → searchEach g xs st = some out := by
  induction xs with
  | nil => exact fun st h => h
  | cons x xs ih =>
    intro st h
    unfold searchEach at h ⊢
    split at h
    · cases h
    · rename_i h₁
      rw [hfg x st _ h₁]
      exact h
    · rename_i h₁
      rw [hfg x st _ h₁]
      exact ih _ h

theorem dfs_succ : ∀ (n : Nat) (x : α) (st : Search α) (out : Bool × Search α), dfs succ n x st = some out →
    dfs succ (n + 1) x st = some out := by
  intro n
  induction n with
  | zero => intro x st out h; cases h
  | succ n ih =>
    intro x st out h
    rw [dfs] at h ⊢
    by_cases hstack : x ∈ st.inStack
    · rwa [if_pos hstack] at h ⊢
    · rw [if_neg hstack] at h ⊢
      by_cases hvisited : x ∈ st.visited
      · rwa [if_pos hvisited] at h ⊢
      · rw [if_neg hvisited] at h ⊢
        cases hsearch : searchEach (dfs succ n) (succ x) ⟨x :: st.visited, x :: st.inStack⟩ with
        | none =>
          rw [hsearch] at h
          cases h
        | some found =>
          rw [hsearch] at h
          rw [searchEach_mono ih _ _ hsearch]
          exact h

theorem hasCycle_mono {n m : Nat} (hnm : n ≤ m) {nodes : List α} {found : Bool} (h : hasCycle n succ nodes = some found) :
    hasCycle m succ nodes = some found := by
  induction hnm with
  | refl => exact h
  | step _ ih =>
    obtain ⟨st', hsearch⟩ := hasCycle_eq_some.mp ih
    exact hasCycle_eq_some.mpr ⟨st', searchEach_mono (dfs_succ _) _ _ hsearch⟩

variable (verts : List α)

def unseen (st : Search α) : Nat := (verts.filter (· ∉ st.visited)).length

theorem unseen_cons_lt {x : α} {st : Search α} {stack : List α} (hx : x ∈ verts) (hv : x ∉ st.visited) :
    unseen verts ⟨x :: st.visited, stack⟩ < unseen verts st := by
  have hsub : (verts.filter (· ∉ x :: st.visited)).Sublist (verts.filter (· ∉ st.visited)) := by
    apply List.monotone_filter_right
    intro y hy
    simp only [List.mem_cons, not_or, decide_eq_true_eq] at hy ⊢
    exact hy.2
  refine Nat.lt_of_le_of_ne hsub.length_le fun he => ?_
  have heq := hsub.eq_of_length he
  have hmem : x ∈ verts.filter (· ∉ st.visited) := List.mem_filter.mpr ⟨hx, by simpa using hv⟩
  rw [← heq] at hmem
  simp at hmem

theorem unseen_le {st st' : Search α} (h : st.visited ⊆ st'.visited) : unseen verts st' ≤ unseen verts st := by
  apply List.Sublist.length_le
  apply List.monotone_filter_right
  intro y hy
  simp only [decide_eq_true_eq] at hy ⊢
  exact fun hm => hy (h hm)

/-- A search ends, and forgets no vertex. -/
def EndsFrom (out : Option (Bool × Search α)) (st : Search α) : Prop :=
  ∃ found st', out = some (found, st') ∧ st.visited ⊆ st'.visited

theorem searchEach_ends {k : Nat} (xs : List α)
    (hf : ∀ x ∈ xs, ∀ st : Search α, unseen verts st < k → EndsFrom (f x st) st) :
    ∀ st : Search α, unseen verts st < k → EndsFrom (searchEach f xs st) st := by
  induction xs with
  | nil => exact fun st _ => ⟨false, st, rfl, List.Subset.refl _⟩
  | cons x xs ih =>
    intro st hk
    obtain ⟨found, st₁, h₁, hvisited⟩ := hf x List.mem_cons_self st hk
    rw [searchEach, h₁]
    cases found with
    | true => exact ⟨true, st₁, rfl, hvisited⟩
    | false =>
      obtain ⟨found, st₂, h₂, hmore⟩ :=
        ih (fun y hy => hf y (List.mem_cons_of_mem x hy)) st₁ (Nat.lt_of_le_of_lt (unseen_le verts hvisited) hk)
      exact ⟨found, st₂, h₂, List.Subset.trans hvisited hmore⟩

/-- A search sees a new vertex at each level, so it ends by the number of vertices it has not seen. -/
theorem dfs_ends (hclosed : ∀ x ∈ verts, ∀ y ∈ succ x, y ∈ verts) : ∀ (n : Nat) (x : α) (st : Search α),
    x ∈ verts → unseen verts st < n → EndsFrom (dfs succ n x st) st := by
  intro n
  induction n with
  | zero => exact fun x st _ hn => absurd hn (Nat.not_lt_zero _)
  | succ n ih =>
    intro x st hx hn
    rw [dfs]
    split
    · exact ⟨true, st, rfl, List.Subset.refl _⟩
    · split
      · exact ⟨false, st, rfl, List.Subset.refl _⟩
      · rename_i hvisited
        have hlt : unseen verts ⟨x :: st.visited, x :: st.inStack⟩ < unseen verts st :=
          unseen_cons_lt verts hx hvisited
        obtain ⟨found, st₁, h₁, hmore⟩ := searchEach_ends verts (succ x)
          (fun y hy st₁ hk₁ => ih y st₁ (hclosed x hx y hy) hk₁) ⟨x :: st.visited, x :: st.inStack⟩ (by omega)
        have hkept : st.visited ⊆ st₁.visited := List.Subset.trans (List.subset_cons_self ..) hmore
        rw [h₁]
        cases found with
        | true => exact ⟨true, _, rfl, hkept⟩
        | false => exact ⟨false, _, rfl, hkept⟩

/-- **The search ends** within a depth of one more than the number of vertices. -/
theorem hasCycle_ends {nodes : List α} (hnodes : nodes ⊆ verts) (hclosed : ∀ x ∈ verts, ∀ y ∈ succ x, y ∈ verts) :
    ∃ found, ∀ n, verts.length < n → hasCycle n succ nodes = some found := by
  have hk : unseen verts (⟨[], []⟩ : Search α) < verts.length + 1 :=
    Nat.lt_succ_of_le (List.length_filter_le _ _)
  obtain ⟨found, st', hsearch, -⟩ := searchEach_ends verts nodes
    (fun x hx st hst => dfs_ends verts hclosed (verts.length + 1) x st (hnodes hx) hst) ⟨[], []⟩ hk
  exact ⟨found, fun n hn => hasCycle_mono hn (hasCycle_eq_some.mpr ⟨st', hsearch⟩)⟩

end Ends

end Cycle

end Lib
