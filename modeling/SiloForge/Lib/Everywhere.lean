import Mathlib.Order.WellFounded

/-!
# Properties that hold everywhere below a place

`Everywhere step P x` : `P` holds at `x` and at every place that steps lead to from there.

* `everywhere_iff` : one step of the walk;
* `Everywhere.mono`, `everywhere_and` : weaker properties, and several at once;
* `everywhere_iff_cut` : a walk that leaves out some steps holds the same once every place answers for what lies
  behind them.
-/

universe u

namespace Lib

/-- The property holds at a place and everywhere below it. -/
inductive Everywhere {α : Type u} (step : α → α → Prop) (P : α → Prop) : α → Prop
  | intro {x : α} (here : P x) (below : ∀ y, step x y → Everywhere step P y) : Everywhere step P x

section Walks
variable {α : Type u} {step step' : α → α → Prop} {P Q : α → Prop} {x y : α}

theorem Everywhere.here (h : Everywhere step P x) : P x := by
  cases h with
  | intro here _ => exact here

theorem Everywhere.next (h : Everywhere step P x) (hxy : step x y) : Everywhere step P y := by
  cases h with
  | intro _ below => exact below y hxy

theorem everywhere_iff : Everywhere step P x ↔ P x ∧ ∀ y, step x y → Everywhere step P y :=
  ⟨fun h => ⟨h.here, fun _ => h.next⟩, fun h => .intro h.1 h.2⟩

theorem Everywhere.mono (hPQ : ∀ x, P x → Q x) (h : Everywhere step P x) : Everywhere step Q x := by
  induction h with
  | intro here _ ih => exact .intro (hPQ _ here) ih

theorem everywhere_congr (hPQ : ∀ x, P x ↔ Q x) : Everywhere step P x ↔ Everywhere step Q x :=
  ⟨.mono fun x => (hPQ x).mp, .mono fun x => (hPQ x).mpr⟩

theorem everywhere_and :
    Everywhere step (fun x => P x ∧ Q x) x ↔ Everywhere step P x ∧ Everywhere step Q x := by
  constructor
  · intro h
    exact ⟨h.mono fun _ h => h.1, h.mono fun _ h => h.2⟩
  · rintro ⟨hP, hQ⟩
    induction hP with
    | intro here _ ih => exact .intro ⟨here, hQ.here⟩ fun y hxy => ih y hxy (hQ.next hxy)

/-- **A walk with some steps left out**: what lies behind those steps is asked for at the places they start from. -/
theorem everywhere_iff_cut (hwf : WellFounded fun y x => step x y) (hsub : ∀ x y, step' x y → step x y) (x : α) :
    Everywhere step P x ↔
      Everywhere step' (fun x => P x ∧ ∀ y, step x y → ¬ step' x y → Everywhere step P y) x := by
  induction x using hwf.induction with
  | _ x ih =>
    rw [everywhere_iff, everywhere_iff]
    constructor
    · rintro ⟨here, below⟩
      exact ⟨⟨here, fun y hxy _ => below y hxy⟩, fun y hxy => (ih y (hsub x y hxy)).mp (below y (hsub x y hxy))⟩
    · rintro ⟨⟨here, behind⟩, below⟩
      refine ⟨here, fun y hxy => ?_⟩
      by_cases hstep : step' x y
      · exact (ih y hxy).mpr (below y hstep)
      · exact behind y hxy hstep

end Walks

end Lib
