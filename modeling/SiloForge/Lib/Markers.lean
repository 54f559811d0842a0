import Mathlib.Data.List.Infix

/-!
# The first place of a marker

* `splitFirst` : a text split at the first place of a marker;
* `splitFirst_eq_some` : it is the place no other one is before;
* `splitFirst_append`, `splitFirst_of_append` : what follows does not matter.
-/

universe u

namespace Lib

variable {α : Type u} [DecidableEq α]

/-- The text before the first place of a marker, and behind it. -/
def splitFirst (marker : List α) : List α → Option (List α × List α)
  | [] => if marker = [] then some ([], []) else none
  | a :: as =>
    if marker <+: a :: as then some ([], (a :: as).drop marker.length)
    else (splitFirst marker as).map fun parts => (a :: parts.1, parts.2)

theorem splitFirst_nil (marker : List α) : splitFirst marker [] = if marker = [] then some ([], []) else none := rfl

theorem splitFirst_cons (marker : List α) (a : α) (as : List α) : splitFirst marker (a :: as) =
    if marker <+: a :: as then some ([], (a :: as).drop marker.length)
    else (splitFirst marker as).map fun parts => (a :: parts.1, parts.2) := rfl

variable {marker as before behind : List α}

theorem first_of_splitFirst (h : splitFirst marker as = some (before, behind)) : as = before ++ (marker ++ behind) ∧
    ∀ before' behind', as = before' ++ (marker ++ behind') → before.length ≤ before'.length := by
  induction as generalizing before with
  | nil =>
    rw [splitFirst_nil] at h
    split at h
    · rename_i hmarker
      obtain ⟨rfl, rfl⟩ := Prod.mk.inj (Option.some.inj h)
      exact ⟨by rw [hmarker]; rfl, fun _ _ _ => Nat.zero_le _⟩
    · cases h
  | cons a as ih =>
    rw [splitFirst_cons] at h
    split at h
    · rename_i hfront
      obtain ⟨rfl, rfl⟩ := Prod.mk.inj (Option.some.inj h)
      exact ⟨(List.prefix_iff_eq_append.mp hfront).symm, fun _ _ _ => Nat.zero_le _⟩
    · rename_i hfront
      obtain ⟨⟨before, behind⟩, hrest, heq⟩ := Option.map_eq_some_iff.mp h
      obtain ⟨rfl, rfl⟩ := Prod.mk.inj heq
      obtain ⟨rfl, hfirst⟩ := ih hrest
      refine ⟨rfl, fun before' behind' hother => ?_⟩
      cases before' with
      | nil => exact absurd ⟨behind', hother.symm⟩ hfront
      | cons b before' => exact Nat.succ_le_succ (hfirst before' behind' (List.cons.inj hother).2)

theorem splitFirst_ne_none (h : as = before ++ (marker ++ behind)) : splitFirst marker as ≠ none := by
  induction as generalizing before with
  | nil =>
    have hmarker : marker = [] := (List.append_eq_nil_iff.mp (List.append_eq_nil_iff.mp h.symm).2).1
    rw [splitFirst_nil, if_pos hmarker]
    exact nofun
  | cons a as ih =>
    rw [splitFirst_cons]
    split
    · exact nofun
    · rename_i hfront
      cases before with
      | nil => exact absurd ⟨behind, h.symm⟩ hfront
      | cons b before =>
        intro hnone
        exact ih (List.cons.inj h).2 (Option.map_eq_none_iff.mp hnone)

theorem splitFirst_eq_some : splitFirst marker as = some (before, behind) ↔ as = before ++ (marker ++ behind) ∧
    ∀ before' behind', as = before' ++ (marker ++ behind') → before.length ≤ before'.length := by
  refine ⟨first_of_splitFirst, fun ⟨h, hfirst⟩ => ?_⟩
  cases hsplit : splitFirst marker as with
  | none => exact absurd hsplit (splitFirst_ne_none h)
  | some parts =>
    obtain ⟨hparts, hfirst'⟩ := first_of_splitFirst hsplit
    have hlength : before.length = parts.1.length :=
      Nat.le_antisymm (hfirst _ _ hparts) (hfirst' _ _ h)
    obtain ⟨rfl, hrest⟩ := List.append_inj (h.symm.trans hparts) hlength
    rw [List.append_cancel_left hrest]

theorem splitFirst_append (h : splitFirst marker as = some (before, behind)) (rest : List α) :
    splitFirst marker (as ++ rest) = some (before, behind ++ rest) := by
  obtain ⟨rfl, hfirst⟩ := first_of_splitFirst h
  refine splitFirst_eq_some.mpr ⟨by rw [List.append_assoc, List.append_assoc], fun before' behind' hother => ?_⟩
  by_contra hshorter
  have hfits : (before' ++ marker).length ≤ (before ++ (marker ++ behind)).length := by
    simp only [List.length_append]
    omega
  have hplace : before' ++ marker <+: before ++ (marker ++ behind) := by
    refine List.prefix_of_prefix_length_le ?_ (List.prefix_append _ rest) hfits
    rw [hother, ← List.append_assoc]
    exact List.prefix_append _ _
  obtain ⟨behind'', hbehind⟩ := hplace
  exact hshorter (hfirst before' behind'' (by rw [← hbehind, List.append_assoc]))

end Lib
