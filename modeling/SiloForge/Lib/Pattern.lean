import Mathlib.Data.List.Infix
import Mathlib.Data.List.TakeWhile

/-!
# Patterns that backtrack

A `Pattern` reads the front of a text in every way it can, in the order in which it is tried: alternatives from left to
right, repetitions the longest first. Groups keep what they read.

* `reads` : what a pattern reads, as its groups and the rest of the text;
* `matches?`, `search?` : the groups of the first way, at the front or at the first place that has one;
* `Bounded` : a pattern does not read past the end of a text into what follows it.
-/

universe u

namespace Lib

inductive Pattern (α : Type u) where
  | one (p : α → Bool)
  | many (p : α → Bool)
  | here (p : List α → Bool)
  | seq (first second : Pattern α)
  | alt (first second : Pattern α)
  | group (name : String) (inner : Pattern α)

namespace Pattern
variable {α : Type u}

/-- What groups have read. -/
abbrev Groups (α : Type u) := List (String × List α)

/-- What a pattern reads at the front of a text, with the rest, the first way first. -/
def reads : Pattern α → List α → List (Groups α × List α)
  | .one _, [] => []
  | .one p, a :: as => if p a then [([], as)] else []
  | .many p, as => (List.range ((as.takeWhile p).length + 1)).reverse.map fun n => ([], as.drop n)
  | .here p, as => if p as then [([], as)] else []
  | .seq first second, as =>
    (first.reads as).flatMap fun r => (second.reads r.2).map fun r' => (r.1 ++ r'.1, r'.2)
  | .alt first second, as => first.reads as ++ second.reads as
  | .group name inner, as =>
    (inner.reads as).map fun r => ((name, as.take (as.length - r.2.length)) :: r.1, r.2)

theorem reads_one_nil (p : α → Bool) : (one p).reads [] = [] := rfl

theorem reads_one_cons (p : α → Bool) (a : α) (as : List α) :
    (one p).reads (a :: as) = if p a then [([], as)] else [] := rfl

theorem reads_many (p : α → Bool) (as : List α) :
    (many p).reads as = (List.range ((as.takeWhile p).length + 1)).reverse.map fun n => ([], as.drop n) := rfl

theorem reads_here (p : List α → Bool) (as : List α) : (here p).reads as = if p as then [([], as)] else [] := rfl

theorem reads_seq (first second : Pattern α) (as : List α) : (seq first second).reads as =
    (first.reads as).flatMap fun r => (second.reads r.2).map fun r' => (r.1 ++ r'.1, r'.2) := rfl

theorem reads_alt (first second : Pattern α) (as : List α) :
    (alt first second).reads as = first.reads as ++ second.reads as := rfl

theorem reads_group (name : String) (inner : Pattern α) (as : List α) : (group name inner).reads as =
    (inner.reads as).map fun r => ((name, as.take (as.length - r.2.length)) :: r.1, r.2) := rfl

/-- `re.match`: the groups of the first way at the front. -/
def matches? (pattern : Pattern α) (as : List α) : Option (Groups α) := (pattern.reads as).head?.map (·.1)

/-- `re.search`: the groups of the first way at the first place. -/
def search? (pattern : Pattern α) (as : List α) : Option (Groups α) := as.tails.findSome? pattern.matches?

variable {p : α → Bool} {first second inner : Pattern α} {as rest : List α} {groups : Groups α}

theorem mem_reads_one : (groups, rest) ∈ (one p).reads as ↔ groups = [] ∧ ∃ a, as = a :: rest ∧ p a = true := by
  cases as with
  | nil => simp [reads_one_nil]
  | cons a as =>
    by_cases h : p a = true
    · simp only [reads_one_cons, h, if_true, List.mem_singleton, Prod.mk.injEq, List.cons.injEq]
      exact ⟨fun ⟨hg, hr⟩ => ⟨hg, a, ⟨rfl, hr.symm⟩, h⟩, fun ⟨hg, b, ⟨_, hr⟩, _⟩ => ⟨hg, hr.symm⟩⟩
    · simp only [reads_one_cons, h, Bool.false_eq_true, if_false, List.not_mem_nil, false_iff]
      rintro ⟨-, b, hb, hpb⟩
      exact h ((List.cons.inj hb).1 ▸ hpb)

theorem mem_reads_many : (groups, rest) ∈ (many p).reads as ↔
    groups = [] ∧ ∃ used, as = used ++ rest ∧ ∀ a ∈ used, p a = true := by
  simp only [reads_many, List.mem_map, List.mem_reverse, List.mem_range, Prod.mk.injEq]
  constructor
  · rintro ⟨n, hn, hg, rfl⟩
    refine ⟨hg.symm, as.take n, (List.take_append_drop n as).symm, fun a ha => ?_⟩
    have hshorter : as.take n <+: as.takeWhile p := List.prefix_of_prefix_length_le (List.take_prefix n as)
      (List.takeWhile_prefix p) (by rw [List.length_take]; omega)
    exact List.mem_takeWhile_imp (hshorter.subset ha)
  · rintro ⟨hg, used, rfl, hused⟩
    refine ⟨used.length, ?_, hg.symm, by simp⟩
    rw [List.takeWhile_append_of_pos hused, List.length_append]
    omega

theorem mem_reads_here {q : List α → Bool} : (groups, rest) ∈ (here q).reads as ↔
    groups = [] ∧ rest = as ∧ q as = true := by
  by_cases h : q as = true <;> simp [reads_here, h]

theorem mem_reads_seq : (groups, rest) ∈ (seq first second).reads as ↔ ∃ groups₁ between groups₂,
    (groups₁, between) ∈ first.reads as ∧ (groups₂, rest) ∈ second.reads between ∧ groups = groups₁ ++ groups₂ := by
  simp only [reads_seq, List.mem_flatMap, List.mem_map, Prod.exists, Prod.mk.injEq]
  constructor
  · rintro ⟨groups₁, between, h₁, groups₂, rest', h₂, rfl, rfl⟩
    exact ⟨groups₁, between, groups₂, h₁, h₂, rfl⟩
  · rintro ⟨groups₁, between, groups₂, h₁, h₂, rfl⟩
    exact ⟨groups₁, between, h₁, groups₂, rest, h₂, rfl, rfl⟩

theorem mem_reads_alt : (groups, rest) ∈ (alt first second).reads as ↔
    (groups, rest) ∈ first.reads as ∨ (groups, rest) ∈ second.reads as :=
  List.mem_append

variable {pattern : Pattern α}

theorem suffix_of_mem_reads (h : (groups, rest) ∈ pattern.reads as) : rest <:+ as := by
  induction pattern generalizing as groups rest with
  | one p =>
    obtain ⟨-, a, rfl, -⟩ := mem_reads_one.mp h
    exact List.suffix_cons a rest
  | many p =>
    obtain ⟨-, used, rfl, -⟩ := mem_reads_many.mp h
    exact List.suffix_append used rest
  | here p =>
    obtain ⟨-, rfl, -⟩ := mem_reads_here.mp h
    exact List.suffix_refl _
  | seq first second ih₁ ih₂ =>
    obtain ⟨_, between, _, h₁, h₂, -⟩ := mem_reads_seq.mp h
    exact (ih₂ h₂).trans (ih₁ h₁)
  | alt first second ih₁ ih₂ =>
    obtain h | h := mem_reads_alt.mp h
    · exact ih₁ h
    · exact ih₂ h
  | group name inner ih =>
    obtain ⟨r, hr, heq⟩ := List.mem_map.mp h
    obtain rfl := (Prod.mk.inj heq).2
    exact ih hr

theorem suffix_of_read {r : Groups α × List α} (h : r ∈ pattern.reads as) : r.2 <:+ as :=
  suffix_of_mem_reads (show (r.1, r.2) ∈ _ from h)

theorem mem_reads_group {name : String} : (groups, rest) ∈ (group name inner).reads as ↔
    ∃ used groups', as = used ++ rest ∧ (groups', rest) ∈ inner.reads as ∧ groups = (name, used) :: groups' := by
  simp only [reads_group, List.mem_map, Prod.exists, Prod.mk.injEq]
  constructor
  · rintro ⟨groups', rest', h, rfl, rfl⟩
    obtain ⟨used, rfl⟩ := suffix_of_mem_reads h
    exact ⟨used, groups', rfl, h, by simp⟩
  · rintro ⟨used, groups', rfl, h, rfl⟩
    exact ⟨groups', rest, h, by simp, rfl⟩

theorem matches?_eq_some (h : pattern.matches? as = some groups) : ∃ rest, (groups, rest) ∈ pattern.reads as := by
  obtain ⟨r, hr, rfl⟩ := Option.map_eq_some_iff.mp h
  exact ⟨r.2, List.mem_of_head? hr⟩

theorem search?_cons (a : α) (as : List α) :
    pattern.search? (a :: as) = (pattern.matches? (a :: as)).or (pattern.search? as) := by
  unfold search?
  rw [List.tails, List.findSome?_cons]
  cases pattern.matches? (a :: as) <;> rfl

section Bounded
variable (s : List α) (fits : List α → Prop)

/-- In front of `s`, the pattern reads texts that fit as it does where nothing follows. -/
def Bounded (pattern : Pattern α) : Prop :=
  ∀ as, fits as → pattern.reads (as ++ s) = (pattern.reads as).map fun r => (r.1, r.2 ++ s)

variable {s fits}

theorem Bounded.seq (hfits : ∀ as rest, rest <:+ as → fits as → fits rest) (h₁ : Bounded s fits first)
    (h₂ : Bounded s fits second) : Bounded s fits (.seq first second) := by
  intro as has
  simp only [reads_seq, h₁ as has, List.flatMap_map, List.map_flatMap]
  refine List.flatMap_congr fun r hr => ?_
  rw [h₂ r.2 (hfits as r.2 (suffix_of_read hr) has), List.map_map, List.map_map]
  rfl

theorem Bounded.alt (h₁ : Bounded s fits first) (h₂ : Bounded s fits second) : Bounded s fits (.alt first second) := by
  intro as has
  simp only [reads_alt, h₁ as has, h₂ as has, List.map_append]

theorem Bounded.group {name : String} (h : Bounded s fits inner) : Bounded s fits (.group name inner) := by
  intro as has
  simp only [reads_group, h as has, List.map_map]
  refine List.map_congr_left fun r hr => ?_
  have hle : r.2.length ≤ as.length := (suffix_of_read hr).length_le
  have hlength : (as ++ s).length - (r.2 ++ s).length = as.length - r.2.length := by
    rw [List.length_append, List.length_append]
    omega
  simp only [Function.comp_apply, hlength]
  rw [List.take_append_of_le_length (Nat.sub_le _ _)]

theorem Bounded.matches? {pattern : Pattern α} (h : Bounded s fits pattern) (has : fits as) :
    pattern.matches? (as ++ s) = pattern.matches? as := by
  unfold Pattern.matches?
  rw [h as has, List.head?_map, Option.map_map]
  rfl

/-- A search that does not read into `s` from the front goes on in it. -/
theorem Bounded.search? {pattern : Pattern α} (h : Bounded s fits pattern)
    (hfits : ∀ as rest, rest <:+ as → fits as → fits rest) (has : fits as) (hnil : pattern.reads [] = []) :
    pattern.search? (as ++ s) = (pattern.search? as).or (pattern.search? s) := by
  induction as with
  | nil =>
    have hnone : pattern.search? [] = none := by simp [Pattern.search?, Pattern.matches?, hnil]
    rw [hnone, Option.none_or, List.nil_append]
  | cons a as ih =>
    rw [List.cons_append, search?_cons, search?_cons, ih (hfits _ _ (List.suffix_cons a as) has), ← List.cons_append,
      h.matches? has, Option.or_assoc]

end Bounded

end Pattern

end Lib
