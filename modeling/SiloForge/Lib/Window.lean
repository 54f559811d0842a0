import Mathlib.Data.List.Induction
import Mathlib.Order.WithBot

/-!
# Sliding windows with bounded memory

Attempts are admitted while fewer than a limit of them lie behind a moving cutoff. Whoever decides need not remember
them all: the latest ones are enough, as many as the limit.

* `Attempt` : one attempt, admitted, or in the place of the oldest remembered one;
* `Keeps` : what is remembered counts as the history does, up to the limit;
* `Keeps.allowed`, `Keeps.attempt` : an attempt is admitted as the history says, and remembered;
* `Remembers`, `KeepsAll.call`, `keepsAll_after` : a window for each key, along a sequence of calls.
-/

universe u v w x

namespace Lib.Window
variable {T : Type u} [LinearOrder T]

def live (cutoff : T) (times : List T) : List T := times.filter (cutoff < ·)

theorem mem_live {cutoff t : T} {times : List T} : t ∈ live cutoff times ↔ t ∈ times ∧ cutoff < t := by
  simp [live]

theorem length_live_cons (cutoff t : T) (times : List T) :
    (live cutoff (t :: times)).length = (live cutoff times).length + if cutoff < t then 1 else 0 := by
  unfold live
  rw [List.filter_cons]
  by_cases h : cutoff < t <;> simp [h]

theorem length_live_perm {cutoff : T} {times times' : List T} (h : times.Perm times') :
    (live cutoff times).length = (live cutoff times').length :=
  (h.filter _).length_eq

theorem live_live {cutoff cutoff' : T} (h : cutoff ≤ cutoff') (times : List T) :
    live cutoff' (live cutoff times) = live cutoff' times := by
  unfold live
  rw [List.filter_filter]
  congr 1
  funext t
  have hle : cutoff' < t → cutoff < t := h.trans_lt
  by_cases ht : cutoff' < t <;> simp [ht, hle]

theorem live_eq_nil {cutoff : T} {times : List T} (h : ∀ t ∈ times, t ≤ cutoff) : live cutoff times = [] := by
  unfold live
  rw [List.filter_eq_nil_iff]
  intro t ht
  simpa using h t ht

theorem live_eq_self {cutoff : T} {times : List T} (h : ∀ t ∈ times, cutoff < t) : live cutoff times = times := by
  unfold live
  rw [List.filter_eq_self]
  intro t ht
  simpa using h t ht

theorem dropWhile_eq_live {cutoff : T} {times : List T} (h : times.Pairwise (· ≤ ·)) :
    times.dropWhile (· ≤ cutoff) = live cutoff times := by
  induction times with
  | nil => rfl
  | cons t times ih =>
    rw [List.pairwise_cons] at h
    rw [List.dropWhile_cons]
    by_cases ht : t ≤ cutoff
    · have hlive : live cutoff (t :: times) = live cutoff times := List.filter_cons_of_neg (by simpa using ht)
      rw [if_pos (decide_eq_true ht), ih h.2, hlive]
    · have hlater : ∀ t' ∈ t :: times, cutoff < t' := by
        rw [List.forall_mem_cons]
        exact ⟨not_le.mp ht, fun t' ht' => (not_le.mp ht).trans_le (h.1 t' ht')⟩
      rw [if_neg (by simpa using ht), live_eq_self hlater]

/-- An attempt at `now`, on the remembered times after the cutoff. -/
inductive Attempt (limit : Nat) (cutoff now : T) (kept : List T) : Bool → List T → Prop
  | admitted {kept' : List T} (hfree : (live cutoff kept).length < limit) (hkept : kept'.Perm (now :: live cutoff kept)) :
    Attempt limit cutoff now kept true kept'
  | replaced {oldest : T} {rest kept' : List T} (hfull : limit ≤ (live cutoff kept).length)
    (hlive : (live cutoff kept).Perm (oldest :: rest)) (holdest : ∀ t ∈ rest, oldest ≤ t) (hkept : kept'.Perm (now :: rest)) :
    Attempt limit cutoff now kept false kept'

/-- From the cutoff on, the remembered times count as the history does, up to the limit. -/
structure Keeps (limit : Nat) (cutoff : WithBot T) (kept history : List T) : Prop where
  known : ∀ t ∈ kept, t ∈ history
  counts : ∀ c : T, cutoff ≤ c → (live c kept).length = min limit (live c history).length

theorem keeps_nil (limit : Nat) : Keeps limit (⊥ : WithBot T) [] [] :=
  ⟨fun _ h => h, fun _ _ => (Nat.min_zero limit).symm⟩

variable {limit : Nat} {cutoff : WithBot T} {cutoff' now : T} {kept kept' history : List T} {admitted : Bool}

namespace Keeps

theorem mono (h : Keeps limit cutoff kept history) (hcutoff : cutoff ≤ cutoff') :
    Keeps limit (cutoff' : WithBot T) kept history :=
  ⟨h.known, fun c hc => h.counts c (hcutoff.trans hc)⟩

theorem forget (h : Keeps limit cutoff kept history) (hcutoff : cutoff ≤ cutoff') (hkept : ∀ t ∈ kept, t ≤ cutoff') :
    Keeps limit (cutoff' : WithBot T) [] history := by
  refine ⟨fun t ht => (List.not_mem_nil ht).elim, fun c hc => ?_⟩
  have hcounts := h.counts c (hcutoff.trans hc)
  rw [live_eq_nil fun t ht => (hkept t ht).trans (WithBot.coe_le_coe.mp hc)] at hcounts
  exact hcounts

theorem allowed (h : Keeps limit cutoff kept history) (hcutoff : cutoff ≤ cutoff')
    (hattempt : Attempt limit cutoff' now kept admitted kept') :
    admitted = decide ((live cutoff' history).length < limit) := by
  have hcounts := h.counts cutoff' hcutoff
  cases hattempt with
  | admitted hfree =>
    have hfew : (live cutoff' history).length < limit := by omega
    exact (decide_eq_true hfew).symm
  | replaced hfull =>
    have hmany : ¬ (live cutoff' history).length < limit := by omega
    exact (decide_eq_false hmany).symm

theorem attempt (h : Keeps limit cutoff kept history) (hcutoff : cutoff ≤ cutoff') (hnow : ∀ t ∈ history, t ≤ now)
    (hattempt : Attempt limit cutoff' now kept admitted kept') :
    Keeps limit (cutoff' : WithBot T) kept' (history ++ [now]) := by
  have hlength : ∀ c : T, (live c (history ++ [now])).length = (live c history).length + if c < now then 1 else 0 :=
    fun c => (length_live_perm (List.perm_append_singleton now history)).trans (length_live_cons c now history)
  have hcounts := h.counts cutoff' hcutoff
  cases hattempt with
  | admitted hfree hkept =>
    refine ⟨fun t ht => ?_, fun c hc => ?_⟩
    · obtain rfl | ht := List.mem_cons.mp (hkept.mem_iff.mp ht)
      · exact List.mem_append_right _ List.mem_cons_self
      · exact List.mem_append_left _ (h.known t (mem_live.mp ht).1)
    · have hle : cutoff' ≤ c := WithBot.coe_le_coe.mp hc
      have hfewer : (live c kept).length ≤ (live cutoff' kept).length := by
        rw [← live_live hle kept]
        exact List.length_filter_le _ _
      rw [length_live_perm hkept, length_live_cons, live_live hle, hlength, h.counts c (hcutoff.trans hc)]
      have hcountsc := h.counts c (hcutoff.trans hc)
      have hlast : (if c < now then 1 else 0) ≤ 1 := by split <;> omega
      omega
  | @replaced oldest rest _ hfull hlive holdest hkept =>
    have hmem : ∀ t ∈ oldest :: rest, t ∈ history := fun t ht => h.known t (mem_live.mp (hlive.mem_iff.mpr ht)).1
    refine ⟨fun t ht => ?_, fun c hc => ?_⟩
    · obtain rfl | ht := List.mem_cons.mp (hkept.mem_iff.mp ht)
      · exact List.mem_append_right _ List.mem_cons_self
      · exact List.mem_append_left _ (hmem t (List.mem_cons_of_mem _ ht))
    · have hle : cutoff' ≤ c := WithBot.coe_le_coe.mp hc
      have hcountsc := h.counts c (hcutoff.trans hc)
      have hrests : (live cutoff' kept).length = rest.length + 1 := hlive.length_eq
      have hsplit : (live c kept).length = (live c rest).length + if c < oldest then 1 else 0 := by
        rw [← live_live hle kept, length_live_perm hlive, length_live_cons]
      rw [length_live_perm hkept, length_live_cons, hlength]
      by_cases holder : c < oldest
      · -- the whole memory lies after `c`, and so does the attempt
        have hrest : live c rest = rest := live_eq_self fun t ht => holder.trans_le (holdest t ht)
        have hlater : c < now := holder.trans_le (hnow oldest (hmem oldest List.mem_cons_self))
        rw [if_pos holder, hrest] at hsplit
        rw [hrest, if_pos hlater]
        omega
      · -- the oldest one does not count, so the history counts less than the limit
        have hbound : (live c rest).length ≤ rest.length := List.length_filter_le _ _
        have hlast : (if c < now then 1 else 0) ≤ 1 := by split <;> omega
        rw [if_neg holder] at hsplit
        omega

end Keeps

/-! ## One window for each key -/

section Keys
variable {κ : Type v} [DecidableEq κ]

/-- What is remembered of a key is left, or forgotten when all of it lies before the cutoff. -/
def Forgets (cutoff : T) (kept kept' : List T) : Prop := kept' = kept ∨ kept' = [] ∧ ∀ t ∈ kept, t ≤ cutoff

/-- A call of a key is an attempt on what is remembered of it; of other keys something may be forgotten. -/
structure Remembers (limit : Nat) (cutoff now : T) (key : κ) (kept kept' : κ → List T) (admitted : Bool) : Prop where
  own : ∃ base, Forgets cutoff (kept key) base ∧ Attempt limit cutoff now base admitted (kept' key)
  others : ∀ other, other ≠ key → Forgets cutoff (kept other) (kept' other)

def times (key : κ) (calls : List (κ × T)) : List T := (calls.filter fun c => c.1 = key).map Prod.snd

def KeepsAll (limit : Nat) (cutoff : WithBot T) (kept : κ → List T) (calls : List (κ × T)) : Prop :=
  ∀ key, Keeps limit cutoff (kept key) (times key calls)

omit [DecidableEq κ] in
theorem Keeps.forgets (h : Keeps limit cutoff kept history) (hcutoff : cutoff ≤ cutoff')
    (hforgets : Forgets cutoff' kept kept') :
    Keeps limit (cutoff' : WithBot T) kept' history := by
  obtain rfl | ⟨rfl, hold⟩ := hforgets
  · exact h.mono hcutoff
  · exact h.forget hcutoff hold

theorem KeepsAll.call {kept kept' : κ → List T} {calls : List (κ × T)} {key : κ} (h : KeepsAll limit cutoff kept calls)
    (hcutoff : cutoff ≤ cutoff') (hnow : ∀ c ∈ calls, c.2 ≤ now)
    (hcall : Remembers limit cutoff' now key kept kept' admitted) :
    admitted = decide ((live cutoff' (times key calls)).length < limit) ∧
      KeepsAll limit (cutoff' : WithBot T) kept' (calls ++ [(key, now)]) := by
  obtain ⟨base, hbase, hattempt⟩ := hcall.own
  have hkeeps := (h key).forgets hcutoff hbase
  refine ⟨hkeeps.allowed le_rfl hattempt, fun other => ?_⟩
  unfold times
  rw [List.filter_append, List.map_append]
  by_cases hother : other = key
  · subst hother
    have htimes : ∀ t ∈ times other calls, t ≤ now := by
      intro t ht
      obtain ⟨c, hc, rfl⟩ := List.mem_map.mp ht
      exact hnow c (List.mem_filter.mp hc).1
    have hattempted := hkeeps.attempt le_rfl htimes hattempt
    simpa [times] using hattempted
  · have hnone : [(key, now)].filter (fun c => c.1 = other) = [] := by simp [Ne.symm hother]
    rw [hnone, List.map_nil, List.append_nil]
    exact (h other).forgets hcutoff (hcall.others other hother)

section Run
variable {σ : Type w} {α : Type x} (step : σ → α → Bool × σ) (init : σ) (kept : σ → κ → List T) (key : α → κ) (time : α → T)
  (cutoff : T → T) (limit : Nat)

def after (calls : List α) : σ := calls.foldl (fun s a => (step s a).2) init

/-- From an empty memory, whoever remembers every call remembers enough, along every sequence of
calls in order of time that is `Valid`. -/
theorem keepsAll_after (hmono : Monotone cutoff) (hempty : ∀ k, kept init k = []) (Valid : List α → Prop)
    (Inv : List α → σ → Prop) (hinit : Inv [] init) (hshorter : ∀ calls a, Valid (calls ++ [a]) → Valid calls)
    (hstep : ∀ calls s a, Valid (calls ++ [a]) → Inv calls s → Inv (calls ++ [a]) (step s a).2 ∧
      Remembers limit (cutoff (time a)) (time a) (key a) (kept s) (kept (step s a).2) (step s a).1)
    (calls : List α) (hvalid : Valid calls) (htimes : (calls.map time).Pairwise (· ≤ ·)) :
    Inv calls (after step init calls) ∧ ∃ c : WithBot T,
      KeepsAll limit c (kept (after step init calls)) (calls.map fun a => (key a, time a)) ∧
        ∀ t, (∀ a ∈ calls, time a ≤ t) → c ≤ cutoff t := by
  induction calls using List.reverseRecOn with
  | nil =>
    refine ⟨hinit, ⊥, fun k => ?_, fun t _ => bot_le⟩
    show Keeps limit ⊥ (kept init k) []
    rw [hempty]
    exact keeps_nil limit
  | append_singleton calls a ih =>
    rw [List.map_append, List.pairwise_append] at htimes
    have hpast : ∀ b ∈ calls, time b ≤ time a := fun b hb => htimes.2.2 _ (List.mem_map_of_mem hb) _ List.mem_cons_self
    obtain ⟨hinv, c, hkeeps, hcutoff⟩ := ih (hshorter calls a hvalid) htimes.1
    obtain ⟨hinv', hcall⟩ := hstep calls _ a hvalid hinv
    have hafter : after step init (calls ++ [a]) = (step (after step init calls) a).2 := by
      unfold after
      rw [List.foldl_append]
      rfl
    rw [hafter, List.map_append]
    refine ⟨hinv', cutoff (time a), (hkeeps.call (hcutoff _ hpast) ?_ hcall).2, fun t ht => ?_⟩
    · rintro _ hmem
      obtain ⟨b, hb, rfl⟩ := List.mem_map.mp hmem
      exact hpast b hb
    · exact WithBot.coe_le_coe.mpr (hmono (ht a (List.mem_append_right _ List.mem_cons_self)))

end Run

end Keys

end Lib.Window
