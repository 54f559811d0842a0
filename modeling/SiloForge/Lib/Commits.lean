import Mathlib.Data.List.Basic

/-!
# Statements and commits

A request sends its statements to the database one after the other, and a commit keeps what they wrote. When one of
them fails the connection is rolled back: what stays is what the last commit kept.

* `committedAfter s stmts k` : what stays of `s` when the database fails after the first `k` statements;
* `commitStates` : what each commit keeps, and `committedAfter_eq` : what stays is one of these, by the commits done;
* `AllOrNothing` : all of it stays or nothing, as it does where no failure falls between two commits.
-/

universe u

namespace Lib

inductive Statement (σ : Type u) where
  | read
  | write (f : σ → σ)
  | commit

/-- The committed state, and the one the open transaction sees. -/
structure Connection (σ : Type u) where
  committed : σ
  pending : σ

variable {σ : Type u}

def Statement.isCommit : Statement σ → Bool
  | .commit => true
  | .read | .write _ => false

def Connection.send (c : Connection σ) : Statement σ → Connection σ
  | .read => c
  | .write f => { c with pending := f c.pending }
  | .commit => { c with committed := c.pending }

/-- What stays when the database fails after the first `k` statements. -/
def committedAfter (s : σ) (stmts : List (Statement σ)) (k : Nat) : σ :=
  ((stmts.take k).foldl Connection.send ⟨s, s⟩).committed

/-- What each commit keeps, in order. -/
def commitStates : σ → List (Statement σ) → List σ
  | _, [] => []
  | s, .read :: rest => commitStates s rest
  | s, .write f :: rest => commitStates (f s) rest
  | s, .commit :: rest => s :: commitStates s rest

def sent : σ → List (Statement σ) → σ
  | s, [] => s
  | s, .read :: rest | s, .commit :: rest => sent s rest
  | s, .write f :: rest => sent (f s) rest

def commitsBefore (stmts : List (Statement σ)) (k : Nat) : Nat := (stmts.take k).countP (·.isCommit)

/-- The database fails after the first commit and before the last. -/
def BetweenCommits (stmts : List (Statement σ)) (k : Nat) : Prop :=
  0 < commitsBefore stmts k ∧ commitsBefore stmts k < commitsBefore stmts stmts.length

/-- When the database fails after `k` statements nothing stays, or all that stays without the failure. -/
def AllOrNothing (s : σ) (stmts : List (Statement σ)) (k : Nat) : Prop :=
  committedAfter s stmts k = s ∨ committedAfter s stmts k = committedAfter s stmts stmts.length

instance (stmts : List (Statement σ)) (k : Nat) : Decidable (BetweenCommits stmts k) :=
  inferInstanceAs (Decidable (_ ∧ _))

/-! ## What the commits keep -/

section Commits
variable {stmts : List (Statement σ)} {s : σ} {k : Nat}

theorem committed_foldl (c : Connection σ) :
    (stmts.foldl Connection.send c).committed = (commitStates c.pending stmts).getLast?.getD c.committed := by
  induction stmts generalizing c with
  | nil => rfl
  | cons stmt rest ih =>
    rw [List.foldl_cons, ih]
    cases stmt with
    | read => rfl
    | write f => rfl
    | commit => rw [commitStates, List.getLast?_cons, Option.getD_some]; rfl

theorem length_commitStates : (commitStates s stmts).length = stmts.countP (·.isCommit) := by
  induction stmts generalizing s with
  | nil => rfl
  | cons stmt rest ih => cases stmt <;> simp [commitStates, Statement.isCommit, ih]

theorem commitStates_take : commitStates s (stmts.take k) = (commitStates s stmts).take (commitsBefore stmts k) := by
  induction stmts generalizing s k with
  | nil => simp [commitStates]
  | cons stmt rest ih =>
    cases k with
    | zero => rfl
    | succ k =>
      have hcount : commitsBefore (stmt :: rest) (k + 1) = commitsBefore rest k + if stmt.isCommit then 1 else 0 :=
        List.countP_cons ..
      rw [List.take_succ_cons, hcount]
      cases stmt <;> simp [commitStates, Statement.isCommit, ih]

theorem commitStates_append {rest : List (Statement σ)} :
    commitStates s (stmts ++ rest) = commitStates s stmts ++ commitStates (sent s stmts) rest := by
  induction stmts generalizing s with
  | nil => rfl
  | cons stmt stmts ih =>
    cases stmt with
    | read => exact ih
    | write f => exact ih
    | commit => exact congrArg (s :: ·) ih

theorem commitStates_eq_nil (h : ∀ stmt ∈ stmts, stmt.isCommit = false) : commitStates s stmts = [] := by
  rw [← List.length_eq_zero_iff, length_commitStates, List.countP_eq_zero]
  intro stmt hstmt
  rw [h stmt hstmt]
  exact Bool.false_ne_true

theorem committedAfter_eq :
    committedAfter s stmts k = ((commitStates s stmts).take (commitsBefore stmts k)).getLast?.getD s := by
  rw [committedAfter, committed_foldl, commitStates_take]

theorem commitsBefore_length : commitsBefore stmts stmts.length = (commitStates s stmts).length := by
  rw [length_commitStates, commitsBefore, List.take_length]

theorem commitsBefore_le : commitsBefore stmts k ≤ commitsBefore stmts stmts.length := by
  rw [commitsBefore, commitsBefore, List.take_length]
  exact (List.take_sublist k stmts).countP_le

/-- Before the first commit nothing stays, and after the last one all does. -/
theorem allOrNothing_of_not_between (h : ¬ BetweenCommits stmts k) : AllOrNothing s stmts k := by
  have hle : commitsBefore stmts k ≤ commitsBefore stmts stmts.length := commitsBefore_le
  have hends : commitsBefore stmts k = 0 ∨ commitsBefore stmts k = commitsBefore stmts stmts.length := by
    unfold BetweenCommits at h
    omega
  rcases hends with hnone | hall
  · left
    rw [committedAfter_eq, hnone]
    rfl
  · right
    rw [committedAfter_eq, committedAfter_eq, hall]

theorem committedAfter_mem_of_between (h : BetweenCommits stmts k) :
    committedAfter s stmts k ∈ (commitStates s stmts).dropLast := by
  obtain ⟨hpos, hlt⟩ := h
  rw [commitsBefore_length (s := s)] at hlt
  have hne : (commitStates s stmts).take (commitsBefore stmts k) ≠ [] := by
    intro hnil
    rw [List.take_eq_nil_iff] at hnil
    rcases hnil with hzero | hnone
    · omega
    · rw [hnone] at hlt
      exact absurd hlt (Nat.not_lt_zero _)
  have hpre : (commitStates s stmts).take (commitsBefore stmts k) <+: (commitStates s stmts).dropLast := by
    rw [List.dropLast_eq_take]
    exact List.take_prefix_take_left (by omega)
  rw [committedAfter_eq, List.getLast?_eq_some_getLast hne, Option.getD_some]
  exact hpre.subset (List.getLast_mem hne)

theorem committedAfter_length {init : List σ} {last : σ} (h : commitStates s stmts = init ++ [last]) :
    committedAfter s stmts stmts.length = last := by
  rw [committedAfter_eq, commitsBefore_length, List.take_length, h, List.getLast?_concat, Option.getD_some]

end Commits

end Lib
