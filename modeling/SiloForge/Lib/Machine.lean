/-!
# Machines that commit states

A `Machine` answers an action issued in a state with the states it commits, oldest first; an action that
commits nothing leaves the state as it was. Actions are issued one after the other (`run`), each in the
last state committed before it.

* `Along P s as` : `P` holds of every action of `as` and the state it is issued in;
* `run_inv`, `committed_inv` : an invariant of single steps holds in every state a run commits;
* `forall_committed_iff_along` : the runs that commit only states with a property;
* `watch` : the machine beside an observer who takes notes of what is committed;
* `serial` : requests carried out one after the other, each in several actions.
-/

universe u v w x

namespace Lib

/-- States `σ`, actions `α`, and the states an action commits. -/
structure Machine (σ : Type u) (α : Type v) where
  commits : σ → α → List σ

namespace Machine

variable {σ : Type u} {α : Type v} (M : Machine σ α)

def next (s : σ) (a : α) : σ := (M.commits s a).getLastD s

def run : σ → List α → σ
  | s, [] => s
  | s, a :: as => run (M.next s a) as

def committed : σ → List α → List σ
  | _, [] => []
  | s, a :: as => M.commits s a ++ committed (M.next s a) as

/-- `P` holds of every action and the state it is issued in. -/
def Along (P : σ → α → Prop) : σ → List α → Prop
  | _, [] => True
  | s, a :: as => P s a ∧ Along P (M.next s a) as

instance decidableAlong (P : σ → α → Prop) [∀ s a, Decidable (P s a)] :
    ∀ (s : σ) (as : List α), Decidable (M.Along P s as)
  | _, [] => .isTrue trivial
  | s, a :: as => @instDecidableAnd _ _ _ (decidableAlong P (M.next s a) as)

/-- `Q` holds of every state an action commits, given the state it was issued in. -/
def Each (Q : σ → α → σ → Prop) (s : σ) (a : α) : Prop := ∀ t ∈ M.commits s a, Q s a t

instance (Q : σ → α → σ → Prop) [∀ s a t, Decidable (Q s a t)] (s : σ) (a : α) : Decidable (M.Each Q s a) :=
  inferInstanceAs (Decidable (∀ t ∈ M.commits s a, Q s a t))

/-! ## The last committed state -/

theorem getLastD_mem_or_eq (l : List σ) (s : σ) : l.getLastD s ∈ l ∨ l.getLastD s = s := by
  cases l with
  | nil => exact .inr rfl
  | cons x xs =>
    left
    rw [List.getLastD_cons, ← List.getLast_eq_getLastD (by simp)]
    exact List.getLast_mem _

theorem next_mem_or_eq (s : σ) (a : α) : M.next s a ∈ M.commits s a ∨ M.next s a = s :=
  getLastD_mem_or_eq _ _

variable {s : σ} {a : α} {P Q : σ → α → Prop} {as : List α}

theorem next_of_commits_eq_nil (h : M.commits s a = []) : M.next s a = s := by
  rw [next, h]; rfl

theorem next_of_commits_eq_singleton {t : σ} (h : M.commits s a = [t]) : M.next s a = t := by
  rw [next, h]; rfl

theorem next_of_each {Q : σ → Prop} (hs : Q s) (h : ∀ t ∈ M.commits s a, Q t) : Q (M.next s a) := by
  rcases M.next_mem_or_eq s a with hm | he
  · exact h _ hm
  · rwa [he]

/-! ## Runs -/

@[simp] theorem run_nil (s : σ) : M.run s [] = s := rfl

@[simp] theorem run_cons (s : σ) (a : α) (as : List α) : M.run s (a :: as) = M.run (M.next s a) as := rfl

theorem run_append (s : σ) (as bs : List α) : M.run s (as ++ bs) = M.run (M.run s as) bs := by
  induction as generalizing s with
  | nil => rfl
  | cons a as ih => exact ih _

variable {M}

theorem Along.mono (h : ∀ s a, P s a → Q s a) (hP : M.Along P s as) : M.Along Q s as := by
  induction as generalizing s with
  | nil => trivial
  | cons a as ih => exact ⟨h s a hP.1, ih hP.2⟩

theorem Along.and (hP : M.Along P s as) (hQ : M.Along Q s as) : M.Along (fun s a => P s a ∧ Q s a) s as := by
  induction as generalizing s with
  | nil => trivial
  | cons a as ih => exact ⟨⟨hP.1, hQ.1⟩, ih hP.2 hQ.2⟩

theorem along_of_mem {P : α → Prop} (s : σ) (h : ∀ a ∈ as, P a) : M.Along (fun _ a => P a) s as := by
  induction as generalizing s with
  | nil => trivial
  | cons a as ih => exact ⟨h a List.mem_cons_self, ih _ fun b hb => h b (List.mem_cons_of_mem a hb)⟩

/-- **From steps to runs**: where a step that satisfies `P` keeps `Inv` and gives `Q`, a run of such steps
satisfies `Q` throughout. -/
theorem Along.of_inv (Inv : σ → Prop) (keep : ∀ s a, Inv s → P s a → Inv (M.next s a))
    (give : ∀ s a, Inv s → P s a → Q s a) (hs : Inv s) (hP : M.Along P s as) : M.Along Q s as := by
  induction as generalizing s with
  | nil => trivial
  | cons a as ih => exact ⟨give s a hs hP.1, ih (keep s a hs hP.1) hP.2⟩

theorem along_of_forall (h : ∀ s a, P s a) (s : σ) (as : List α) : M.Along P s as := by
  induction as generalizing s with
  | nil => trivial
  | cons a as ih => exact ⟨h s a, ih _⟩

/-- An invariant of the steps that satisfy `P` holds after a run of them. -/
theorem run_inv (Inv : σ → Prop) (keep : ∀ s a, Inv s → P s a → Inv (M.next s a)) (hs : Inv s) (hP : M.Along P s as) :
    Inv (M.run s as) := by
  induction as generalizing s with
  | nil => exact hs
  | cons a as ih => exact ih (keep s a hs hP.1) hP.2

/-- An invariant of the steps that satisfy `P` holds in every state a run of them commits. -/
theorem committed_inv (Inv : σ → Prop) (keep : ∀ s a, Inv s → P s a → ∀ t ∈ M.commits s a, Inv t) (hs : Inv s)
    (hP : M.Along P s as) : ∀ t ∈ M.committed s as, Inv t := by
  induction as generalizing s with
  | nil => intro t ht; cases ht
  | cons a as ih =>
    intro t ht
    have hstep := keep s a hs hP.1
    rcases List.mem_append.mp ht with ht | ht
    · exact hstep t ht
    · exact ih (M.next_of_each hs hstep) hP.2 t ht

/-- **Runs that keep a property**: where the steps that satisfy `P` keep `Inv`, and are those that commit only what has
`Q`, a run commits only what has `Q` exactly when all its steps satisfy `P`. -/
theorem forall_committed_iff_along (Inv : σ → Prop) {Q : σ → Prop}
    (keep : ∀ s a, Inv s → P s a → ∀ t ∈ M.commits s a, Inv t)
    (give : ∀ s a, Inv s → ((∀ t ∈ M.commits s a, Q t) ↔ P s a)) (hs : Inv s) :
    (∀ t ∈ M.committed s as, Q t) ↔ M.Along P s as := by
  induction as generalizing s with
  | nil => exact ⟨fun _ => trivial, fun _ t ht => absurd ht List.not_mem_nil⟩
  | cons a as ih =>
    have hnext : P s a → Inv (M.next s a) := fun hP => M.next_of_each hs (keep s a hs hP)
    constructor
    · intro h
      have hP : P s a := (give s a hs).mp fun t ht => h t (List.mem_append_left _ ht)
      exact ⟨hP, (ih (hnext hP)).mp fun t ht => h t (List.mem_append_right _ ht)⟩
    · rintro ⟨hP, hrest⟩ t ht
      rcases List.mem_append.mp ht with ht | ht
      · exact (give s a hs).mpr hP t ht
      · exact (ih (hnext hP)).mpr hrest t ht

/-! ## Reaching a state -/

variable (M)

/-- A state is reached from another one: what is committed after it is committed after that one too. -/
def Leads (s t : σ) : Prop := ∃ as, ∀ more, ∀ x ∈ M.committed t more, x ∈ M.committed s (as ++ more)

variable {M}

theorem Leads.trans {t u : σ} (h : M.Leads s t) (h' : M.Leads t u) : M.Leads s u := by
  obtain ⟨as, h⟩ := h
  obtain ⟨as', h'⟩ := h'
  refine ⟨as ++ as', fun more x hx => ?_⟩
  rw [List.append_assoc]
  exact h _ x (h' more x hx)

theorem Leads.of_commits {t : σ} (h : M.commits s a = [t]) : M.Leads s t := by
  refine ⟨[a], fun more x hx => List.mem_append_right _ ?_⟩
  rw [M.next_of_commits_eq_singleton h]
  exact hx

theorem Leads.mem_committed {t u : σ} (h : M.Leads s t) (hu : M.commits t a = [u]) : ∃ as, u ∈ M.committed s as := by
  obtain ⟨as, h⟩ := h
  refine ⟨as ++ [a], h [a] u (List.mem_append_left _ ?_)⟩
  rw [hu]
  exact List.mem_singleton_self u

/-! ## Serial runs -/

variable (M)

/-- The actions that carry requests out one after the other: `steps` has those a request takes in a state. -/
def serial {β : Type w} (steps : σ → β → List α) : σ → List β → List α
  | _, [] => []
  | s, b :: bs => steps s b ++ serial steps (M.run s (steps s b)) bs

variable {M}

/-- **Serial runs refine**: where each request, carried out whole, leads from related states to related states, so do
serial runs. -/
theorem run_serial {δ : Type x} {β : Type w} {N : Machine δ β} (R : σ → δ → Prop) {steps : σ → β → List α}
    (h : ∀ s d b, R s d → R (M.run s (steps s b)) (N.next d b)) {s : σ} {d : δ} (hs : R s d) (bs : List β) :
    R (M.run s (M.serial steps s bs)) (N.run d bs) := by
  induction bs generalizing s d with
  | nil => exact hs
  | cons b bs ih =>
    rw [serial, run_append, run_cons]
    exact ih (h s d b hs)

/-- The machine whose actions are named by others. -/
def comap {β : Type w} (M : Machine σ α) (f : β → α) : Machine σ β where
  commits s b := M.commits s (f b)

theorem run_comap {β : Type w} (f : β → α) (s : σ) (bs : List β) : (M.comap f).run s bs = M.run s (bs.map f) := by
  induction bs generalizing s with
  | nil => rfl
  | cons b bs ih => exact ih _

variable (M)

/-- The machine beside notes `γ` that are brought up to date with every committed state. -/
def watch {γ : Type w} (note : σ → α → σ → γ → γ) : Machine (σ × γ) α where
  commits s a := (M.commits s.1 a).map fun t => (t, note s.1 a t s.2)

variable {M}

theorem mem_watch {γ : Type w} {note : σ → α → σ → γ → γ} {s : σ × γ} {t : σ × γ} :
    t ∈ (M.watch note).commits s a ↔ t.1 ∈ M.commits s.1 a ∧ t.2 = note s.1 a t.1 s.2 := by
  simp only [watch, List.mem_map]
  constructor
  · rintro ⟨t, ht, rfl⟩
    exact ⟨ht, rfl⟩
  · rintro ⟨ht, hnote⟩
    exact ⟨t.1, ht, Prod.ext rfl hnote.symm⟩

end Machine

end Lib
