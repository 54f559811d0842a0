/-!
# Programs that call a service

A program makes calls one after the other. An oracle says what comes of each: whether the service does what it is asked
for, and the answer or the error the program gets; the two need not agree. A program ends with a result, or with an
error it has not caught.

* `CallM` : programs, as their results and the calls that are done, in order;
* `Does P m` : every call of `m` that is done satisfies `P`; one rule for each way to build a program;
* `Reaches P oracle m` : where `m` ends with a result, a call of it that is done satisfies `P`;
* `asked m oracle` : the calls `m` asks for, done or not; `ByAnswers m` : nothing else tells how `m` goes on;
* `Plans oracle m calls P` : `m` asks for the calls in order, and for all of them if it ends with a result.
-/

universe u v

namespace Lib

structure Reply (β ε : Type u) where
  done : Bool
  answer : Except ε β

/-- Programs with calls `κ`, answers `β`, errors `ε` and results `α`. -/
def CallM (κ β ε α : Type u) := (κ → Reply β ε) → Except ε α × List κ

namespace CallM

variable {κ β ε α γ : Type u}

def andThen (m : CallM κ β ε α) (f : α → CallM κ β ε γ) : CallM κ β ε γ := fun oracle =>
  match m oracle with
  | (.ok a, calls) => ((f a oracle).1, calls ++ (f a oracle).2)
  | (.error e, calls) => (.error e, calls)

instance : Monad (CallM κ β ε) where
  pure a := fun _ => (.ok a, [])
  bind := andThen

def raise (e : ε) : CallM κ β ε α := fun _ => (.error e, [])

def ofExcept (x : Except ε α) : CallM κ β ε α := fun _ => (x, [])

def call (k : κ) : CallM κ β ε β := fun oracle => ((oracle k).answer, if (oracle k).done then [k] else [])

def rescue (m : CallM κ β ε α) (f : ε → CallM κ β ε α) : CallM κ β ε α := fun oracle =>
  match m oracle with
  | (.ok a, calls) => (.ok a, calls)
  | (.error e, calls) => ((f e oracle).1, calls ++ (f e oracle).2)

def onlyIf (b : Bool) (m : CallM κ β ε PUnit) : CallM κ β ε PUnit := if b then m else pure ⟨⟩

/-! ## How a program ends -/

section Run
variable {oracle : κ → Reply β ε} {m : CallM κ β ε α} {calls : List κ}

theorem bind_of_ok {f : α → CallM κ β ε γ} {a : α} (h : m oracle = (.ok a, calls)) :
    (m >>= f) oracle = ((f a oracle).1, calls ++ (f a oracle).2) := by
  show andThen m f oracle = _
  unfold andThen
  rw [h]

theorem bind_of_error {f : α → CallM κ β ε γ} {e : ε} (h : m oracle = (.error e, calls)) :
    (m >>= f) oracle = (.error e, calls) := by
  show andThen m f oracle = _
  unfold andThen
  rw [h]

theorem rescue_of_ok {f : ε → CallM κ β ε α} {a : α} (h : m oracle = (.ok a, calls)) :
    m.rescue f oracle = (.ok a, calls) := by
  unfold rescue
  rw [h]

theorem rescue_of_error {f : ε → CallM κ β ε α} {e : ε} (h : m oracle = (.error e, calls)) :
    m.rescue f oracle = ((f e oracle).1, calls ++ (f e oracle).2) := by
  unfold rescue
  rw [h]

theorem mem_call {k k' : κ} : k' ∈ (call k oracle : Except ε β × List κ).2 ↔ k' = k ∧ (oracle k).done = true := by
  unfold call
  dsimp only
  split
  · rename_i hdone
    rw [List.mem_singleton, and_iff_left hdone]
  · rename_i hdone
    exact iff_of_false List.not_mem_nil fun h => hdone h.2

end Run

/-! ## The calls a program has done -/

/-- Every call that is done satisfies `P`. -/
def Does (P : κ → Prop) (m : CallM κ β ε α) : Prop := ∀ oracle, ∀ k ∈ (m oracle).2, P k

section Does
variable {P Q : κ → Prop} {m : CallM κ β ε α}

theorem Does.mono (h : Does P m) (hPQ : ∀ k, P k → Q k) : Does Q m := fun oracle k hk => hPQ k (h oracle k hk)

theorem does_pure (a : α) : Does P (pure a : CallM κ β ε α) := fun _ _ hk => absurd hk List.not_mem_nil

theorem does_raise (e : ε) : Does P (raise e : CallM κ β ε α) := fun _ _ hk => absurd hk List.not_mem_nil

theorem does_ofExcept (x : Except ε α) : Does P (ofExcept x : CallM κ β ε α) := fun _ _ hk => absurd hk List.not_mem_nil

theorem does_call {k : κ} (h : P k) : Does P (call k : CallM κ β ε β) := by
  intro oracle k' hk'
  unfold call at hk'
  dsimp only at hk'
  split at hk'
  · rwa [List.mem_singleton.mp hk']
  · exact absurd hk' List.not_mem_nil

theorem Does.bind (h : Does P m) {f : α → CallM κ β ε γ} (hf : ∀ a, Does P (f a)) : Does P (m >>= f) := by
  intro oracle k hk
  have hm := h oracle
  change k ∈ (andThen m f oracle).2 at hk
  unfold andThen at hk
  split at hk
  · rename_i a calls hrun
    rw [hrun] at hm
    rcases List.mem_append.mp hk with hk | hk
    · exact hm k hk
    · exact hf a oracle k hk
  · rename_i e calls hrun
    rw [hrun] at hm
    exact hm k hk

theorem does_ofExcept_bind {x : Except ε α} {f : α → CallM κ β ε γ} (hf : ∀ a, x = .ok a → Does P (f a)) :
    Does P (ofExcept x >>= f) := by
  intro oracle k hk
  change k ∈ (andThen (ofExcept x) f oracle).2 at hk
  unfold andThen ofExcept at hk
  cases x with
  | ok a => exact hf a rfl oracle k (by simpa using hk)
  | error e => exact absurd hk List.not_mem_nil

theorem Does.rescue (h : Does P m) {f : ε → CallM κ β ε α} (hf : ∀ e, Does P (f e)) : Does P (m.rescue f) := by
  intro oracle k hk
  have hm := h oracle
  unfold CallM.rescue at hk
  split at hk
  · rename_i a calls hrun
    rw [hrun] at hm
    exact hm k hk
  · rename_i e calls hrun
    rw [hrun] at hm
    rcases List.mem_append.mp hk with hk | hk
    · exact hm k hk
    · exact hf e oracle k hk

theorem Does.ite {p : Prop} [Decidable p] {m' : CallM κ β ε α} (h : Does P m) (h' : Does P m') :
    Does P (if p then m else m') := by
  split
  · exact h
  · exact h'

theorem Does.onlyIf {m : CallM κ β ε PUnit} (h : Does P m) (b : Bool) : Does P (onlyIf b m) := .ite h (does_pure _)

end Does

/-! ## A call every program that succeeds has done -/

/-- Where the program ends with a result, a call that is done satisfies `P`. -/
def Reaches (P : κ → Prop) (oracle : κ → Reply β ε) (m : CallM κ β ε α) : Prop :=
  ∀ a, (m oracle).1 = .ok a → ∃ k ∈ (m oracle).2, P k

section Reaches
variable {P : κ → Prop} {oracle : κ → Reply β ε} {m : CallM κ β ε α}

theorem reaches_raise (e : ε) : Reaches P oracle (raise e : CallM κ β ε α) := fun _ h => nomatch h

theorem reaches_call {k : κ} (hk : P k) (hdone : ∀ b, (oracle k).answer = .ok b → (oracle k).done = true) :
    Reaches P oracle (call k : CallM κ β ε β) := by
  intro b hb
  refine ⟨k, ?_, hk⟩
  show k ∈ if (oracle k).done then [k] else []
  rw [if_pos (hdone b hb)]
  exact List.mem_singleton_self k

/-- A program that goes on ends with a result if both parts do, and has done the calls of both. -/
theorem bind_run (m : CallM κ β ε α) (f : α → CallM κ β ε γ) {c : γ} (h : ((m >>= f) oracle).1 = .ok c) :
    ∃ a, (m oracle).1 = .ok a ∧ (f a oracle).1 = .ok c ∧
      ((m >>= f) oracle).2 = (m oracle).2 ++ (f a oracle).2 := by
  change (andThen m f oracle).1 = _ at h
  show ∃ a, _ ∧ _ ∧ (andThen m f oracle).2 = _
  unfold andThen at h ⊢
  rcases hm : m oracle with ⟨_ | a, calls⟩
  · rw [hm] at h
    cases h
  · rw [hm] at h
    exact ⟨a, rfl, h, rfl⟩

theorem call_pure_error {k : κ} {a : α} {e : ε}
    (h : ((call k >>= fun _ => pure a : CallM κ β ε α) oracle).1 = .error e) : (oracle k).answer = .error e := by
  change (andThen (call k) (fun _ => pure a) oracle).1 = _ at h
  unfold andThen call at h
  cases hanswer : (oracle k).answer with
  | error e' =>
    rw [hanswer] at h
    exact congrArg Except.error (Except.error.inj h)
  | ok b =>
    rw [hanswer] at h
    cases h

theorem Reaches.bind (hm : Reaches P oracle m) (f : α → CallM κ β ε γ) : Reaches P oracle (m >>= f) := by
  intro c hc
  obtain ⟨a, ha, -, hcalls⟩ := bind_run m f hc
  obtain ⟨k, hk, hPk⟩ := hm a ha
  rw [hcalls]
  exact ⟨k, List.mem_append_left _ hk, hPk⟩

theorem reaches_bind {f : α → CallM κ β ε γ} (hf : ∀ a, (m oracle).1 = .ok a → Reaches P oracle (f a)) :
    Reaches P oracle (m >>= f) := by
  intro c hc
  obtain ⟨a, ha, hfa, hcalls⟩ := bind_run m f hc
  obtain ⟨k, hk, hPk⟩ := hf a ha c hfa
  rw [hcalls]
  exact ⟨k, List.mem_append_right _ hk, hPk⟩

theorem Reaches.rescue (hm : Reaches P oracle m) {f : ε → CallM κ β ε α}
    (hf : ∀ e, (m oracle).1 = .error e → Reaches P oracle (f e)) : Reaches P oracle (m.rescue f) := by
  intro a ha
  unfold CallM.rescue at ha ⊢
  rcases hrun : m oracle with ⟨e | b, calls⟩
  · rw [hrun] at ha
    have herror : (m oracle).1 = .error e := congrArg Prod.fst hrun
    obtain ⟨k, hk, hPk⟩ := hf e herror a ha
    exact ⟨k, List.mem_append_right _ hk, hPk⟩
  · have hresult : (m oracle).1 = .ok b := congrArg Prod.fst hrun
    obtain ⟨k, hk, hPk⟩ := hm b hresult
    rw [hrun] at hk
    exact ⟨k, hk, hPk⟩

theorem Reaches.ite {p : Prop} [Decidable p] {m' : CallM κ β ε α} (h : p → Reaches P oracle m)
    (h' : ¬p → Reaches P oracle m') : Reaches P oracle (if p then m else m') := by
  split
  · exact h ‹p›
  · exact h' ‹¬p›

end Reaches

/-! ## The calls a program asks for -/

/-- A service with the same answers that does whatever it is asked for. -/
def willing (oracle : κ → Reply β ε) : κ → Reply β ε := fun k => { oracle k with done := true }

def asked (m : CallM κ β ε α) (oracle : κ → Reply β ε) : List κ := (m (willing oracle)).2

/-- A program goes on by the answers alone, and the calls that are done are those it asks for and the service does. -/
def ByAnswers (m : CallM κ β ε α) : Prop :=
  ∀ oracle, m oracle = ((m (willing oracle)).1, (m.asked oracle).filter fun k => (oracle k).done)

section ByAnswers
variable {m : CallM κ β ε α}

theorem byAnswers_pure (a : α) : ByAnswers (pure a : CallM κ β ε α) := fun _ => rfl

theorem byAnswers_raise (e : ε) : ByAnswers (raise e : CallM κ β ε α) := fun _ => rfl

theorem byAnswers_ofExcept (x : Except ε α) : ByAnswers (ofExcept x : CallM κ β ε α) := fun _ => rfl

theorem byAnswers_call (k : κ) : ByAnswers (call k : CallM κ β ε β) := by
  intro oracle
  refine Prod.ext rfl ?_
  show (if (oracle k).done then [k] else []) = [k].filter fun k => (oracle k).done
  rw [List.filter_cons, List.filter_nil]

theorem ByAnswers.bind (h : ByAnswers m) {f : α → CallM κ β ε γ} (hf : ∀ a, ByAnswers (f a)) : ByAnswers (m >>= f) := by
  intro oracle
  have hm := h oracle
  unfold asked at hm ⊢
  rcases hrun : m (willing oracle) with ⟨_ | a, calls⟩
  · rw [hrun] at hm
    rw [bind_of_error hm, bind_of_error hrun]
  · rw [hrun] at hm
    rw [bind_of_ok hm, bind_of_ok hrun, List.filter_append, hf a oracle]
    rfl

theorem ByAnswers.rescue (h : ByAnswers m) {f : ε → CallM κ β ε α} (hf : ∀ e, ByAnswers (f e)) :
    ByAnswers (m.rescue f) := by
  intro oracle
  have hm := h oracle
  unfold asked at hm ⊢
  rcases hrun : m (willing oracle) with ⟨e | a, calls⟩
  · rw [hrun] at hm
    rw [rescue_of_error hm, rescue_of_error hrun, List.filter_append, hf e oracle]
    rfl
  · rw [hrun] at hm
    rw [rescue_of_ok hm, rescue_of_ok hrun]

theorem ByAnswers.ite {p : Prop} [Decidable p] {m' : CallM κ β ε α} (h : ByAnswers m) (h' : ByAnswers m') :
    ByAnswers (if p then m else m') := by
  split
  · exact h
  · exact h'

theorem ByAnswers.mem_iff (h : ByAnswers m) {oracle : κ → Reply β ε} {k : κ} :
    k ∈ (m oracle).2 ↔ k ∈ m.asked oracle ∧ (oracle k).done = true := by
  rw [h oracle, List.mem_filter]

theorem ByAnswers.result (h : ByAnswers m) (oracle : κ → Reply β ε) : (m (willing oracle)).1 = (m oracle).1 :=
  (congrArg Prod.fst (h oracle)).symm

end ByAnswers

/-! ## Programs with a plan -/

def doneOf (oracle : κ → Reply β ε) (calls : List κ) : List κ := calls.filter fun k => (oracle k).done

theorem doneOf_append (oracle : κ → Reply β ε) (calls others : List κ) :
    doneOf oracle (calls ++ others) = doneOf oracle calls ++ doneOf oracle others := List.filter_append ..

theorem doneOf_willing (oracle : κ → Reply β ε) (calls : List κ) : doneOf (willing oracle) calls = calls :=
  List.filter_eq_self.mpr fun _ _ => rfl

theorem doneOf_single (oracle : κ → Reply β ε) (k : κ) : doneOf oracle [k] = if (oracle k).done then [k] else [] := by
  unfold doneOf
  rw [List.filter_cons, List.filter_nil]

/-- The program asks for the calls one after the other, and ends with an error or a result that satisfies `P`; if it ends
with a result, it has asked for all of them. -/
def Plans (oracle : κ → Reply β ε) (m : CallM κ β ε α) (calls : List κ) (P : α → Prop) : Prop :=
  (m oracle).2 <+: doneOf oracle calls ∧ ∀ a, (m oracle).1 = .ok a → (m oracle).2 = doneOf oracle calls ∧ P a

section Plans
variable {oracle : κ → Reply β ε} {m : CallM κ β ε α} {calls others : List κ} {P Q : α → Prop}

theorem plans_pure {a : α} (h : P a) : Plans oracle (pure a : CallM κ β ε α) [] P :=
  ⟨List.prefix_refl _, fun _ ha => ⟨rfl, Except.ok.inj ha ▸ h⟩⟩

theorem plans_raise (e : ε) (calls : List κ) (P : α → Prop) : Plans oracle (raise e : CallM κ β ε α) calls P :=
  ⟨List.nil_prefix, nofun⟩

theorem Plans.mono (h : Plans oracle m calls P) (hPQ : ∀ a, P a → Q a) : Plans oracle m calls Q :=
  ⟨h.1, fun a ha => ⟨(h.2 a ha).1, hPQ a (h.2 a ha).2⟩⟩

theorem Plans.bind {R : γ → Prop} (h : Plans oracle m calls P) {f : α → CallM κ β ε γ}
    (hf : ∀ a, P a → Plans oracle (f a) others R) : Plans oracle (m >>= f) (calls ++ others) R := by
  obtain ⟨hbegins, hresult⟩ := h
  unfold Plans
  rw [doneOf_append]
  rcases hrun : m oracle with ⟨e | a, made⟩
  · rw [hrun] at hbegins
    rw [bind_of_error hrun]
    exact ⟨hbegins.trans (List.prefix_append _ _), nofun⟩
  · rw [hrun] at hresult
    obtain ⟨hmade, ha⟩ := hresult a rfl
    obtain ⟨hbegins', hresult'⟩ := hf a ha
    rw [bind_of_ok hrun]
    dsimp only at hmade ⊢
    rw [hmade]
    exact ⟨(List.prefix_append_right_inj _).mpr hbegins', fun c hc => ⟨by rw [(hresult' c hc).1], (hresult' c hc).2⟩⟩

theorem plans_call_rescue (k : κ) (a : α) {f : ε → CallM κ β ε α} (hf : ∀ e, (f e oracle).2 = []) :
    Plans oracle ((call k >>= fun _ => pure a).rescue f) [k] fun c =>
      (∃ b, (oracle k).answer = .ok b) ∧ c = a ∨ ∃ e, (oracle k).answer = .error e ∧ (f e oracle).1 = .ok c := by
  have hk : call k oracle = ((oracle k).answer, doneOf oracle [k]) := Prod.ext rfl (doneOf_single oracle k).symm
  unfold Plans
  cases hanswer : (oracle k).answer with
  | ok b =>
    rw [hanswer] at hk
    have hrun : (call k >>= fun _ => pure a : CallM κ β ε α) oracle = (.ok a, doneOf oracle [k]) := by
      rw [bind_of_ok hk]
      exact Prod.ext rfl (List.append_nil _)
    rw [rescue_of_ok hrun]
    exact ⟨List.prefix_refl _, fun c hc => ⟨rfl, .inl ⟨⟨b, rfl⟩, (Except.ok.inj hc).symm⟩⟩⟩
  | error e =>
    rw [hanswer] at hk
    rw [rescue_of_error (bind_of_error hk), hf e, List.append_nil]
    exact ⟨List.prefix_refl _, fun c hc => ⟨rfl, .inr ⟨e, rfl, hc⟩⟩⟩

theorem Plans.mem (h : Plans oracle m calls P) {k : κ} (hk : k ∈ (m oracle).2) : k ∈ calls :=
  (List.mem_filter.mp (h.1.subset hk)).1

end Plans

theorem observe_foldl {σ : Type u} {ω : Type v} (observe : σ → ω) {apply : σ → κ → σ} {writes : κ → Bool} {w : ω}
    {calls : List κ} (hwrites : ∀ k ∈ calls, writes k = true → ∀ s, observe (apply s k) = w)
    (hleaves : ∀ k ∈ calls, writes k = false → ∀ s, observe (apply s k) = observe s) (s : σ) :
    observe (calls.foldl apply s) = if calls.any writes then w else observe s := by
  induction calls generalizing s with
  | nil => rfl
  | cons k calls ih =>
    have hrest := ih (fun k' hk' => hwrites k' (List.mem_cons_of_mem k hk'))
      (fun k' hk' => hleaves k' (List.mem_cons_of_mem k hk')) (apply s k)
    rw [List.foldl_cons, hrest, List.any_cons]
    cases hk : writes k with
    | true => rw [hwrites k List.mem_cons_self hk s, ite_self, Bool.true_or, if_pos rfl]
    | false => rw [hleaves k List.mem_cons_self hk s, Bool.false_or]

end CallM

end Lib
