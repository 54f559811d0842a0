/-!
# Failing requests

A request is answered by an error before its first commit, or it commits. The errors are the exceptions
of the endpoints: HTTP errors with the fields their bodies carry, the `ValueError`s of the services, and
the constraint violations of the database.

* `require`, `orFail` : the two ways an endpoint gives up;
* `Response` : the states a request commits, and how it ends;
* `bind_eq_ok`, `require_eq_ok`, `orFail_eq_ok` : what a request that did not give up went through.
-/

namespace SiloForge

/-- The body of an HTTP error: its text, its machine-readable code and the ids it names. -/
structure Detail where
  message : String := ""
  code : Option String := none
  ids : List (String × List Nat) := []
  keys : List (String × List String) := []
  deriving DecidableEq

inductive Failure where
  | http (statusCode : Nat) (detail : Detail)
  | valueError (detail : String)
  | integrityError
  deriving DecidableEq

namespace Failure

def status (statusCode : Nat) : Failure := .http statusCode {}

def text (statusCode : Nat) (message : String) : Failure := .http statusCode { message }

/-- How the run endpoints answer a `ValueError` of the run service. -/
def ofValueError : Failure → Failure
  | .valueError detail =>
    if "not found".toList.isSuffixOf detail.toList then .text 404 detail else .text 422 detail
  | e => e

end Failure

/-- Give up unless `p`. -/
def require {ε : Type} (p : Prop) [Decidable p] (e : ε) : Except ε Unit :=
  if p then .ok () else .error e

def orFail {ε α : Type} (o : Option α) (e : ε) : Except ε α :=
  match o with
  | some a => .ok a
  | none => .error e

/-- What a request did: the states it committed, oldest first, and how it ended. -/
structure Response (σ : Type) where
  commits : List σ
  failure : Option Failure := none

namespace Response
variable {σ : Type}

/-- A request that gives up before its first commit, or goes through. -/
def ofExcept : Except Failure (List σ) → Response σ
  | .ok commits => { commits }
  | .error e => { commits := [], failure := some e }

def single (x : Except Failure σ) : Response σ := ofExcept (x.map fun s => [s])

/-- A request with a second commit, which may fail on its own. -/
def both (x : Except Failure σ) (k : σ → Except Failure σ) : Response σ :=
  match x with
  | .error e => { commits := [], failure := some e }
  | .ok s =>
    match k s with
    | .error e => { commits := [s], failure := some e }
    | .ok s' => { commits := [s, s'] }

theorem mem_ofExcept {x : Except Failure (List σ)} {t : σ} :
    t ∈ (ofExcept x).commits ↔ ∃ l, x = .ok l ∧ t ∈ l := by
  cases x <;> simp [ofExcept]

theorem mem_single {x : Except Failure σ} {t : σ} : t ∈ (single x).commits ↔ x = .ok t := by
  cases x <;> simp [single, ofExcept, Except.map, eq_comm]

theorem mem_both {x : Except Failure σ} {k : σ → Except Failure σ} {t : σ} :
    t ∈ (both x k).commits ↔ ∃ s, x = .ok s ∧ (t = s ∨ k s = .ok t) := by
  cases x with
  | error e => simp [both]
  | ok s => cases h : k s <;> simp [both, h, eq_comm]

end Response

section Inversion
variable {ε α β : Type}

variable {x : Except ε α}

theorem bind_eq_ok {f : α → Except ε β} {b : β} : (x >>= f) = .ok b ↔ ∃ a, x = .ok a ∧ f a = .ok b := by
  cases x with
  | error e => simp [bind, Except.bind]
  | ok a => simp [bind, Except.bind]

theorem then_eq_ok {x : Except ε Unit} {y : Except ε β} {b : β} :
    (x >>= fun _ => y) = .ok b ↔ x = .ok () ∧ y = .ok b := by
  cases x <;> simp [bind, Except.bind]

theorem pure_eq_ok {a b : α} : (pure a : Except ε α) = .ok b ↔ a = b := by
  simp [pure, Except.pure]

theorem map_eq_ok {f : α → β} {b : β} : x.map f = .ok b ↔ ∃ a, x = .ok a ∧ f a = b := by
  cases x <;> simp [Except.map]

theorem throw_eq_ok {e : ε} {b : α} : (throw e : Except ε α) = .ok b ↔ False := by
  simp [throw, throwThe, MonadExceptOf.throw]

theorem require_eq_ok {p : Prop} [Decidable p] {e : ε} {u : Unit} : require p e = .ok u ↔ p := by
  by_cases h : p <;> simp [require, h]

theorem orFail_eq_ok {o : Option α} {e : ε} {a : α} : orFail o e = .ok a ↔ o = some a := by
  cases o <;> simp [orFail]

theorem mapError_eq_ok {δ : Type} {f : ε → δ} {a : α} : x.mapError f = .ok a ↔ x = .ok a := by
  cases x with
  | error e => exact iff_of_false (by rintro ⟨⟩) (by rintro ⟨⟩)
  | ok b =>
    show (Except.ok b : Except δ α) = .ok a ↔ _
    simp

theorem toOption_eq_some {a : α} : x.toOption = some a ↔ x = .ok a := by
  cases x <;> simp [Except.toOption]

theorem forM_eq_ok {f : α → Except ε Unit} {as : List α} {u : Unit} :
    as.forM f = .ok u ↔ ∀ a ∈ as, f a = .ok () := by
  induction as with
  | nil => simp [pure_eq_ok]
  | cons a as ih =>
    change (f a >>= fun _ => as.forM f) = .ok u ↔ _
    rw [then_eq_ok, ih, List.forall_mem_cons]

end Inversion

end SiloForge
