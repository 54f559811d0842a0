import SiloForge.Lib.Machine
import Mathlib.Data.List.Basic

/-!
# Optimistic deletes in a cached list

A delete takes its item out of the cached list when it starts, and keeps the list as it was. When it fails, the list it kept
is put back. Deletes start, succeed and fail in any order; beside them stands what was deleted when each of them started.

* `deleteMachine` : the cache, and the mutations on it;
* `shown` : the list without some items, and `DeletesKept` : the cache shows what no delete took;
* `Undisturbed` : a delete that fails puts back the right list, and none takes the total below zero;
* `deletesKept_iff` : the runs that show the right list throughout are those of undisturbed steps.
-/

namespace SiloForge.Frontend

open Lib

/-! ## The callbacks of a mutation -/

structure ListPayload (α : Type) where
  items : List α
  total : Int
  deriving DecidableEq

/-- A response in the cache, with its list if there is one: what `getListPayload` reads. -/
structure ListResponse (α : Type) where
  status : Nat
  payload : Option (ListPayload α)
  deriving DecidableEq

structure OptimisticListDeleteContext (α : Type) where
  previous : Option (ListResponse α)
  deriving DecidableEq

section Callbacks
variable {α : Type} (getItemId : α → String)

def ListPayload.without (payload : ListPayload α) (deleteId : String) : ListPayload α :=
  let nextItems := payload.items.filter fun item => getItemId item ≠ deleteId
  let removedCount : Int := payload.items.length - nextItems.length
  { items := nextItems, total := max 0 (payload.total - removedCount) }

/-- The cache once `onMutate` has written it; what it returns is the cache before. -/
def onMutate (deleteId : String) : Option (ListResponse α) → Option (ListResponse α)
  | none => none
  | some previous =>
    if previous.status = 200 then
      match previous.payload with
      | none => some previous
      | some payload => some { previous with payload := some (payload.without getItemId deleteId) }
    else some previous

/-- The cache once `onError` has written it. -/
def onError (context : OptimisticListDeleteContext α) (cache : Option (ListResponse α)) : Option (ListResponse α) :=
  match context.previous with
  | some previous => some previous
  | none => cache

end Callbacks

/-! ## Mutations in flight -/

inductive MutationPhase where
  | pending | succeeded | failed
  deriving DecidableEq

structure DeleteMutation (α : Type) where
  deleteId : String
  context : OptimisticListDeleteContext α
  phase : MutationPhase := .pending
  deriving DecidableEq

/-- The cache of a query, and the mutations that were started on it, oldest first. -/
structure DeleteState (α : Type) where
  cache : Option (ListResponse α)
  mutations : List (DeleteMutation α) := []
  deriving DecidableEq

/-- A mutation starts, its queries cancelled; one that is pending succeeds or fails. -/
inductive DeleteAction where
  | start (deleteId : String)
  | succeed (i : Nat)
  | fail (i : Nat)

def DeleteState.pending? {α : Type} (s : DeleteState α) (i : Nat) : Option (DeleteMutation α) :=
  s.mutations[i]?.filter fun m => m.phase = .pending

def DeleteState.settle {α : Type} (s : DeleteState α) (i : Nat) (m : DeleteMutation α) (phase : MutationPhase) :
    List (DeleteMutation α) :=
  s.mutations.set i { m with phase }

section Runs
variable {α : Type} (getItemId : α → String)

def deleteMachine : Machine (DeleteState α) DeleteAction where
  commits s
    | .start deleteId =>
      [{ cache := onMutate getItemId deleteId s.cache
         mutations := s.mutations ++ [{ deleteId, context := { previous := s.cache } }] }]
    | .succeed i =>
      match s.pending? i with
      | none => []
      | some m => [{ s with mutations := s.settle i m .succeeded }]
    | .fail i =>
      match s.pending? i with
      | none => []
      | some m => [{ cache := onError m.context s.cache, mutations := s.settle i m .failed }]

/-- The ids whose deletion is pending or succeeded. -/
def gone (mutations : List (DeleteMutation α)) : List String :=
  (mutations.filter fun m => m.phase ≠ .failed).map (·.deleteId)

/-- For each mutation, the ids whose deletion was pending or succeeded when it started. -/
abbrev DeleteNotes := List (List String)

def deleteNote (s : DeleteState α) (a : DeleteAction) (_ : DeleteState α) (notes : DeleteNotes) : DeleteNotes :=
  match a with
  | .start _ => notes ++ [gone s.mutations]
  | .succeed _ | .fail _ => notes

abbrev watchedDeletes : Machine (DeleteState α × DeleteNotes) DeleteAction :=
  (deleteMachine getItemId).watch deleteNote

/-! ## The list that is to be seen -/

def remaining (items : List α) (ids : List String) : List α := items.filter fun item => getItemId item ∉ ids

def removedCount (items : List α) (ids : List String) : Int := items.length - (remaining getItemId items ids).length

/-- A list without the items with some ids, its total less by their number. -/
def shown (initial : ListPayload α) (ids : List String) : ListPayload α where
  items := remaining getItemId initial.items ids
  total := initial.total - removedCount getItemId initial.items ids

def listed (payload : ListPayload α) : ListResponse α := { status := 200, payload := some payload }

/-- **Deletes are kept**: the cache holds the initial list without the items whose deletion is pending or succeeded. -/
def DeletesKept (initial : ListPayload α) (s : DeleteState α × DeleteNotes) : Prop :=
  s.1.cache = some (listed (shown getItemId initial (gone s.1.mutations)))

instance [DecidableEq α] (initial : ListPayload α) (s : DeleteState α × DeleteNotes) :
    Decidable (DeletesKept getItemId initial s) :=
  inferInstanceAs (Decidable (_ = _))

/-- A mutation that fails finds deleted, besides its own item, what was deleted when it started; and one that starts takes
no more items out of the list than its total counts. -/
def Undisturbed (initial : ListPayload α) (s : DeleteState α × DeleteNotes) : DeleteAction → Prop
  | .start deleteId => removedCount getItemId initial.items (gone s.1.mutations ++ [deleteId]) ≤ initial.total
  | .succeed _ => True
  | .fail i => ∀ m ∈ s.1.pending? i, ∀ ids ∈ s.2[i]?, ∀ item ∈ initial.items,
      (getItemId item ∈ ids ↔ getItemId item ∈ gone (s.1.settle i m .failed))

/-! ## Lists without some items -/

variable {getItemId}

theorem remaining_remaining (items : List α) (ids : List String) (deleteId : String) :
    (remaining getItemId items ids).filter (fun item => getItemId item ≠ deleteId) =
      remaining getItemId items (ids ++ [deleteId]) := by
  unfold remaining
  rw [List.filter_filter]
  refine List.filter_congr fun item _ => ?_
  simp [and_comm]

variable {ids : List String} {m : DeleteMutation α}

theorem remaining_eq_iff {items : List α} {ids' : List String} :
    remaining getItemId items ids = remaining getItemId items ids' ↔
      ∀ item ∈ items, getItemId item ∈ ids ↔ getItemId item ∈ ids' := by
  constructor
  · intro h item hitem
    have hmem : item ∈ remaining getItemId items ids ↔ item ∈ remaining getItemId items ids' := by rw [h]
    simp only [remaining, List.mem_filter, hitem, true_and, decide_eq_true_eq] at hmem
    exact not_iff_not.mp hmem
  · intro h
    exact List.filter_congr fun item hitem => decide_eq_decide.mpr (not_congr (h item hitem))

theorem shown_eq_iff {initial : ListPayload α} {ids' : List String} :
    shown getItemId initial ids = shown getItemId initial ids' ↔
      ∀ item ∈ initial.items, getItemId item ∈ ids ↔ getItemId item ∈ ids' := by
  rw [← remaining_eq_iff]
  constructor
  · exact congrArg ListPayload.items
  · intro h
    unfold shown removedCount
    rw [h]

theorem without_shown_iff {initial : ListPayload α} {deleteId : String} :
    (shown getItemId initial ids).without getItemId deleteId = shown getItemId initial (ids ++ [deleteId]) ↔
      removedCount getItemId initial.items (ids ++ [deleteId]) ≤ initial.total := by
  have hitems : ((shown getItemId initial ids).without getItemId deleteId).items =
      (shown getItemId initial (ids ++ [deleteId])).items := remaining_remaining initial.items ids deleteId
  have htotal : ((shown getItemId initial ids).without getItemId deleteId).total =
      max 0 (initial.total - removedCount getItemId initial.items (ids ++ [deleteId])) := by
    unfold ListPayload.without shown
    dsimp only
    rw [remaining_remaining]
    congr 1
    unfold removedCount
    omega
  constructor
  · intro h
    have hmax : max 0 (initial.total - removedCount getItemId initial.items (ids ++ [deleteId])) =
        initial.total - removedCount getItemId initial.items (ids ++ [deleteId]) :=
      htotal.symm.trans (congrArg ListPayload.total h)
    omega
  · intro h
    have hpayload : ∀ p q : ListPayload α, p.items = q.items → p.total = q.total → p = q := by
      rintro ⟨items, total⟩ ⟨items', total'⟩ rfl rfl
      rfl
    refine hpayload _ _ hitems (htotal.trans ?_)
    show _ = initial.total - removedCount getItemId initial.items (ids ++ [deleteId])
    omega

/-! ## One step -/

theorem gone_append (mutations : List (DeleteMutation α)) (deleteId : String)
    (context : OptimisticListDeleteContext α) :
    gone (mutations ++ [{ deleteId := deleteId, context := context }]) = gone mutations ++ [deleteId] := by
  simp [gone]

theorem gone_set_succeeded {mutations : List (DeleteMutation α)} {i : Nat} (hm : mutations[i]? = some m)
    (hpending : m.phase = .pending) :
    gone (mutations.set i { m with phase := .succeeded }) = gone mutations := by
  induction mutations generalizing i with
  | nil => rfl
  | cons first rest ih =>
    cases i with
    | zero =>
      obtain rfl : first = m := by simpa using hm
      simp [gone, hpending]
    | succ i =>
      have hrest : gone (rest.set i { m with phase := .succeeded }) = gone rest := ih (by simpa using hm)
      rw [List.set_cons_succ]
      unfold gone at hrest ⊢
      rw [List.filter_cons, List.filter_cons]
      split
      · rw [List.map_cons, List.map_cons, hrest]
      · exact hrest

theorem pending?_eq_some {s : DeleteState α} {i : Nat} :
    s.pending? i = some m ↔ s.mutations[i]? = some m ∧ m.phase = .pending := by
  simp [DeleteState.pending?, Option.filter_eq_some_iff]

/-- The cache shows the right list, and every mutation keeps the list that was right when it started. -/
structure DeletesInv (getItemId : α → String) (initial : ListPayload α) (s : DeleteState α × DeleteNotes) : Prop where
  kept : DeletesKept getItemId initial s
  noted : s.2.length = s.1.mutations.length
  contexts : ∀ (i : Nat) (m : DeleteMutation α) (ids : List String), s.1.mutations[i]? = some m → s.2[i]? = some ids →
    m.context.previous = some (listed (shown getItemId initial ids))

variable {initial : ListPayload α} {s : DeleteState α × DeleteNotes}

theorem DeletesInv.exists_note (h : DeletesInv getItemId initial s) {i : Nat} (hm : s.1.mutations[i]? = some m) :
    ∃ ids, s.2[i]? = some ids := by
  obtain ⟨hlt, -⟩ := List.getElem?_eq_some_iff.mp hm
  exact ⟨s.2.get ⟨i, h.noted ▸ hlt⟩, List.getElem?_eq_getElem _⟩

theorem onMutate_listed (payload : ListPayload α) (deleteId : String) :
    onMutate getItemId deleteId (some (listed payload)) = some (listed (payload.without getItemId deleteId)) := rfl

/-- **A step** shows the right list exactly when it is undisturbed. -/
theorem DeletesInv.kept_step_iff (h : DeletesInv getItemId initial s) (a : DeleteAction) :
    (∀ t ∈ (watchedDeletes getItemId).commits s a, DeletesKept getItemId initial t) ↔
      Undisturbed getItemId initial s a := by
  have hlisted : ∀ p q : ListPayload α, some (listed p) = some (listed q) ↔ p = q := by
    intro p q
    simp [listed]
  cases a with
  | start deleteId =>
    refine List.forall_mem_singleton.trans ?_
    show onMutate getItemId deleteId s.1.cache = _ ↔ _
    rw [show s.1.cache = _ from h.kept, onMutate_listed, gone_append, hlisted]
    exact without_shown_iff
  | succeed i =>
    refine iff_of_true (fun t ht => ?_) trivial
    obtain ⟨ht, -⟩ := Machine.mem_watch.mp ht
    change t.1 ∈ (match s.1.pending? i with | none => [] | some m => _) at ht
    split at ht
    · cases ht
    · rename_i m hm
      obtain ⟨hget, hpending⟩ := pending?_eq_some.mp hm
      unfold DeletesKept
      rw [List.mem_singleton.mp ht]
      dsimp only [DeleteState.settle]
      rw [gone_set_succeeded hget hpending]
      exact h.kept
  | fail i =>
    cases hm : s.1.pending? i with
    | none =>
      refine iff_of_true (fun t ht => ?_) (fun m hmem => ?_)
      · obtain ⟨ht, -⟩ := Machine.mem_watch.mp ht
        change t.1 ∈ (match s.1.pending? i with | none => [] | some m => _) at ht
        rw [hm] at ht
        cases ht
      · rw [hm] at hmem
        cases hmem
    | some m =>
      obtain ⟨hget, -⟩ := pending?_eq_some.mp hm
      obtain ⟨ids, hids⟩ := h.exists_note hget
      have hcommits : (watchedDeletes getItemId).commits s (.fail i) =
          [({ cache := onError m.context s.1.cache, mutations := s.1.settle i m .failed }, s.2)] := by
        show ((match s.1.pending? i with | none => [] | some m => _).map _) = _
        rw [hm]
        rfl
      have hundisturbed : Undisturbed getItemId initial s (.fail i) ↔ ∀ item ∈ initial.items,
          (getItemId item ∈ ids ↔ getItemId item ∈ gone (s.1.settle i m .failed)) := by
        show (∀ m ∈ s.1.pending? i, ∀ ids ∈ s.2[i]?, _) ↔ _
        rw [hm, hids]
        simp only [Option.mem_some_iff, forall_eq']
      rw [hcommits, hundisturbed, ← shown_eq_iff]
      refine List.forall_mem_singleton.trans ?_
      show onError m.context s.1.cache = _ ↔ _
      unfold onError
      rw [h.contexts i m ids hget hids]
      exact hlisted _ _

theorem DeletesInv.step (h : DeletesInv getItemId initial s) {a : DeleteAction}
    (hundisturbed : Undisturbed getItemId initial s a) :
    ∀ t ∈ (watchedDeletes getItemId).commits s a, DeletesInv getItemId initial t := by
  intro t ht
  have hkept := (h.kept_step_iff a).mpr hundisturbed t ht
  obtain ⟨hcommit, hnotes⟩ := Machine.mem_watch.mp ht
  have hsettled : ∀ i m phase, s.1.pending? i = some m → t.1.mutations = s.1.settle i m phase → t.2 = s.2 →
      DeletesInv getItemId initial t := by
    intro i m phase hm hmutations hnotes
    obtain ⟨hget, -⟩ := pending?_eq_some.mp hm
    refine ⟨hkept, ?_, fun j m' ids hm' hids => ?_⟩
    · rw [hmutations, hnotes, DeleteState.settle, List.length_set]
      exact h.noted
    · rw [hmutations, DeleteState.settle, List.getElem?_set] at hm'
      rw [hnotes] at hids
      -- the mutation that settles keeps its context
      split at hm'
      · rename_i hij
        subst hij
        split at hm'
        · obtain rfl := Option.some.inj hm'
          exact h.contexts i m ids hget hids
        · cases hm'
      · exact h.contexts j m' ids hm' hids
  cases a with
  | start deleteId =>
    have hstate : t.1.mutations = s.1.mutations ++ [{ deleteId, context := { previous := s.1.cache } }] := by
      rw [List.mem_singleton.mp hcommit]
    change t.2 = s.2 ++ [gone s.1.mutations] at hnotes
    refine ⟨hkept, ?_, fun i m ids hm hids => ?_⟩
    · rw [hstate, hnotes, List.length_append, List.length_append, h.noted]
      rfl
    · rw [hstate] at hm
      rw [hnotes] at hids
      rcases Nat.lt_or_ge i s.1.mutations.length with hlt | hge
      · rw [List.getElem?_append_left hlt] at hm
        rw [List.getElem?_append_left (h.noted ▸ hlt)] at hids
        exact h.contexts i m ids hm hids
      · rw [List.getElem?_append_right hge, List.getElem?_singleton] at hm
        rw [List.getElem?_append_right (h.noted ▸ hge), h.noted, List.getElem?_singleton] at hids
        split at hm
        · rename_i hlast
          rw [if_pos hlast] at hids
          obtain rfl := Option.some.inj hm
          obtain rfl := Option.some.inj hids
          exact h.kept
        · cases hm
  | succeed i =>
    change t.1 ∈ (match s.1.pending? i with | none => [] | some m => _) at hcommit
    split at hcommit
    · cases hcommit
    · rename_i m hm
      exact hsettled i m .succeeded hm (by rw [List.mem_singleton.mp hcommit]) hnotes
  | fail i =>
    change t.1 ∈ (match s.1.pending? i with | none => [] | some m => _) at hcommit
    split at hcommit
    · cases hcommit
    · rename_i m hm
      exact hsettled i m .failed hm (by rw [List.mem_singleton.mp hcommit]) hnotes

/-! ## Runs -/

def cachedList (initial : ListPayload α) : DeleteState α × DeleteNotes := ({ cache := some (listed initial) }, [])

theorem deletesInv_cachedList (getItemId : α → String) (initial : ListPayload α) :
    DeletesInv getItemId initial (cachedList initial) where
  kept := by
    have hall : shown getItemId initial [] = initial := by simp [shown, remaining, removedCount]
    show some (listed initial) = some (listed (shown getItemId initial []))
    rw [hall]
  noted := rfl
  contexts := nofun

/-- **Optimistic deletes** show the right list in every state of a run exactly when all its steps are undisturbed. -/
theorem deletesKept_iff (getItemId : α → String) (initial : ListPayload α) (as : List DeleteAction) :
    (∀ t ∈ (watchedDeletes getItemId).committed (cachedList initial) as, DeletesKept getItemId initial t) ↔
      (watchedDeletes getItemId).Along (Undisturbed getItemId initial) (cachedList initial) as :=
  Machine.forall_committed_iff_along (DeletesInv getItemId initial) (fun _ _ h hP => h.step hP)
    (fun _ a h => h.kept_step_iff a) (deletesInv_cachedList getItemId initial)

end Runs

/-! ## A deleted item that comes back -/

namespace Sample

def threeItems : ListPayload String := { items := ["a", "b", "c"], total := 3 }

def firstFails : List DeleteAction := [.start "a", .start "b", .fail 0]

end Sample

open Frontend.Sample in
/-- The item of the second delete is in the list again, while its deletion is pending. -/
theorem not_deletesKept :
    ¬ ∀ t ∈ (watchedDeletes id).committed (cachedList threeItems) firstFails, DeletesKept id threeItems t := by
  decide

end SiloForge.Frontend
