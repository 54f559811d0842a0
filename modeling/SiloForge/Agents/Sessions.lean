import SiloForge.Agents.Outcomes

/-!
# Requests about agents side by side

Each request reads and checks committed rows and makes its commits later, one at a time, when other requests may have
committed.

* `AgentSessions`, `agentSessionsMachine` : any number of requests, each in several steps;
* `AgentStep`, `agentStep_of_mem` : what an action does;
* `agentSessions_serial` : requests that do not overlap are those of `agentMachine`.
-/

namespace SiloForge

open Lib

/-! ## Requests in several steps -/

/-- A request between its steps: the rows it read, and the commits it has still to make. -/
structure OpenRequest where
  id : Nat
  seen : AgentDb
  request : AgentRequest
  writes : List AgentWrite

instance : Keyed OpenRequest Nat := ⟨fun p => p.id⟩

structure AgentSessions where
  db : AgentDb
  opened : Table OpenRequest := ∅

inductive RequestAction where
  | check (id : Nat) (request : AgentRequest)
  | commit (id : Nat)
  | giveUp (id : Nat)

namespace AgentSessions

def close (s : AgentSessions) (id : Nat) : AgentSessions :=
  { s with opened := s.opened.deleteWhere fun p => p.id = id }

def commitNext (s : AgentSessions) (p : OpenRequest) : AgentSessions :=
  match p.writes with
  | [] => s.close p.id
  | write :: writes =>
    match write.apply s.db with
    | .error _ => s.close p.id
    | .ok db => { db, opened := s.opened.put { p with writes } }

def step (casing : LetterCase) (s : AgentSessions) : RequestAction → Option AgentSessions
  | .check id request =>
    match checkAgentRequest casing s.db request with
    | .error _ => none
    | .ok writes => (s.opened.insert? { id, seen := s.db, request, writes }).map fun opened => { s with opened }
  | .commit id => (s.opened.get? id).map s.commitNext
  | .giveUp id => some (s.close id)

end AgentSessions

def agentSessionsMachine (casing : LetterCase) : Machine AgentSessions RequestAction where
  commits s action := (s.step casing action).toList

variable {casing : LetterCase} {s t : AgentSessions}

variable {action : RequestAction}

theorem mem_agentSessions :
    t ∈ (agentSessionsMachine casing).commits s action ↔ s.step casing action = some t := Option.mem_toList

theorem next_of_agentStep (h : s.step casing action = some t) : (agentSessionsMachine casing).next s action = t :=
  Machine.next_of_commits_eq_singleton _ (congrArg Option.toList h)

/-- What an action does: a request is opened, makes a commit, or is over. -/
inductive AgentStep (casing : LetterCase) (s : AgentSessions) : RequestAction → AgentSessions → Prop
  | opened {id : Nat} {request : AgentRequest} (writes : List AgentWrite) (opened : Table OpenRequest)
      (checked : checkAgentRequest casing s.db request = .ok writes)
      (inserted : s.opened.insert? { id, seen := s.db, request, writes } = some opened) :
      AgentStep casing s (.check id request) { s with opened }
  | committed {id : Nat} (p : OpenRequest) (write : AgentWrite) (writes : List AgentWrite) (db : AgentDb)
      (found : s.opened.get? id = some p) (next : p.writes = write :: writes) (applied : write.apply s.db = .ok db) :
      AgentStep casing s (.commit id) { db, opened := s.opened.put { p with writes } }
  | failed {id : Nat} (p : OpenRequest) (found : s.opened.get? id = some p)
      (fails : ∀ write ∈ p.writes.head?, (write.apply s.db).isOk = false) :
      AgentStep casing s (.commit id) (s.close id)
  | gaveUp {id : Nat} : AgentStep casing s (.giveUp id) (s.close id)

theorem agentStep_of_mem (ht : t ∈ (agentSessionsMachine casing).commits s action) : AgentStep casing s action t := by
  rw [mem_agentSessions] at ht
  cases action with
  | check id request =>
    rw [AgentSessions.step] at ht
    split at ht
    · cases ht
    · rename_i writes hchecked
      obtain ⟨opened, hinserted, rfl⟩ := Option.map_eq_some_iff.mp ht
      exact .opened writes opened hchecked hinserted
  | commit id =>
    obtain ⟨p, hfound, rfl⟩ := Option.map_eq_some_iff.mp ht
    obtain rfl : p.id = id := Table.key_of_get? hfound
    unfold AgentSessions.commitNext
    split
    · rename_i hnext
      exact .failed p hfound (by simp [hnext])
    · rename_i write writes hnext
      split
      · rename_i e happlied
        refine .failed p hfound ?_
        rw [hnext, List.head?_cons]
        rintro _ ⟨⟩
        rw [happlied]
        rfl
      · rename_i db happlied
        exact .committed p write writes db hfound hnext happlied
  | giveUp id =>
    cases ht
    exact .gaveUp

/-! ## Requests that do not overlap -/

theorem close_alone (db : AgentDb) (p : OpenRequest) :
    AgentSessions.close { db, opened := ⟨[p], List.nodup_singleton _⟩ } p.id = { db } := by
  unfold AgentSessions.close
  congr 1
  exact Table.ext_rows (by simp [Table.deleteWhere])

theorem run_of_gone (db : AgentDb) (id n : Nat) :
    (agentSessionsMachine casing).run { db } (List.replicate n (.commit id) ++ [.giveUp id]) = { db } := by
  induction n with
  | zero => rfl
  | succ n ih =>
    rw [List.replicate_succ, List.cons_append, Machine.run_cons]
    exact ih

theorem run_commits (p : OpenRequest) (writes : List AgentWrite) (db : AgentDb) :
    (agentSessionsMachine casing).run { db, opened := ⟨[{ p with writes }], List.nodup_singleton _⟩ }
      (List.replicate writes.length (.commit p.id) ++ [.giveUp p.id]) = { db := (commitWrites db writes).getLastD db } := by
  induction writes generalizing db with
  | nil => exact close_alone db { p with writes := [] }
  | cons write writes ih =>
    let s₀ : AgentSessions := { db, opened := ⟨[{ p with writes := write :: writes }], List.nodup_singleton _⟩ }
    have hget : s₀.opened.get? p.id = some { p with writes := write :: writes } :=
      Table.get?_eq_some.mpr ⟨List.mem_singleton.mpr rfl, rfl⟩
    have hstep : s₀.step casing (.commit p.id) = some (s₀.commitNext { p with writes := write :: writes }) := by
      rw [AgentSessions.step, hget, Option.map_some]
    rw [List.length_cons, List.replicate_succ, List.cons_append, Machine.run_cons, next_of_agentStep hstep,
      AgentSessions.commitNext]
    dsimp only
    cases happlied : write.apply db with
    | error e =>
      have hnone : commitWrites db (write :: writes) = [] := by rw [commitWrites, happlied]
      rw [hnone]
      dsimp only
      rw [close_alone db { p with writes := write :: writes }]
      exact run_of_gone db p.id writes.length
    | ok db' =>
      have hput : s₀.opened.put { p with writes } = ⟨[{ p with writes }], List.nodup_singleton _⟩ :=
        Table.ext_rows (by simp [Table.put, Table.updateWhere, s₀, key])
      dsimp only
      rw [hput, ih, commitWrites, happlied, List.getLastD_cons]

/-- The steps of a request with nothing in between: it is checked, makes its commits, and is over. -/
def wholeAgentRequest (casing : LetterCase) (s : AgentSessions) (request : AgentRequest) : List RequestAction :=
  let commits := match checkAgentRequest casing s.db request with
    | .error _ => 0
    | .ok writes => writes.length
  .check 0 request :: (List.replicate commits (.commit 0) ++ [.giveUp 0])

theorem run_wholeAgentRequest (db : AgentDb) (request : AgentRequest) :
    (agentSessionsMachine casing).run { db } (wholeAgentRequest casing { db } request) =
      { db := (agentMachine casing).next db request } := by
  have hstep : AgentSessions.step casing { db } (.check 0 request) =
      match checkAgentRequest casing db request with
      | .error _ => none
      | .ok writes => some { db, opened := ⟨[{ id := 0, seen := db, request, writes }], List.nodup_singleton _⟩ } := rfl
  have hanswer : (agentMachine casing).next db request =
      (match checkAgentRequest casing db request with
        | .error _ => []
        | .ok writes => commitWrites db writes).getLastD db := rfl
  rw [wholeAgentRequest, Machine.run_cons, hanswer]
  dsimp only
  cases hchecked : checkAgentRequest casing db request with
  | error e =>
    rw [hchecked] at hstep
    rw [Machine.next_of_commits_eq_nil _ (congrArg Option.toList hstep)]
    rfl
  | ok writes =>
    rw [hchecked] at hstep
    rw [next_of_agentStep hstep]
    exact run_commits { id := 0, seen := db, request, writes } writes db

/-- **Requests that do not overlap** are those of `agentMachine`. -/
theorem agentSessions_serial (db : AgentDb) (requests : List AgentRequest) :
    (agentSessionsMachine casing).run { db }
        ((agentSessionsMachine casing).serial (wholeAgentRequest casing) { db } requests) =
      { db := (agentMachine casing).run db requests } := by
  refine Machine.run_serial (fun (s : AgentSessions) db => s = { db }) ?_ rfl requests
  rintro _ db request rfl
  exact run_wholeAgentRequest db request

end SiloForge
