import SiloForge.Lib.Machine
import SiloForge.Silos.Service

/-!
# Spawn requests

A creation may name a spawn request, which it marks as materialized, and an administrator may set the status of a
request. Both read the request first and write it when they commit; neither looks at the status it has.

* `spawnMachine` : creations and updates that read and write in any order, with the silos made for each request;
* `SpawnFits`, `KeepsCancelled` : one silo a request, materialized where its id is set, and never out of a cancelled one;
* `InTurn` : a creation writes a request that is open, an update neither sets nor clears "materialized";
* `along_spawnFits_iff` : these are the runs in which requests are materialized at most once.
-/

namespace SiloForge

open Lib

/-! ## Updates -/

structure SpawnRequestUpdate where
  status : Option SpawnRequestStatus := none
  priority : Option String := none
  summary : Option String := none
  desiredState : Option Json := none
  sourceTaskTitle : Option String := none
  sourceTaskStatus : Option String := none
  sourceTaskPriority : Option String := none
  deriving DecidableEq

/-- A request with the columns of an update that were given. -/
def SpawnRequestRecord.patch (request : SpawnRequestRecord) (payload : SpawnRequestUpdate) (now : Time) :
    SpawnRequestRecord :=
  { request with
    status := payload.status.getD request.status
    priority := payload.priority.getD request.priority
    summary := payload.summary.or request.summary
    desiredState := payload.desiredState.or request.desiredState
    sourceTaskTitle := payload.sourceTaskTitle.or request.sourceTaskTitle
    sourceTaskStatus := payload.sourceTaskStatus.or request.sourceTaskStatus
    sourceTaskPriority := payload.sourceTaskPriority.or request.sourceTaskPriority
    updatedAt := now }

/-- What `update_silo_spawn_request` reads. -/
def openSpawnUpdate (db : SiloDb) (organizationId requestId : Uuid) : Except Failure SpawnRequestRecord :=
  orFail ((db.spawnRequests.get? requestId).filter (·.organizationId = organizationId))
    (.text 404 "Silo spawn request not found")

/-- What `update_silo_spawn_request` commits. -/
def storeSpawnUpdate (db : SiloDb) (now : Time) (loaded : SpawnRequestRecord) (payload : SpawnRequestUpdate) : SiloDb :=
  { db with spawnRequests := writeSpawnRequest db.spawnRequests loaded (loaded.patch payload now) }

/-! ## Requests side by side -/

/-- What a request between its read and its write is about. -/
inductive SpawnWork where
  | create (o : OpenSilo)
  | update (loaded : SpawnRequestRecord) (payload : SpawnRequestUpdate)

def SpawnWork.loaded? : SpawnWork → Option SpawnRequestRecord
  | .create o => o.spawnRequest
  | .update loaded _ => some loaded

structure SpawnSession where
  id : Nat
  work : SpawnWork

instance : Keyed SpawnSession Nat := ⟨SpawnSession.id⟩

/-- The committed database, the requests between their steps, and the silos made so far with the spawn request each was
made for. -/
structure SpawnState where
  db : SiloDb
  sessions : Table SpawnSession := ∅
  made : List (Uuid × Uuid) := []

inductive SpawnAction where
  | openCreate (session : Nat) (organizationId : Uuid) (payload : SiloCreate)
  | openUpdate (session : Nat) (organizationId requestId : Uuid) (payload : SpawnRequestUpdate)
  | store (session : Nat) (now : Time) (siloId : Uuid)
  | giveUp (session : Nat)

namespace SpawnState

def close (s : SpawnState) (session : Nat) : SpawnState :=
  { s with sessions := s.sessions.deleteWhere fun e => e.id = session }

def opened (s : SpawnState) (session : Nat) (work : Except Failure SpawnWork) : Option SpawnState :=
  match work with
  | .error _ => none
  | .ok work => (s.sessions.insert? { id := session, work }).map fun sessions => { s with sessions }

/-- A request writes; one that fails leaves the database as it is. -/
def stored (s : SpawnState) (now : Time) (siloId : Uuid) : SpawnWork → SpawnState
  | .create o =>
    match storeSilo s.db now siloId o with
    | .error _ => s
    | .ok db => { s with db, made := (o.spawnRequest.map fun r => (r.id, siloId)).toList ++ s.made }
  | .update loaded payload => { s with db := storeSpawnUpdate s.db now loaded payload }

def step (lower : String → String) (s : SpawnState) : SpawnAction → Option SpawnState
  | .openCreate session organizationId payload =>
    s.opened session ((openSilo lower s.db organizationId payload).map .create)
  | .openUpdate session organizationId requestId payload =>
    s.opened session ((openSpawnUpdate s.db organizationId requestId).map fun loaded => .update loaded payload)
  | .store session now siloId => (s.sessions.get? session).map fun e => (s.stored now siloId e.work).close session
  | .giveUp session => some (s.close session)

end SpawnState

def spawnMachine (lower : String → String) : Machine SpawnState SpawnAction where
  commits s action := (s.step lower action).toList

/-! ## At most once -/

/-- No request has two silos, and one is materialized exactly where its silo is set. -/
structure SpawnFits (s : SpawnState) : Prop where
  once : (s.made.map (·.1)).Nodup
  status : ∀ r ∈ s.db.spawnRequests, r.status = .materialized ↔ r.materializedSiloId.isSome = true

/-- No cancelled request becomes materialized. -/
def KeepsCancelled (s t : SpawnState) : Prop :=
  ∀ id r r', s.db.spawnRequests.get? id = some r → r.status = .cancelled →
    t.db.spawnRequests.get? id = some r' → r'.status ≠ .materialized

/-- An action leaves the requests fit. -/
def StepSpawnFits (lower : String → String) (s : SpawnState) (action : SpawnAction) : Prop :=
  ∀ t, s.step lower action = some t → SpawnFits t ∧ KeepsCancelled s t

/-- A write of a request finds it open, or leaves "materialized" as it is. -/
def WorkInTurn (s : SpawnState) (now : Time) (siloId : Uuid) : SpawnWork → Prop
  | .create o => (∃ db, storeSilo s.db now siloId o = .ok db) → ∀ loaded, o.spawnRequest = some loaded →
      ∀ r, s.db.spawnRequests.get? loaded.id = some r → r.status ≠ .materialized ∧ r.status ≠ .cancelled
  | .update loaded payload => ∀ status, payload.status = some status → status ≠ loaded.status →
      ∀ r, s.db.spawnRequests.get? loaded.id = some r → (status = .materialized ↔ r.status = .materialized)

def InTurn (s : SpawnState) : SpawnAction → Prop
  | .store session now siloId => ∀ e, s.sessions.get? session = some e → WorkInTurn s now siloId e.work
  | .openCreate .. | .openUpdate .. | .giveUp _ => True

/-! ## The invariant -/

/-- A request that was read is still there, and materialized if it was. -/
structure LoadedFits (db : SiloDb) (loaded : SpawnRequestRecord) : Prop where
  status : loaded.status = .materialized ↔ loaded.materializedSiloId.isSome = true
  there : ∃ r, db.spawnRequests.get? loaded.id = some r ∧ (loaded.status = .materialized → r.status = .materialized)

structure SpawnInv (s : SpawnState) : Prop extends SpawnFits s where
  recorded : ∀ r ∈ s.db.spawnRequests, r.id ∈ s.made.map (·.1) ↔ r.materializedSiloId.isSome = true
  sessions : ∀ e ∈ s.sessions, ∀ loaded, e.work.loaded? = some loaded → LoadedFits s.db loaded

theorem get?_writeSpawnRequest {requests : Table SpawnRequestRecord} {loaded r : SpawnRequestRecord}
    (hr : requests.get? loaded.id = some r) (new : SpawnRequestRecord) (id : Uuid) :
    (writeSpawnRequest requests loaded new).get? id =
      if id = loaded.id then some (loaded.writeOver new r) else requests.get? id := by
  unfold writeSpawnRequest
  rw [Table.get?_updateWhere]
  by_cases hid : id = loaded.id
  · subst hid
    have hkey : r.id = loaded.id := Table.key_of_get? hr
    rw [if_pos rfl, hr, Option.map_some, if_pos (decide_eq_true hkey)]
  · rw [if_neg hid]
    cases hget : requests.get? id with
    | none => rfl
    | some x =>
      have hkey : x.id = id := Table.key_of_get? hget
      have hne : ¬ x.id = loaded.id := fun h => hid (hkey.symm.trans h)
      rw [Option.map_some, if_neg (by simpa using hne)]

/-! ## One rewritten request -/

section Rewrite

variable {s t : SpawnState} {id : Uuid} {r r' : SpawnRequestRecord}

theorem status_rewrite (hstatus : ∀ x ∈ s.db.spawnRequests, x.status = .materialized ↔ x.materializedSiloId.isSome = true)
    (ht : ∀ k, t.db.spawnRequests.get? k = if k = id then some r' else s.db.spawnRequests.get? k) :
    (∀ x ∈ t.db.spawnRequests, x.status = .materialized ↔ x.materializedSiloId.isSome = true) ↔
      (r'.status = .materialized ↔ r'.materializedSiloId.isSome = true) := by
  constructor
  · intro h
    have hget := ht id
    rw [if_pos rfl] at hget
    exact h r' (Table.mem_of_get? hget)
  · intro h x hx
    have hget := (ht (key x)).symm.trans (Table.get?_key hx)
    split at hget
    · obtain rfl := Option.some.inj hget
      exact h
    · exact hstatus x (Table.mem_of_get? hget)

theorem keepsCancelled_rewrite (hr : s.db.spawnRequests.get? id = some r)
    (ht : ∀ k, t.db.spawnRequests.get? k = if k = id then some r' else s.db.spawnRequests.get? k) :
    KeepsCancelled s t ↔ (r.status = .cancelled → r'.status ≠ .materialized) := by
  constructor
  · intro h hcancelled
    exact h id r r' hr hcancelled ((ht id).trans (if_pos rfl))
  · intro h k x x' hx hcancelled hx'
    rw [ht] at hx'
    split at hx'
    · rename_i hk
      obtain rfl := Option.some.inj hx'
      rw [hk] at hx
      obtain rfl := Option.some.inj (hr.symm.trans hx)
      exact h hcancelled
    · obtain rfl := Option.some.inj (hx.symm.trans hx')
      rw [hcancelled]
      exact SpawnRequestStatus.noConfusion

theorem LoadedFits.rewrite {loaded : SpawnRequestRecord} (h : LoadedFits s.db loaded)
    (hr : s.db.spawnRequests.get? id = some r)
    (ht : ∀ k, t.db.spawnRequests.get? k = if k = id then some r' else s.db.spawnRequests.get? k)
    (hkeeps : r.status = .materialized → r'.status = .materialized) : LoadedFits t.db loaded := by
  refine ⟨h.status, ?_⟩
  obtain ⟨x, hx, hstatus⟩ := h.there
  by_cases hid : loaded.id = id
  · refine ⟨r', (ht _).trans (if_pos hid), fun hm => hkeeps ?_⟩
    rw [hid] at hx
    obtain rfl := Option.some.inj (hr.symm.trans hx)
    exact hstatus hm
  · exact ⟨x, (ht _).trans ((if_neg hid).trans hx), hstatus⟩

theorem recorded_rewrite {made : List Uuid}
    (hrecorded : ∀ x ∈ s.db.spawnRequests, x.id ∈ made ↔ x.materializedSiloId.isSome = true)
    (hid : r'.id = id) (ht : ∀ k, t.db.spawnRequests.get? k = if k = id then some r' else s.db.spawnRequests.get? k)
    {made' : List Uuid} (hmade : ∀ k, k ≠ id → (k ∈ made' ↔ k ∈ made))
    (hnew : id ∈ made' ↔ r'.materializedSiloId.isSome = true) :
    ∀ x ∈ t.db.spawnRequests, x.id ∈ made' ↔ x.materializedSiloId.isSome = true := by
  intro x hx
  have hget := (ht (key x)).symm.trans (Table.get?_key hx)
  split at hget
  · obtain rfl := Option.some.inj hget
    rw [hid]
    exact hnew
  · rename_i hne
    exact (hmade _ hne).trans (hrecorded x (Table.mem_of_get? hget))

end Rewrite

variable {s : SpawnState}

theorem keepsCancelled_of_db_eq {t : SpawnState} (h : t.db.spawnRequests = s.db.spawnRequests) : KeepsCancelled s t := by
  intro id r r' hr hcancelled hr'
  rw [h] at hr'
  obtain rfl := Option.some.inj (hr.symm.trans hr')
  rw [hcancelled]
  exact SpawnRequestStatus.noConfusion

/-! ## Writes -/

/-- A write leaves the requests fit exactly when it is in turn, and the invariant with them. -/
structure FitsInTurn (s : SpawnState) (now : Time) (siloId : Uuid) (work : SpawnWork) : Prop where
  fits : SpawnFits (s.stored now siloId work) ∧ KeepsCancelled s (s.stored now siloId work) ↔
    WorkInTurn s now siloId work
  inv : WorkInTurn s now siloId work → SpawnInv (s.stored now siloId work)

theorem FitsInTurn.unchanged (hinv : SpawnInv s) {now : Time} {siloId : Uuid} {work : SpawnWork}
    (hrequests : (s.stored now siloId work).db.spawnRequests = s.db.spawnRequests)
    (hsessions : (s.stored now siloId work).sessions = s.sessions)
    (hmade : (s.stored now siloId work).made = s.made) (hturn : WorkInTurn s now siloId work) :
    FitsInTurn s now siloId work := by
  have hinv' : SpawnInv (s.stored now siloId work) := by
    constructor
    · constructor
      · rw [hmade]
        exact hinv.once
      · rw [hrequests]
        exact hinv.status
    · rw [hmade, hrequests]
      exact hinv.recorded
    · rw [hsessions]
      intro e he loaded hloaded
      obtain ⟨hstatus, x, hx, hthere⟩ := hinv.sessions e he loaded hloaded
      exact ⟨hstatus, x, by rw [hrequests]; exact hx, hthere⟩
  exact ⟨iff_of_true ⟨hinv'.toSpawnFits, keepsCancelled_of_db_eq hrequests⟩ hturn, fun _ => hinv'⟩

/-- **An update** leaves the requests fit exactly when it neither sets nor clears "materialized". -/
theorem stored_update (hinv : SpawnInv s) {loaded : SpawnRequestRecord} {payload : SpawnRequestUpdate}
    (hloaded : LoadedFits s.db loaded) (now : Time) (siloId : Uuid) :
    FitsInTurn s now siloId (.update loaded payload) := by
  obtain ⟨r, hr, -⟩ := hloaded.there
  have hrid : r.id = loaded.id := Table.key_of_get? hr
  obtain ⟨r', hr'⟩ : ∃ r', r' = loaded.writeOver (loaded.patch payload now) r := ⟨_, rfl⟩
  have ht : ∀ k, (s.stored now siloId (.update loaded payload)).db.spawnRequests.get? k =
      if k = loaded.id then some r' else s.db.spawnRequests.get? k := by
    intro k
    rw [hr']
    exact get?_writeSpawnRequest hr _ k
  have hsilo : r'.materializedSiloId = r.materializedSiloId := by
    rw [hr']
    exact writtenColumn_unchanged _ _
  have hstatus : r'.status = writtenColumn loaded.status (payload.status.getD loaded.status) r.status := by
    rw [hr']
    rfl
  have hold := hinv.status r (Table.mem_of_get? hr)
  -- the silo is left as it is, so the status has to stay on the side of "materialized" it was on
  have hturn : WorkInTurn s now siloId (.update loaded payload) ↔
      (r'.status = .materialized ↔ r.status = .materialized) := by
    rw [hstatus]
    constructor
    · intro h
      cases hgiven : payload.status with
      | none => rw [Option.getD_none, writtenColumn_unchanged]
      | some status =>
        rw [Option.getD_some]
        by_cases hsame : status = loaded.status
        · rw [hsame, writtenColumn_unchanged]
        · rw [writtenColumn_of_ne hsame]
          exact h status hgiven hsame r hr
    · rintro h status hgiven hne x hx
      obtain rfl := Option.some.inj (hr.symm.trans hx)
      rwa [hgiven, Option.getD_some, writtenColumn_of_ne hne] at h
  constructor
  · rw [hturn]
    constructor
    · rintro ⟨hfits, -⟩
      rw [(status_rewrite hinv.status ht).mp hfits.status, hsilo, hold]
    · intro hsame
      refine ⟨⟨hinv.once, (status_rewrite hinv.status ht).mpr ?_⟩, (keepsCancelled_rewrite hr ht).mpr ?_⟩
      · rw [hsame, hsilo, hold]
      · intro hcancelled hm
        rw [hsame.mp hm] at hcancelled
        cases hcancelled
  · intro h
    have hsame := hturn.mp h
    refine ⟨⟨hinv.once, (status_rewrite hinv.status ht).mpr ?_⟩, ?_, ?_⟩
    · rw [hsame, hsilo, hold]
    · refine recorded_rewrite hinv.recorded ?_ ht (fun k _ => Iff.rfl) ?_
      · rw [hr']
        exact hrid
      · rw [hsilo, ← hrid]
        exact hinv.recorded r (Table.mem_of_get? hr)
    · exact fun e he l hl => (hinv.sessions e he l hl).rewrite hr ht hsame.mpr

section Creation
variable {o : OpenSilo} {db : SiloDb} {loaded r : SpawnRequestRecord} {now : Time} {siloId : Uuid}

theorem stored_of_ok (hstore : storeSilo s.db now siloId o = .ok db) : s.stored now siloId (.create o) =
    { s with db, made := (o.spawnRequest.map fun r => (r.id, siloId)).toList ++ s.made } := by
  unfold SpawnState.stored
  dsimp only
  rw [hstore]

theorem materialized_writeOver (hstatus : r.status = .materialized ↔ r.materializedSiloId.isSome = true)
    (hfits : loaded.status = .materialized ↔ loaded.materializedSiloId.isSome = true)
    (hthere : loaded.status = .materialized → r.status = .materialized) (o : OpenSilo) (now : Time) (siloId : Uuid) :
    let written := loaded.writeOver (loaded.materialize (o.silo now siloId) now) r
    written.status = .materialized ∧ written.materializedSiloId.isSome = true := by
  constructor
  · show writtenColumn loaded.status .materialized r.status = .materialized
    by_cases hsame : SpawnRequestStatus.materialized = loaded.status
    · rw [← hsame, writtenColumn_unchanged]
      exact hthere hsame.symm
    · exact writtenColumn_of_ne hsame _
  · show (writtenColumn loaded.materializedSiloId (some siloId) r.materializedSiloId).isSome = true
    by_cases hsame : some siloId = loaded.materializedSiloId
    · rw [← hsame, writtenColumn_unchanged]
      have hloaded : loaded.status = .materialized := hfits.mpr (by rw [← hsame]; rfl)
      exact hstatus.mp (hthere hloaded)
    · rw [writtenColumn_of_ne hsame]
      rfl

theorem workInTurn_create (hstore : storeSilo s.db now siloId o = .ok db) (hspawn : o.spawnRequest = some loaded)
    (hr : s.db.spawnRequests.get? loaded.id = some r) :
    WorkInTurn s now siloId (.create o) ↔ r.status ≠ .materialized ∧ r.status ≠ .cancelled := by
  constructor
  · intro h
    exact h ⟨db, hstore⟩ loaded hspawn r hr
  · rintro h - l hl x hx
    obtain rfl := Option.some.inj (hspawn.symm.trans hl)
    obtain rfl := Option.some.inj (hr.symm.trans hx)
    exact h

/-- A creation that marks a request is in turn where the request is open. -/
theorem stored_create_marked (hinv : SpawnInv s) (hstore : storeSilo s.db now siloId o = .ok db)
    (hspawn : o.spawnRequest = some loaded) (hfits : LoadedFits s.db loaded) :
    FitsInTurn s now siloId (.create o) := by
  obtain ⟨r, hr, hthere⟩ := hfits.there
  have hrid : r.id = loaded.id := Table.key_of_get? hr
  have hrmem := Table.mem_of_get? hr
  have hresult := stored_of_ok hstore
  rw [hspawn] at hresult
  obtain ⟨-, -, -, -, hrequests⟩ := storeSilo_eq_ok hstore
  rw [hspawn] at hrequests
  obtain ⟨r', hr'⟩ : ∃ r', r' = loaded.writeOver (loaded.materialize (o.silo now siloId) now) r := ⟨_, rfl⟩
  obtain ⟨hstatus, hsilo⟩ := materialized_writeOver (hinv.status r hrmem) hfits.status hthere o now siloId
  rw [← hr'] at hstatus hsilo
  have ht : ∀ k, (s.stored now siloId (.create o)).db.spawnRequests.get? k =
      if k = loaded.id then some r' else s.db.spawnRequests.get? k := by
    intro k
    rw [hresult, hr']
    dsimp only
    rw [hrequests]
    exact get?_writeSpawnRequest hr _ k
  have hmade : (s.stored now siloId (.create o)).made = (loaded.id, siloId) :: s.made := by
    rw [hresult]
    rfl
  have hsessions : (s.stored now siloId (.create o)).sessions = s.sessions := by
    rw [hresult]
  have hfresh : loaded.id ∉ s.made.map (·.1) ↔ r.status ≠ .materialized := by
    rw [← hrid, hinv.recorded r hrmem, ← hinv.status r hrmem]
  have honce : ((s.stored now siloId (.create o)).made.map (·.1)).Nodup ↔ r.status ≠ .materialized := by
    rw [hmade, List.map_cons, List.nodup_cons, hfresh, and_iff_left hinv.once]
  have hstatuses := (status_rewrite hinv.status ht).mpr (iff_of_true hstatus hsilo)
  have hcancelled : KeepsCancelled s (s.stored now siloId (.create o)) ↔ r.status ≠ .cancelled := by
    rw [keepsCancelled_rewrite hr ht]
    exact ⟨fun h hc => h hc hstatus, fun h hc => absurd hc h⟩
  constructor
  · rw [workInTurn_create hstore hspawn hr, hcancelled, ← honce]
    exact and_congr_left' ⟨fun h => h.once, fun h => ⟨h, hstatuses⟩⟩
  · intro h
    obtain ⟨hopen, -⟩ := (workInTurn_create hstore hspawn hr).mp h
    refine ⟨⟨honce.mpr hopen, hstatuses⟩, ?_, ?_⟩
    · refine recorded_rewrite hinv.recorded ?_ ht (fun k hk => ?_) ?_
      · rw [hr']
        exact hrid
      · rw [hmade, List.map_cons, List.mem_cons, or_iff_right hk]
      · rw [hmade]
        exact iff_of_true List.mem_cons_self hsilo
    · rw [hsessions]
      exact fun e he l hl => (hinv.sessions e he l hl).rewrite hr ht fun _ => hstatus

/-- **A creation** leaves the requests fit exactly when it finds its request open. -/
theorem stored_create (hinv : SpawnInv s)
    (hloaded : ∀ loaded, o.spawnRequest = some loaded → LoadedFits s.db loaded) (now : Time) (siloId : Uuid) :
    FitsInTurn s now siloId (.create o) := by
  cases hstore : storeSilo s.db now siloId o with
  | error e =>
    have hsame : s.stored now siloId (.create o) = s := by
      unfold SpawnState.stored
      dsimp only
      rw [hstore]
    refine .unchanged hinv (by rw [hsame]) (by rw [hsame]) (by rw [hsame]) ?_
    rintro ⟨db, hdb⟩
    rw [hstore] at hdb
    cases hdb
  | ok db =>
    cases hspawn : o.spawnRequest with
    | none =>
      have hresult := stored_of_ok hstore
      obtain ⟨-, -, -, -, hrequests⟩ := storeSilo_eq_ok hstore
      rw [hspawn] at hrequests hresult
      refine .unchanged hinv (by rw [hresult]; exact hrequests) (by rw [hresult]) (by rw [hresult]; rfl) ?_
      intro _ loaded hsome
      rw [hspawn] at hsome
      cases hsome
    | some loaded => exact stored_create_marked hinv hstore hspawn (hloaded loaded hspawn)

end Creation

/-! ## Runs -/

theorem SpawnInv.close (hinv : SpawnInv s) (session : Nat) : SpawnInv (s.close session) where
  once := hinv.once
  status := hinv.status
  recorded := hinv.recorded
  sessions e he := hinv.sessions e (Table.mem_deleteWhere.mp he).1

theorem spawnFits_close (session : Nat) : SpawnFits (s.close session) ↔ SpawnFits s :=
  ⟨fun h => ⟨h.once, h.status⟩, fun h => ⟨h.once, h.status⟩⟩

theorem LoadedFits.of_get (hinv : SpawnInv s) {loaded : SpawnRequestRecord}
    (h : s.db.spawnRequests.get? loaded.id = some loaded) : LoadedFits s.db loaded :=
  ⟨hinv.status loaded (Table.mem_of_get? h), loaded, h, id⟩

theorem SpawnInv.opened {t : SpawnState} (hinv : SpawnInv s) {session : Nat} {work : Except Failure SpawnWork}
    (hloaded : ∀ w, work = .ok w → ∀ loaded, w.loaded? = some loaded → s.db.spawnRequests.get? loaded.id = some loaded)
    (h : s.opened session work = some t) : SpawnInv t ∧ t.db = s.db := by
  unfold SpawnState.opened at h
  cases hwork : work with
  | error e =>
    rw [hwork] at h
    cases h
  | ok w =>
    rw [hwork] at h
    obtain ⟨sessions, hinsert, rfl⟩ := Option.map_eq_some_iff.mp h
    refine ⟨⟨⟨hinv.once, hinv.status⟩, hinv.recorded, fun e he l hl => ?_⟩, rfl⟩
    rcases (Table.mem_insert? hinsert).mp he with he | rfl
    · exact hinv.sessions e he l hl
    · exact .of_get hinv (hloaded w hwork l hl)

/-- **One action** leaves the requests fit exactly when it is in turn. -/
theorem step_spawnFits {lower : String → String} {t : SpawnState} {action : SpawnAction} (hinv : SpawnInv s)
    (h : s.step lower action = some t) :
    (SpawnFits t ∧ KeepsCancelled s t ↔ InTurn s action) ∧ (InTurn s action → SpawnInv t) := by
  cases action with
  | openCreate session organizationId payload =>
    obtain ⟨hinv', hdb⟩ := hinv.opened (fun w hw loaded hl => by
      cases hopen : openSilo lower s.db organizationId payload with
      | error e =>
        rw [hopen] at hw
        cases hw
      | ok o =>
        rw [hopen] at hw
        obtain rfl := Except.ok.inj hw
        obtain ⟨-, -, -, hnamed⟩ := openSilo_eq_ok hopen
        rw [show o.spawnRequest = some loaded from hl] at hnamed
        exact (namedSpawnRequest_eq_ok hnamed).1) h
    exact ⟨iff_of_true ⟨hinv'.toSpawnFits, keepsCancelled_of_db_eq (by rw [hdb])⟩ trivial, fun _ => hinv'⟩
  | openUpdate session organizationId requestId payload =>
    obtain ⟨hinv', hdb⟩ := hinv.opened (fun w hw loaded hl => by
      cases hopen : openSpawnUpdate s.db organizationId requestId with
      | error e =>
        rw [hopen] at hw
        cases hw
      | ok r =>
        rw [hopen] at hw
        obtain rfl := Except.ok.inj hw
        obtain rfl := Option.some.inj hl
        obtain ⟨hget, -⟩ := Option.filter_eq_some_iff.mp (orFail_eq_ok.mp hopen)
        have hid : r.id = requestId := Table.key_of_get? hget
        rw [hid]
        exact hget) h
    exact ⟨iff_of_true ⟨hinv'.toSpawnFits, keepsCancelled_of_db_eq (by rw [hdb])⟩ trivial, fun _ => hinv'⟩
  | giveUp session =>
    obtain rfl := Option.some.inj h
    have hinv' := hinv.close session
    exact ⟨iff_of_true ⟨hinv'.toSpawnFits, keepsCancelled_of_db_eq rfl⟩ trivial, fun _ => hinv'⟩
  | store session now siloId =>
    obtain ⟨e, hget, rfl⟩ := Option.map_eq_some_iff.mp h
    have hloaded := hinv.sessions e (Table.mem_of_get? hget)
    have hturn : InTurn s (.store session now siloId) ↔ WorkInTurn s now siloId e.work := by
      constructor
      · exact fun h => h e hget
      · rintro h e' hget'
        obtain rfl := Option.some.inj (hget.symm.trans hget')
        exact h
    rw [hturn, spawnFits_close]
    have hstored : FitsInTurn s now siloId e.work := by
      cases hwork : e.work with
      | create o =>
        rw [hwork] at hloaded
        exact stored_create hinv hloaded now siloId
      | update loaded payload =>
        rw [hwork] at hloaded
        exact stored_update hinv (hloaded loaded rfl) now siloId
    exact ⟨hstored.fits, fun h => (hstored.inv h).close session⟩

/-- **A spawn request is materialized at most once**, and stays so, exactly in the runs whose writes are in turn. -/
theorem along_spawnFits_iff (lower : String → String) {s : SpawnState} (hinv : SpawnInv s) (actions : List SpawnAction) :
    (spawnMachine lower).Along (StepSpawnFits lower) s actions ↔
      (spawnMachine lower).Along (fun s action => (∃ t, s.step lower action = some t) → InTurn s action) s actions := by
  induction actions generalizing s with
  | nil => exact Iff.rfl
  | cons action actions ih =>
    rw [Machine.Along, Machine.Along]
    cases hstep : s.step lower action with
    | none =>
      have hnext : (spawnMachine lower).next s action = s :=
        Machine.next_of_commits_eq_nil _ (by show (s.step lower action).toList = []; rw [hstep]; rfl)
      have hvacuous : StepSpawnFits lower s action := by
        intro t ht
        rw [hstep] at ht
        cases ht
      rw [hnext, ih hinv]
      exact and_congr_left' (iff_of_true hvacuous fun h => by obtain ⟨t, ht⟩ := h; cases ht)
    | some t =>
      have hnext : (spawnMachine lower).next s action = t :=
        Machine.next_of_commits_eq_singleton _ (by show (s.step lower action).toList = [t]; rw [hstep]; rfl)
      obtain ⟨hiff, hkeeps⟩ := step_spawnFits hinv hstep
      have hfits : StepSpawnFits lower s action ↔ InTurn s action := by
        rw [← hiff]
        constructor
        · exact fun h => h t hstep
        · rintro h t' ht'
          obtain rfl := Option.some.inj (hstep.symm.trans ht')
          exact h
      rw [hnext, hfits, forall_prop_of_true ⟨t, rfl⟩]
      exact and_congr_right fun h => ih (hkeeps h)

theorem SpawnInv.start {db : SiloDb}
    (h : ∀ r ∈ db.spawnRequests, r.status ≠ .materialized ∧ r.materializedSiloId = none) : SpawnInv { db } where
  once := List.nodup_nil
  status r hr := iff_of_false (h r hr).1 (by rw [(h r hr).2]; exact Bool.false_ne_true)
  recorded r hr := iff_of_false List.not_mem_nil (by rw [(h r hr).2]; exact Bool.false_ne_true)
  sessions _ he := absurd he List.not_mem_nil

namespace Sample

def spawnDb : SiloDb where
  spawnRequests := ⟨[{ id := 7, organizationId := 1, slug := "growth" }], by decide⟩

def siloFor (name : String) : SiloCreate :=
  { name, blueprintSlug := "default-four-agent", spawnRequestId := some "00000000-0000-0000-0000-000000000007" }

def oneSilo : List SpawnAction :=
  [.openUpdate 1 1 7 { status := some .planned }, .store 1 5 0, .openCreate 2 1 (siloFor "alpha"), .store 2 10 5,
    .openUpdate 3 1 7 { priority := some "high" }, .store 3 15 0]

/-- Two silos for one request, one after the other. -/
def twoSilos : List SpawnAction :=
  [.openCreate 1 1 (siloFor "alpha"), .store 1 10 5, .openCreate 2 1 (siloFor "beta"), .store 2 20 6]

end Sample

theorem spawnInv_spawnDb : SpawnInv { db := Sample.spawnDb } := .start (by decide)

/-- A planned request that gets a silo, and then another priority. -/
theorem along_spawnFits_oneSilo :
    (spawnMachine id).Along (StepSpawnFits id) { db := Sample.spawnDb } Sample.oneSilo := by
  refine (along_spawnFits_iff id spawnInv_spawnDb Sample.oneSilo).mpr
    ⟨fun _ => trivial, fun _ => ?_, fun _ => trivial, fun _ => ?_, fun _ => trivial, fun _ => ?_, trivial⟩
  · intro e he
    obtain rfl := Option.some.inj he
    intro status hgiven hne r hr
    obtain rfl := Option.some.inj hgiven
    obtain rfl := Option.some.inj hr
    decide
  · intro e he
    obtain rfl := Option.some.inj he
    intro hstored loaded hloaded r hr
    obtain rfl := Option.some.inj hloaded
    obtain rfl := Option.some.inj hr
    decide
  · intro e he
    obtain rfl := Option.some.inj he
    intro status hgiven
    cases hgiven

/-- A request that has a silo is materialized again. -/
theorem not_along_spawnFits : ¬ ∀ (lower : String → String) (s : SpawnState), SpawnInv s → ∀ actions,
    (spawnMachine lower).Along (StepSpawnFits lower) s actions := by
  intro h
  obtain ⟨-, -, -, hlast, -⟩ := h id _ spawnInv_spawnDb Sample.twoSilos
  have hmade : (((spawnMachine id).run { db := Sample.spawnDb } (Sample.twoSilos.take 3)).step id
      (.store 2 20 6)).map (·.made) = some [(7, 6), (7, 5)] := by decide
  obtain ⟨t, ht, hmade⟩ := Option.map_eq_some_iff.mp hmade
  have honce := (hlast t ht).1.once
  rw [hmade] at honce
  exact absurd honce (by decide)

end SiloForge
