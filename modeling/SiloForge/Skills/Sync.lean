import SiloForge.Contracts.Equality
import SiloForge.Skills.Discovery
import SiloForge.Skills.Rows

/-!
# Syncing a pack

The candidates of a pack are written to the catalogue: a row for each that has none, and the fields of the others
where they differ. A sync clones the branch "main", whatever the branch of the pack.

* `syncSkillPack` : the endpoint;
* `Carries` : a row has the fields of a candidate;
* `upsert_step`, `upsert_run` : one candidate, and all of them;
* `syncIsExact_iff` : a sync is as it should be exactly for the packs on "main".
-/

namespace SiloForge.Skills

open Lib

/-! ## The endpoint -/

def textsJson (texts : Dict String String) : Json := .obj (texts.rows.map fun entry => (entry.name, .str entry.value))

/-- The row with the fields of the candidate, and whether any was another. -/
def applyPackCandidateUpdates (existing : MarketplaceSkill) (candidate : PackSkillCandidate) : MarketplaceSkill × Bool :=
  let sameMetadata := pythonEqual existing.metadata (textsJson candidate.metadata)
  ({ existing with
      name := candidate.name
      description := candidate.description
      category := candidate.category
      risk := candidate.risk
      source := candidate.source
      metadata := if sameMetadata then existing.metadata else textsJson candidate.metadata },
    existing.name ≠ candidate.name || existing.description ≠ candidate.description ||
      existing.category ≠ candidate.category || existing.risk ≠ candidate.risk || existing.source ≠ candidate.source ||
      !sameMetadata)

/-- The rows so far, and how many were created and updated. -/
structure SyncState where
  skills : Table MarketplaceSkill
  created : Nat := 0
  updated : Nat := 0

/-- What a sync is given from outside: the time, and the ids of new rows. -/
structure SyncInputs where
  now : Time
  newId : Nat → Uuid

def newSkill (inputs : SyncInputs) (organizationId : Uuid) (created : Nat) (candidate : PackSkillCandidate) :
    MarketplaceSkill where
  id := inputs.newId created
  organizationId
  name := candidate.name
  description := candidate.description
  category := candidate.category
  risk := candidate.risk
  source := candidate.source
  sourceUrl := candidate.sourceUrl
  metadata := textsJson candidate.metadata
  createdAt := inputs.now
  updatedAt := inputs.now

/-- A row is looked up among those read at the beginning, and is as it has become. -/
def upsert (inputs : SyncInputs) (organizationId : Uuid) (existingSkills : Table MarketplaceSkill) (state : SyncState)
    (candidate : PackSkillCandidate) : Except Failure SyncState :=
  match (existingSkills.get? (organizationId, candidate.sourceUrl)).bind fun existing => state.skills.get? (key existing) with
  | none => do
    let skills ← orFail (state.skills.insert? (newSkill inputs organizationId state.created candidate)) .integrityError
    return { state with skills, created := state.created + 1 }
  | some existing =>
    let (row, changed) := applyPackCandidateUpdates existing candidate
    if changed then
      return { state with skills := state.skills.put { row with updatedAt := inputs.now }, updated := state.updated + 1 }
    else return state

structure SkillPackSyncResponse where
  packId : Uuid
  synced : Nat
  created : Nat
  updated : Nat
  warnings : List String := []
  deriving DecidableEq

/-- The tables after a sync, its answer, and the branch that was cloned. -/
structure SyncOutcome where
  db : SkillsDb
  response : SkillPackSyncResponse
  cloned : Option Url

def defaultBranch : Url := "main".toList

def collectPackSkills (texts : NameTexts) (git : Git) (sourceUrl branch : Url) :
    Except PackError (List PackSkillCandidate × Option Url) := do
  let (discovery, cloned) ← collectPackSkillsWithWarnings texts git sourceUrl branch
  return (discovery.candidates, cloned)

/-- An error of the runtime is answered, any other is not caught. -/
def ofPackError : PackError → Failure
  | .runtime text => .text 502 text
  | .value text => .valueError text

def syncSkillPack (texts : NameTexts) (git : Git) (inputs : SyncInputs) (db : SkillsDb) (organizationId packId : Uuid) :
    Except Failure SyncOutcome := do
  let pack ← requireSkillPackForOrg db organizationId packId
  (validatePackSourceUrl texts.toUrlTexts pack.sourceUrl).mapError (Failure.text 400)
  let (discovered, cloned) ← (collectPackSkills texts git pack.sourceUrl defaultBranch).mapError ofPackError
  let state ← discovered.foldlM (upsert inputs organizationId db.skills) { skills := db.skills }
  return { db := { db with skills := state.skills }
           response := { packId := pack.id, synced := discovered.length, created := state.created, updated := state.updated }
           cloned }

/-! ## Rows and candidates -/

/-- A row has the fields of a candidate. -/
structure Carries (row : MarketplaceSkill) (candidate : PackSkillCandidate) : Prop where
  name : row.name = candidate.name
  description : row.description = candidate.description
  category : row.category = candidate.category
  risk : row.risk = candidate.risk
  source : row.source = candidate.source
  metadata : pythonEqual row.metadata (textsJson candidate.metadata) = true

section Fields
variable {existing : MarketplaceSkill} {candidate : PackSkillCandidate}

theorem equalFieldsBy_of_lookup {number? : Json → Option NumberValue} {fields others : List (String × Json)}
    (h : ∀ f ∈ fields, ∃ b, Json.lookup others f.1 = some b ∧ equalBy number? f.2 b = true) :
    equalFieldsBy number? fields others = true := by
  induction fields with
  | nil => simp only [equalFieldsBy]
  | cons f fields ih =>
    obtain ⟨hfirst, hrest⟩ := List.forall_mem_cons.mp h
    obtain ⟨b, hlookup, hequal⟩ := hfirst
    obtain ⟨k, a⟩ := f
    simp only [equalFieldsBy]
    rw [hlookup, ih hrest]
    exact Bool.and_eq_true_iff.mpr ⟨hequal, rfl⟩

theorem pythonEqual_textsJson (texts : Dict String String) : pythonEqual (textsJson texts) (textsJson texts) = true := by
  have hlookup : ∀ rows : List (DictEntry String String), (rows.map key).Nodup → ∀ entry ∈ rows,
      Json.lookup (rows.map fun entry => (entry.name, .str entry.value)) entry.name = some (.str entry.value) := by
    intro rows hnodup entry hentry
    induction rows with
    | nil => cases hentry
    | cons first rows ih =>
      obtain ⟨hfirst, hrest⟩ := List.nodup_cons.mp hnodup
      rw [List.map_cons, Json.lookup_cons]
      obtain rfl | hentry := List.mem_cons.mp hentry
      · exact if_pos rfl
      · rw [if_neg fun heq => hfirst (List.mem_map.mpr ⟨entry, hentry, heq.symm⟩)]
        exact ih hrest hentry
  unfold pythonEqual textsJson
  simp only [equalBy, decide_true, Bool.true_and]
  refine equalFieldsBy_of_lookup fun f hf => ?_
  obtain ⟨entry, hentry, rfl⟩ := List.mem_map.mp hf
  exact ⟨_, hlookup texts.rows texts.nodup entry hentry, by simp only [equalBy, decide_true]⟩

theorem carries_iff : Carries existing candidate ↔ (applyPackCandidateUpdates existing candidate).2 = false := by
  unfold applyPackCandidateUpdates
  simp only [Bool.or_eq_false_iff, decide_eq_false_iff_not, ne_eq, not_not, Bool.not_eq_false']
  exact ⟨fun h => ⟨⟨⟨⟨⟨h.name, h.description⟩, h.category⟩, h.risk⟩, h.source⟩, h.metadata⟩,
    fun ⟨⟨⟨⟨⟨hname, hdescription⟩, hcategory⟩, hrisk⟩, hsource⟩, hmetadata⟩ =>
      ⟨hname, hdescription, hcategory, hrisk, hsource, hmetadata⟩⟩

theorem carries_apply (existing : MarketplaceSkill) (candidate : PackSkillCandidate) :
    Carries (applyPackCandidateUpdates existing candidate).1 candidate := by
  refine ⟨rfl, rfl, rfl, rfl, rfl, ?_⟩
  unfold applyPackCandidateUpdates
  dsimp only
  split
  · assumption
  · exact pythonEqual_textsJson candidate.metadata

end Fields

/-! ## Rows created and changed -/

def createdRows (before after : Table MarketplaceSkill) : List MarketplaceSkill :=
  after.rows.filter fun row => (before.get? (key row)).isNone

def changedRows (before after : Table MarketplaceSkill) : List MarketplaceSkill :=
  before.rows.filter fun row => after.get? (key row) ≠ some row

/-- The numbers are those of the rows. -/
structure Accounted (before : Table MarketplaceSkill) (state : SyncState) : Prop where
  created : state.created = (createdRows before state.skills).length
  updated : state.updated = (changedRows before state.skills).length

theorem length_filter_succ {α : Type} {as : List α} {a : α} {p q : α → Bool} (hnodup : as.Nodup) (ha : a ∈ as)
    (hp : p a = false) (hq : q a = true) (hother : ∀ b ∈ as, b ≠ a → q b = p b) :
    (as.filter q).length = (as.filter p).length + 1 := by
  induction as with
  | nil => cases ha
  | cons b as ih =>
    obtain ⟨hb, hrest⟩ := List.nodup_cons.mp hnodup
    obtain rfl | ha := List.mem_cons.mp ha
    · have hsame : as.filter q = as.filter p :=
        List.filter_congr fun c hc => hother c (List.mem_cons_of_mem _ hc) fun heq => hb (heq ▸ hc)
      rw [List.filter_cons_of_pos hq, List.filter_cons_of_neg (by rw [hp]; exact Bool.false_ne_true), hsame]
      rfl
    · have hfirst : q b = p b := hother b List.mem_cons_self fun heq => hb (heq ▸ ha)
      have htail := ih hrest ha fun c hc => hother c (List.mem_cons_of_mem _ hc)
      cases hpb : p b with
      | true =>
        rw [List.filter_cons_of_pos hpb, List.filter_cons_of_pos (hfirst.trans hpb), List.length_cons, htail,
          List.length_cons]
      | false =>
        rw [List.filter_cons_of_neg (by rw [hfirst, hpb]; exact Bool.false_ne_true),
          List.filter_cons_of_neg (by rw [hpb]; exact Bool.false_ne_true), htail]

section Rows
variable {before after after' : Table MarketplaceSkill} {row existing : MarketplaceSkill}

theorem length_createdRows : (createdRows before after).length =
    (after.rows.map key).countP fun k => (before.get? k).isNone := by
  unfold createdRows
  rw [List.countP_map, List.countP_eq_length_filter]
  rfl

theorem createdRows_put : (createdRows before (after.put row)).length = (createdRows before after).length := by
  have hkeys : (after.put row).rows.map key = after.rows.map key := by
    show (after.rows.map _).map key = _
    rw [List.map_map]
    refine List.map_congr_left fun row' _ => ?_
    show key (if decide (key row' = key row) = true then row else row') = key row'
    split
    · rename_i hkey
      exact (of_decide_eq_true hkey).symm
    · rfl
  rw [length_createdRows, length_createdRows, hkeys]

theorem createdRows_insert? (h : after.insert? row = some after') (hnone : before.get? (key row) = none) :
    (createdRows before after').length = (createdRows before after).length + 1 := by
  unfold createdRows
  rw [(Table.insert?_eq_some h).1, List.filter_append, List.length_append]
  rw [List.filter_cons_of_pos (by rw [hnone]; rfl)]
  rfl

theorem changedRows_insert? (h : after.insert? row = some after') (hnone : before.get? (key row) = none) :
    changedRows before after' = changedRows before after := by
  refine List.filter_congr fun row' hrow' => ?_
  rw [Table.get?_insert? h, if_neg fun hkey => Table.get?_eq_none.mp hnone row' hrow' hkey]

theorem changedRows_put (hbefore : before.get? (key row) = some existing) (hafter : after.get? (key row) = some existing)
    (hne : row ≠ existing) : (changedRows before (after.put row)).length = (changedRows before after).length + 1 := by
  obtain ⟨hmem, hkey⟩ := Table.get?_eq_some.mp hbefore
  refine length_filter_succ (List.Nodup.of_map key before.nodup) hmem ?_ ?_ fun row' hrow' hother => ?_
  · rw [hkey, hafter]
    simp
  · rw [hkey, Table.get?_put_self hafter]
    simpa using hne
  · have hkey' : key row' ≠ key row := fun heq =>
      hother (Table.eq_of_key_eq hrow' hmem (heq.trans hkey.symm))
    rw [Table.get?_put_ne hkey']

end Rows

/-! ## The upsert -/

section Upsert
variable {inputs : SyncInputs} {organizationId : Uuid} {before : Table MarketplaceSkill} {state state' : SyncState}
  {candidate : PackSkillCandidate} {candidates : List PackSkillCandidate}

theorem upsert_step (h : upsert inputs organizationId before state candidate = .ok state')
    (hsame : state.skills.get? (organizationId, candidate.sourceUrl) = before.get? (organizationId, candidate.sourceUrl))
    (hcounts : Accounted before state) :
    (∃ row, state'.skills.get? (organizationId, candidate.sourceUrl) = some row ∧ Carries row candidate) ∧
      (∀ k, k ≠ (organizationId, candidate.sourceUrl) → state'.skills.get? k = state.skills.get? k) ∧
      Accounted before state' := by
  unfold upsert at h
  cases hbefore : before.get? (organizationId, candidate.sourceUrl) with
  | none =>
    rw [hbefore] at h
    obtain ⟨skills, hinsert, h⟩ := bind_eq_ok.mp h
    obtain rfl := pure_eq_ok.mp h
    have hinsert := orFail_eq_ok.mp hinsert
    refine ⟨⟨newSkill inputs organizationId state.created candidate, ?_, ?_⟩, fun k hk => ?_, ?_, ?_⟩
    · rw [Table.get?_insert? hinsert]
      exact if_pos rfl
    · exact ⟨rfl, rfl, rfl, rfl, rfl, pythonEqual_textsJson candidate.metadata⟩
    · rw [Table.get?_insert? hinsert]
      exact if_neg hk
    · show state.created + 1 = _
      rw [createdRows_insert? hinsert hbefore, hcounts.created]
    · rw [changedRows_insert? hinsert hbefore]
      exact hcounts.updated
  | some existing =>
    have hkey : key existing = (organizationId, candidate.sourceUrl) := Table.key_of_get? hbefore
    have hexisting : state.skills.get? (key existing) = some existing := by rw [hkey, hsame, hbefore]
    rw [hbefore, Option.bind_some, hexisting] at h
    dsimp only at h
    have hcarries := carries_apply existing candidate
    cases hchanged : (applyPackCandidateUpdates existing candidate).2 with
    | false =>
      rw [hchanged, if_neg Bool.false_ne_true] at h
      obtain rfl := pure_eq_ok.mp h
      exact ⟨⟨existing, hkey ▸ hexisting, carries_iff.mpr hchanged⟩, fun _ _ => rfl, hcounts⟩
    | true =>
      rw [hchanged, if_pos rfl] at h
      obtain rfl := pure_eq_ok.mp h
      dsimp only
      generalize hrow : ({ (applyPackCandidateUpdates existing candidate).1 with updatedAt := inputs.now }
        : MarketplaceSkill) = row
      have hcarries : Carries row candidate := by
        subst hrow
        exact ⟨hcarries.name, hcarries.description, hcarries.category, hcarries.risk, hcarries.source, hcarries.metadata⟩
      have hrowKey : key row = key existing := by
        subst hrow
        rfl
      have hne : row ≠ existing := by
        intro heq
        have hnot := carries_iff.mp (heq ▸ hcarries)
        rw [hchanged] at hnot
        cases hnot
      have hafter : state.skills.get? (key row) = some existing := by rw [hrowKey, hexisting]
      refine ⟨⟨row, ?_, hcarries⟩, fun k hk => ?_, ?_, ?_⟩
      · rw [← hkey, ← hrowKey]
        exact Table.get?_put_self hafter
      · exact Table.get?_put_ne fun heq => hk (heq.trans (hrowKey.trans hkey))
      · rw [createdRows_put]
        exact hcounts.created
      · show state.updated + 1 = _
        rw [changedRows_put (by rw [hrowKey, hkey, hbefore]) hafter hne, hcounts.updated]

theorem upsert_run (h : candidates.foldlM (upsert inputs organizationId before) state = .ok state')
    (hnodup : (candidates.map PackSkillCandidate.sourceUrl).Nodup)
    (hsame : ∀ candidate ∈ candidates,
      state.skills.get? (organizationId, candidate.sourceUrl) = before.get? (organizationId, candidate.sourceUrl))
    (hcounts : Accounted before state) :
    (∀ candidate ∈ candidates,
      ∃ row, state'.skills.get? (organizationId, candidate.sourceUrl) = some row ∧ Carries row candidate) ∧
      (∀ k, (∀ candidate ∈ candidates, k ≠ (organizationId, candidate.sourceUrl)) →
        state'.skills.get? k = state.skills.get? k) ∧
      Accounted before state' := by
  induction candidates generalizing state with
  | nil =>
    obtain rfl := pure_eq_ok.mp h
    exact ⟨nofun, fun _ _ => rfl, hcounts⟩
  | cons candidate candidates ih =>
    rw [List.foldlM_cons] at h
    obtain ⟨state₁, hfirst, hrest⟩ := bind_eq_ok.mp h
    obtain ⟨hnot, hnodup⟩ := List.nodup_cons.mp hnodup
    obtain ⟨hsameFirst, hsameRest⟩ := List.forall_mem_cons.mp hsame
    obtain ⟨hrow, hframe, hcounts₁⟩ := upsert_step hfirst hsameFirst hcounts
    -- the URLs of the later candidates are others
    have hother : ∀ other ∈ candidates, (organizationId, other.sourceUrl) ≠ (organizationId, candidate.sourceUrl) :=
      fun other hmem heq => hnot (List.mem_map.mpr ⟨other, hmem, (Prod.mk.inj heq).2⟩)
    obtain ⟨hrows, hframes, hcounts'⟩ := ih hrest hnodup
      (fun other hmem => (hframe _ (hother other hmem)).trans (hsameRest other hmem)) hcounts₁
    refine ⟨List.forall_mem_cons.mpr ⟨?_, hrows⟩, fun k hk => ?_, hcounts'⟩
    · obtain ⟨row, hget, hcarries⟩ := hrow
      exact ⟨row, (hframes _ fun other hmem => (hother other hmem).symm).trans hget, hcarries⟩
    · obtain ⟨hkFirst, hkRest⟩ := List.forall_mem_cons.mp hk
      exact (hframes k hkRest).trans (hframe k hkFirst)

theorem upsert_carried (h : ∀ candidate ∈ candidates,
    ∃ row, before.get? (organizationId, candidate.sourceUrl) = some row ∧ Carries row candidate) :
    candidates.foldlM (upsert inputs organizationId before) { skills := before } = .ok { skills := before } := by
  induction candidates with
  | nil => rfl
  | cons candidate candidates ih =>
    obtain ⟨⟨row, hget, hcarries⟩, hrest⟩ := List.forall_mem_cons.mp h
    have hrow : before.get? (key row) = some row := by rw [Table.key_of_get? hget, hget]
    have hstep : upsert inputs organizationId before { skills := before } candidate = .ok { skills := before } := by
      unfold upsert
      rw [hget, Option.bind_some, hrow]
      dsimp only
      rw [carries_iff.mp hcarries]
      rfl
    rw [List.foldlM_cons, hstep]
    exact ih hrest

end Upsert

/-! ## The sync -/

/-- A sync is exact, and can be repeated. -/
structure ExactSync (texts : NameTexts) (db : SkillsDb) (organizationId : Uuid) (pack : SkillPackRow)
    (candidates : List PackSkillCandidate) (outcome : SyncOutcome) : Prop where
  carried : ∀ candidate ∈ candidates, ∃ row, Carries row candidate ∧ ∀ row' : MarketplaceSkill,
    (row' ∈ outcome.db.skills ∧ row'.organizationId = organizationId ∧ row'.sourceUrl = candidate.sourceUrl) ↔ row' = row
  created : outcome.response.created = (createdRows db.skills outcome.db.skills).length
  updated : outcome.response.updated = (changedRows db.skills outcome.db.skills).length
  frame : ∀ row : MarketplaceSkill,
    (row.organizationId ≠ organizationId ∨ ∀ candidate ∈ candidates, row.sourceUrl ≠ candidate.sourceUrl) →
      (row ∈ outcome.db.skills ↔ row ∈ db.skills)
  tables : outcome.db = { db with skills := outcome.db.skills }
  branch : outcome.cloned = some (normalizePackBranch pack.branch.toList)
  again : ∀ git inputs cloned, collectPackSkills texts git pack.sourceUrl defaultBranch = .ok (candidates, cloned) →
    ∃ outcome', syncSkillPack texts git inputs outcome.db organizationId pack.id = .ok outcome' ∧
      outcome'.db = outcome.db ∧ outcome'.response.created = 0 ∧ outcome'.response.updated = 0

/-- A sync of the candidates that were found is as it should be. -/
def SyncIsExact (texts : NameTexts) (git : Git) (db : SkillsDb) (organizationId : Uuid) (pack : SkillPackRow)
    (outcome : SyncOutcome) : Prop :=
  ∃ candidates, collectPackSkills texts git pack.sourceUrl defaultBranch = .ok (candidates, outcome.cloned) ∧
    ExactSync texts db organizationId pack candidates outcome

section Sync
variable {texts : NameTexts} {git : Git} {inputs : SyncInputs} {db : SkillsDb} {organizationId packId : Uuid}
  {pack : SkillPackRow} {outcome : SyncOutcome} {candidates : List PackSkillCandidate} {cloned : Option Url}

theorem collectPackSkills_nodup {branch : Url}
    (h : collectPackSkills texts git pack.sourceUrl branch = .ok (candidates, cloned)) :
    (candidates.map PackSkillCandidate.sourceUrl).Nodup := by
  obtain ⟨⟨discovery, cloned'⟩, hdiscovery, h⟩ := bind_eq_ok.mp h
  obtain ⟨rfl, -⟩ := Prod.mk.inj (pure_eq_ok.mp h)
  exact collectPackSkillsWithWarnings_nodup hdiscovery

theorem cloned_default (h : collectPackSkills texts git pack.sourceUrl defaultBranch = .ok (candidates, cloned)) :
    cloned = some "main".toList := by
  obtain ⟨⟨discovery, cloned'⟩, hdiscovery, h⟩ := bind_eq_ok.mp h
  obtain ⟨-, rfl⟩ := Prod.mk.inj (pure_eq_ok.mp h)
  exact cloned_main (by decide) hdiscovery

theorem syncSkillPack_eq_ok : syncSkillPack texts git inputs db organizationId packId = .ok outcome ↔
    ∃ pack candidates cloned state, requireSkillPackForOrg db organizationId packId = .ok pack ∧
      validatePackSourceUrl texts.toUrlTexts pack.sourceUrl = .ok () ∧
      collectPackSkills texts git pack.sourceUrl defaultBranch = .ok (candidates, cloned) ∧
      candidates.foldlM (upsert inputs organizationId db.skills) { skills := db.skills } = .ok state ∧
      outcome = ⟨{ db with skills := state.skills }, ⟨pack.id, candidates.length, state.created, state.updated, []⟩,
        cloned⟩ := by
  constructor
  · intro h
    obtain ⟨pack, hpack, h⟩ := bind_eq_ok.mp h
    obtain ⟨hvalid, h⟩ := then_eq_ok.mp h
    obtain ⟨⟨candidates, cloned⟩, hcollect, h⟩ := bind_eq_ok.mp h
    obtain ⟨state, hstate, h⟩ := bind_eq_ok.mp h
    exact ⟨pack, candidates, cloned, state, hpack, mapError_eq_ok.mp hvalid, mapError_eq_ok.mp hcollect, hstate,
      (pure_eq_ok.mp h).symm⟩
  · rintro ⟨pack, candidates, cloned, state, hpack, hvalid, hcollect, hstate, rfl⟩
    refine bind_eq_ok.mpr ⟨pack, hpack, then_eq_ok.mpr ⟨mapError_eq_ok.mpr hvalid,
      bind_eq_ok.mpr ⟨(candidates, cloned), mapError_eq_ok.mpr hcollect, bind_eq_ok.mpr ⟨state, hstate, rfl⟩⟩⟩⟩

/-- **A sync is exact exactly for the packs on "main"**: the upsert always is, and the branch that is cloned is "main". -/
theorem syncIsExact_iff (hpack : requireSkillPackForOrg db organizationId packId = .ok pack)
    (h : syncSkillPack texts git inputs db organizationId packId = .ok outcome) :
    SyncIsExact texts git db organizationId pack outcome ↔ normalizePackBranch pack.branch.toList = "main".toList := by
  obtain ⟨pack', candidates, cloned, state, hpack', hvalid, hcollect, hstate, rfl⟩ := syncSkillPack_eq_ok.mp h
  obtain rfl := Except.ok.inj (hpack.symm.trans hpack')
  have hcloned := cloned_default hcollect
  constructor
  · rintro ⟨candidates', -, hexact⟩
    exact (Option.some.inj (hcloned.symm.trans hexact.branch)).symm
  · intro hmain
    have hempty : changedRows db.skills db.skills = [] := by
      refine List.filter_eq_nil_iff.mpr fun row hrow => ?_
      rw [Table.get?_key hrow]
      simp
    have hnone : createdRows db.skills db.skills = [] := by
      refine List.filter_eq_nil_iff.mpr fun row hrow => ?_
      rw [Table.get?_key hrow]
      exact Bool.false_ne_true
    obtain ⟨hcarried, hframe, hcounts⟩ := upsert_run hstate (collectPackSkills_nodup hcollect) (fun _ _ => rfl)
      ⟨by rw [hnone]; rfl, by rw [hempty]; rfl⟩
    refine ⟨candidates, hcollect, ⟨fun candidate hmem => ?_, hcounts.created, hcounts.updated, fun row hother => ?_, rfl,
      by rw [hmain]; exact hcloned, fun git' inputs' cloned' hcollect' => ?_⟩⟩
    · obtain ⟨row, hget, hcarries⟩ := hcarried candidate hmem
      refine ⟨row, hcarries, fun row' => ⟨fun ⟨hrow', horganization, hurl⟩ => ?_, ?_⟩⟩
      · have hkey : key row' = (organizationId, candidate.sourceUrl) := Prod.ext horganization hurl
        have hget' := Table.get?_key hrow'
        rw [hkey] at hget'
        exact Option.some.inj (hget'.symm.trans hget)
      · rintro rfl
        obtain ⟨hmem', hkey⟩ := Table.get?_eq_some.mp hget
        exact ⟨hmem', congrArg Prod.fst hkey, congrArg Prod.snd hkey⟩
    · have hget : state.skills.get? (key row) = db.skills.get? (key row) := by
        refine hframe _ fun candidate hmem hkey => ?_
        obtain horganization | hurl := hother
        · exact horganization (congrArg Prod.fst hkey)
        · exact hurl candidate hmem (congrArg Prod.snd hkey)
      constructor
      · intro hrow
        exact Table.mem_of_get? (hget.symm.trans (Table.get?_key hrow))
      · intro hrow
        exact Table.mem_of_get? (hget.trans (Table.get?_key hrow))
    · have hid : pack.id = packId := by
        obtain ⟨hget, -⟩ := Option.filter_eq_some_iff.mp (orFail_eq_ok.mp hpack)
        exact Table.key_of_get? hget
      refine ⟨_, syncSkillPack_eq_ok.mpr ⟨pack, candidates, cloned', { skills := state.skills }, ?_, hvalid, hcollect',
        upsert_carried hcarried, rfl⟩, rfl, rfl, rfl⟩
      rw [hid]
      exact hpack

end Sync

namespace Sample

def nameTexts : NameTexts := { asciiTexts with unquote := id }

def oneSkill : Git where
  clone _ branch := .ok { index := some (.ok [.obj [("path", .str "x"), ("name", .str "X")]]), files := [], head := branch }

def inputs : SyncInputs := ⟨5, fun created => 10 + created⟩

def packUrl : Url := "https://github.com/a/b".toList

def packOn (branch : String) : SkillPackRow := { id := 3, organizationId := 1, name := "b", sourceUrl := packUrl, branch }

def packDb (branch : String) : SkillsDb where
  packs := ⟨[packOn branch], by simp⟩

end Sample

section
open Skills.Sample

theorem exists_sync_packDb (branch : String) :
    ∃ outcome, syncSkillPack nameTexts oneSkill inputs (packDb branch) 1 3 = .ok outcome := by
  have hvalid : validatePackSourceUrl nameTexts.toUrlTexts packUrl = .ok () := by decide
  have hcollect : ((collectPackSkills nameTexts oneSkill packUrl defaultBranch).map fun found =>
      found.1.map PackSkillCandidate.sourceUrl) = .ok ["https://github.com/a/b/tree/main/x".toList] := by decide
  cases hfound : collectPackSkills nameTexts oneSkill packUrl defaultBranch with
  | error e =>
    rw [hfound] at hcollect
    cases hcollect
  | ok found =>
    obtain ⟨candidates, cloned⟩ := found
    rw [hfound] at hcollect
    have hurls : candidates.map PackSkillCandidate.sourceUrl = ["https://github.com/a/b/tree/main/x".toList] :=
      Except.ok.inj hcollect
    obtain ⟨candidate, rfl, -⟩ := List.map_eq_singleton_iff.mp hurls
    exact ⟨_, syncSkillPack_eq_ok.mpr ⟨packOn branch, [candidate], cloned, _, rfl, hvalid, hfound, rfl, rfl⟩⟩

theorem syncIsExact_packOn_main : ∃ outcome, syncSkillPack nameTexts oneSkill inputs (packDb "main") 1 3 = .ok outcome ∧
    SyncIsExact nameTexts oneSkill (packDb "main") 1 (packOn "main") outcome := by
  obtain ⟨outcome, h⟩ := exists_sync_packDb "main"
  exact ⟨outcome, h, (syncIsExact_iff rfl h).mpr (by decide)⟩

/-- A pack on another branch has "main" cloned. -/
theorem not_syncIsExact : ¬ ∀ (texts : NameTexts) (git : Git) (inputs : SyncInputs) (db : SkillsDb)
    (organizationId packId : Uuid) (pack : SkillPackRow) (outcome : SyncOutcome),
    requireSkillPackForOrg db organizationId packId = .ok pack →
      syncSkillPack texts git inputs db organizationId packId = .ok outcome →
        SyncIsExact texts git db organizationId pack outcome := by
  intro h
  obtain ⟨outcome, hsync⟩ := exists_sync_packDb "dev"
  obtain ⟨candidates, hcollect, hexact⟩ := h nameTexts oneSkill inputs (packDb "dev") 1 3 (packOn "dev") outcome rfl hsync
  have hbranch := (cloned_default hcollect).symm.trans hexact.branch
  exact absurd hbranch (by decide)

end

end SiloForge.Skills
