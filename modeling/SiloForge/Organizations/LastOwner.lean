import SiloForge.Organizations.Owners

/-!
# The last owner

Requests about members side by side: each reads and checks committed rows, and writes and commits later, when other
requests may have committed.

* `OrgSessions`, `orgSessionsMachine` : any number of requests, each in two steps;
* `orgSessions_serial` : requests that do not overlap are those of `orgMachine`;
* `OrgWrite.unseats?` : the member a write takes the owner's role from;
* `LeavesOwner` : the steps that leave the owners a request counted on in place;
* `ownerRemains` : in every run of such steps an organization with an owner keeps one.
-/

namespace SiloForge

open Lib

/-! ## Requests in two steps -/

structure CheckedRequest where
  id : Nat
  seen : Db
  write : OrgWrite

instance : Keyed CheckedRequest Nat := ⟨CheckedRequest.id⟩

structure OrgSessions where
  db : Db
  checked : Table CheckedRequest := ∅

/-- A request reads and checks, writes and commits, or gives up. -/
inductive OrgAction where
  | check (id : Nat) (now : Time) (request : OrgRequest)
  | commit (id : Nat) (now : Time)
  | giveUp (id : Nat)

namespace OrgSessions

def close (s : OrgSessions) (id : Nat) : OrgSessions :=
  { s with checked := s.checked.deleteWhere fun p => p.id = id }

def step (casing : Casing) (s : OrgSessions) : OrgAction → Option OrgSessions
  | .check id now request =>
    match checkOrgRequest casing s.db now request with
    | .error _ => none
    | .ok write => (s.checked.insert? { id, seen := s.db, write }).map fun checked => { s with checked }
  | .commit id now =>
    (s.checked.get? id).map fun p =>
      match p.write.apply casing s.db now with
      | .error _ => s.close id
      | .ok db => { s.close id with db }
  | .giveUp id => some (s.close id)

end OrgSessions

def orgSessionsMachine (casing : Casing) : Machine OrgSessions OrgAction where
  commits s action := (s.step casing action).toList

variable {casing : Casing} {s t : OrgSessions} {db : Db} {now : Time}

theorem mem_orgSessions {action : OrgAction} :
    t ∈ (orgSessionsMachine casing).commits s action ↔ s.step casing action = some t := Option.mem_toList

def wholeRequest (action : Time × OrgRequest) : List OrgAction :=
  [.check 0 action.1 action.2, .commit 0 action.1]

theorem next_orgMachine (db : Db) (now : Time) (request : OrgRequest) :
    (orgMachine casing).next db (now, request) = (respondOrg casing db now request).toOption.getD db := by
  show (respondOrg casing db now request).toOption.toList.getLastD db = _
  cases respondOrg casing db now request <;> rfl

theorem run_wholeRequest (db : Db) (action : Time × OrgRequest) :
    (orgSessionsMachine casing).run { db } (wholeRequest action) = { db := (orgMachine casing).next db action } := by
  obtain ⟨now, request⟩ := action
  show (orgSessionsMachine casing).next ((orgSessionsMachine casing).next { db } (.check 0 now request)) (.commit 0 now) = _
  have hanswer : respondOrg casing db now request =
      (checkOrgRequest casing db now request).bind fun write => write.apply casing db now := rfl
  have hcheck : OrgSessions.step casing { db } (.check 0 now request) =
      match checkOrgRequest casing db now request with
      | .error _ => none
      | .ok write => some { db, checked := ⟨[{ id := 0, seen := db, write }], List.nodup_singleton _⟩ } := rfl
  rw [next_orgMachine, hanswer]
  cases hchecked : checkOrgRequest casing db now request with
  | error e =>
    rw [hchecked] at hcheck
    have hunopened : (orgSessionsMachine casing).next { db } (.check 0 now request) = { db } :=
      Machine.next_of_commits_eq_nil _ (congrArg Option.toList hcheck)
    rw [hunopened]
    rfl
  | ok write =>
    rw [hchecked] at hcheck
    have hopened : (orgSessionsMachine casing).next { db } (.check 0 now request) =
        { db, checked := ⟨[{ id := 0, seen := db, write }], List.nodup_singleton _⟩ } :=
      Machine.next_of_commits_eq_singleton _ (congrArg Option.toList hcheck)
    rw [hopened]
    show (match write.apply casing db now with | .error _ => _ | .ok _ => _) =
      ({ db := (write.apply casing db now).toOption.getD db } : OrgSessions)
    cases write.apply casing db now <;> rfl

/-- **Requests that do not overlap** are those of `orgMachine`. -/
theorem orgSessions_serial (db : Db) (requests : List (Time × OrgRequest)) :
    (orgSessionsMachine casing).run { db } ((orgSessionsMachine casing).serial (fun _ => wholeRequest) { db } requests) =
      { db := (orgMachine casing).run db requests } := by
  refine Machine.run_serial (fun (s : OrgSessions) db => s = { db }) ?_ rfl requests
  rintro _ db action rfl
  exact run_wholeRequest db action

/-! ## Whom a write unseats -/

/-- The member a write takes the owner's role from, if the member has it: by an update to another role, by a merge
that gives another role, or by its removal. -/
def OrgWrite.unseats? (casing : Casing) : OrgWrite → Option OrganizationMember
  | .patchMember loaded (some (some role)) => if role = .owner ∨ role = loaded.role then none else some loaded
  | .removeMember member => some member
  | .applyInvite loaded invite _ =>
    let role := raisedRole casing loaded invite
    if role = .owner ∨ role = loaded.role then none else some loaded
  | _ => none

def HasOwner (db : Db) (organizationId : Uuid) : Prop := owners db organizationId ≠ []

instance (db : Db) (organizationId : Uuid) : Decidable (HasOwner db organizationId) :=
  inferInstanceAs (Decidable (¬ owners db organizationId = []))

variable {organizationId memberId : Uuid} {m : OrganizationMember}

theorem mem_owners :
    m ∈ owners db organizationId ↔ m ∈ db.members ∧ m.organizationId = organizationId ∧ m.role = .owner := by
  unfold owners
  rw [List.mem_filter, decide_eq_true_iff]
  rfl

theorem isOwner_iff_mem_owners :
    IsOwner db organizationId memberId ↔ ∃ m ∈ owners db organizationId, m.id = memberId := by
  unfold IsOwner
  simp only [mem_owners, Table.get?_eq_some]
  constructor
  · rintro ⟨m, ⟨hm, hid⟩, horganization, hrole⟩
    exact ⟨m, ⟨hm, horganization, hrole⟩, hid⟩
  · rintro ⟨m, ⟨hm, horganization, hrole⟩, hid⟩
    exact ⟨m, ⟨hm, hid⟩, horganization, hrole⟩

theorem hasOwner_iff : HasOwner db organizationId ↔ ∃ memberId, IsOwner db organizationId memberId := by
  simp only [isOwner_iff_mem_owners]
  constructor
  · intro h
    obtain ⟨m, hm⟩ := List.exists_mem_of_ne_nil _ h
    exact ⟨m.id, m, hm, rfl⟩
  · rintro ⟨memberId, m, hm, -⟩
    exact List.ne_nil_of_mem hm

theorem writtenColumn_owner {loaded new : Role} (h : new = .owner ∨ new = loaded) :
    writtenColumn loaded new .owner = .owner := by
  unfold writtenColumn
  split
  · rfl
  · rename_i hne
    exact h.resolve_right hne

theorem isOwner_put {t : Db} (m' : OrganizationMember) (h : db.members.get? m.id = some m) (hid : m'.id = m.id)
    (horganization : m'.organizationId = m.organizationId) (hrole : m.role = .owner → m'.role = .owner)
    (ht : t.members = db.members.put m') (howner : IsOwner db organizationId memberId) :
    IsOwner t organizationId memberId := by
  unfold IsOwner
  rw [ht]
  obtain ⟨m₀, hget, hon, howns⟩ := howner
  rw [← hid] at h
  by_cases hmember : memberId = m'.id
  · subst hmember
    obtain rfl := Option.some.inj (h.symm.trans hget)
    exact ⟨m', Table.get?_put_self h, horganization.trans hon, hrole howns⟩
  · exact ⟨m₀, (Table.get?_put_ne hmember).trans hget, hon, howns⟩

theorem isOwner_put_other {t : Db} (m' : OrganizationMember) (hne : memberId ≠ m'.id)
    (ht : t.members = db.members.put m') (howner : IsOwner db organizationId memberId) :
    IsOwner t organizationId memberId := by
  obtain ⟨m, hget, hon, howns⟩ := howner
  refine ⟨m, ?_, hon, howns⟩
  rw [ht]
  exact (Table.get?_put_ne hne).trans hget

/-- A write of a role over the member read leaves the owners, but for a member it gives another role than its own. -/
theorem isOwner_writtenRole {t : Db} {loaded current : OrganizationMember} {new : Role} (m' : OrganizationMember)
    (hcurrent : db.members.get? loaded.id = some current) (hid : m'.id = current.id)
    (horganization : m'.organizationId = current.organizationId)
    (hrole : m'.role = writtenColumn loaded.role new current.role) (ht : t.members = db.members.put m')
    (howner : IsOwner db organizationId memberId) :
    IsOwner t organizationId memberId ∨ ¬ (new = .owner ∨ new = loaded.role) ∧ loaded.id = memberId := by
  have hkey : current.id = loaded.id := Table.key_of_get? hcurrent
  by_cases hstays : new = .owner ∨ new = loaded.role
  · refine .inl (isOwner_put m' (hkey.symm ▸ hcurrent) hid horganization (fun howns => ?_) ht howner)
    rw [hrole, howns]
    exact writtenColumn_owner hstays
  · by_cases hmember : memberId = m'.id
    · exact .inr ⟨hstays, hkey.symm.trans (hid.symm.trans hmember.symm)⟩
    · exact .inl (isOwner_put_other m' hmember ht howner)

theorem isOwner_deleteMember {t : Db} (hne : memberId ≠ m.id)
    (ht : t.members = db.members.deleteWhere fun x => decide (x.id = m.id))
    (howner : IsOwner db organizationId memberId) : IsOwner t organizationId memberId := by
  obtain ⟨owner, hget, hon, howns⟩ := howner
  have hid : owner.id = memberId := Table.key_of_get? hget
  refine ⟨owner, ?_, hon, howns⟩
  rw [ht, Table.get?_deleteWhere, hget, Option.filter_some, if_pos (by simp [hid, hne])]

theorem isOwner_insertMember {t : Db} (ht : db.members.insert? m = some t.members)
    (howner : IsOwner db organizationId memberId) : IsOwner t organizationId memberId := by
  obtain ⟨owner, hget, hon, howns⟩ := howner
  refine ⟨owner, ?_, hon, howns⟩
  have hne : memberId ≠ m.id := by
    rintro rfl
    have hnone : db.members.get? m.id = none := (Table.insert?_eq_some ht).2
    rw [hget] at hnone
    cases hnone
  rw [Table.get?_insert? ht]
  exact (if_neg hne).trans hget

/-- **What a write does to an owner**: it stays one, or is the member the write unseats. -/
theorem isOwner_apply {t : Db} {write : OrgWrite} (h : write.apply casing db now = .ok t)
    (howner : IsOwner db organizationId memberId) :
    IsOwner t organizationId memberId ∨ ∃ m, write.unseats? casing = some m ∧ m.id = memberId := by
  cases write with
  | patchMember loaded role =>
    simp only [OrgWrite.apply, bind_eq_ok, orFail_eq_ok, pure_eq_ok] at h
    obtain ⟨current, hcurrent, new, hnew, rfl⟩ := h
    refine (isOwner_writtenRole (current.withRole loaded now new) hcurrent rfl rfl rfl rfl howner).imp_right ?_
    rintro ⟨hmoves, hmember⟩
    -- the role is a given one: without one the role that was read is written
    rcases role with _ | _ | role
    · exact absurd (.inr (Option.some.inj hnew).symm) hmoves
    · cases hnew
    · obtain rfl := Option.some.inj hnew
      exact ⟨loaded, if_neg hmoves, hmember⟩
  | replaceAccess loaded update =>
    simp only [OrgWrite.apply, bind_eq_ok, orFail_eq_ok, pure_eq_ok] at h
    obtain ⟨current, hcurrent, rows, -, rfl⟩ := h
    have hid : current.id = loaded.id := Table.key_of_get? hcurrent
    have hget : db.members.get? current.id = some current := hid.symm ▸ hcurrent
    refine .inl (isOwner_put _ hget ?_ ?_ ?_ rfl howner)
    · rfl
    · rfl
    · exact id
  | removeMember member =>
    obtain rfl := Except.ok.inj h
    by_cases hmember : memberId = member.id
    · exact .inr ⟨member, rfl, hmember.symm⟩
    · exact .inl (isOwner_deleteMember hmember rfl howner)
  | addInvite invite entries =>
    simp only [OrgWrite.apply, bind_eq_ok, pure_eq_ok] at h
    obtain ⟨_, -, invites, -, rows, -, rfl⟩ := h
    exact .inl howner
  | removeInvite invite =>
    obtain rfl := Except.ok.inj h
    exact .inl howner
  | acceptInvite invite user memberId' =>
    simp only [OrgWrite.apply, bind_eq_ok, orFail_eq_ok, pure_eq_ok] at h
    obtain ⟨_, -, members, hmembers, rows, -, invites, -, rfl⟩ := h
    exact .inl (isOwner_insertMember hmembers howner)
  | applyInvite loaded invite user =>
    simp only [OrgWrite.apply, bind_eq_ok, pure_eq_ok] at h
    obtain ⟨members, hmembers, rows, -, invites, -, rfl⟩ := h
    unfold raiseMember at hmembers
    split at hmembers
    · simp only [bind_eq_ok, orFail_eq_ok, pure_eq_ok] at hmembers
      obtain ⟨current, hcurrent, rfl⟩ := hmembers
      refine (isOwner_writtenRole (current.raised loaded casing now invite) hcurrent rfl rfl rfl rfl howner).imp_right ?_
      rintro ⟨hmoves, hmember⟩
      exact ⟨loaded, if_neg hmoves, hmember⟩
    · obtain rfl := Except.ok.inj hmembers
      exact .inl howner

/-! ## Checking -/

def NotLastOwner (db : Db) (organizationId memberId : Uuid) : Prop :=
  IsOwner db organizationId memberId → ∃ other, other ≠ memberId ∧ IsOwner db organizationId other

theorem notLastOwner_of_length (h : 1 < (owners db organizationId).length) (memberId : Uuid) :
    NotLastOwner db organizationId memberId := by
  intro _
  have hnodup : ((owners db organizationId).map key).Nodup :=
    List.Nodup.sublist (List.filter_sublist.map key) db.members.nodup
  match howners : owners db organizationId with
  | [] | [_] =>
    rw [howners] at h
    exact absurd h (by simp)
  | m :: m' :: rest =>
    rw [howners] at hnodup
    have hne : m.id ≠ m'.id := fun hid => (List.nodup_cons.mp hnodup).1 (List.mem_cons.mpr (.inl hid))
    have hm : IsOwner db organizationId m.id :=
      isOwner_iff_mem_owners.mpr ⟨m, howners ▸ List.mem_cons_self .., rfl⟩
    have hm' : IsOwner db organizationId m'.id :=
      isOwner_iff_mem_owners.mpr ⟨m', howners ▸ List.mem_cons_of_mem m (List.mem_cons_self ..), rfl⟩
    by_cases hmember : m.id = memberId
    · exact ⟨m'.id, fun hid => hne (hmember.trans hid.symm), hm'⟩
    · exact ⟨m.id, hmember, hm⟩

/-- The step leaves the owners that requests count on in place: no update that gives the last owner
another role is checked, and a write that unseats an owner is committed only when it and the owners
it read are owners still. -/
def LeavesOwner (casing : Casing) (s : OrgSessions) : OrgAction → Prop
  | .check _ _ (.updateMember actor memberId (some (some role))) =>
    normalizeRole casing role ≠ "owner" → NotLastOwner s.db actor.organizationId memberId
  | .commit id _ => ∀ p, s.checked.get? id = some p → ∀ m, p.write.unseats? casing = some m →
    ∀ organizationId, IsOwner s.db organizationId m.id →
      IsOwner p.seen organizationId m.id ∧ ∀ other, IsOwner p.seen organizationId other → IsOwner s.db organizationId other
  | _ => True

/-- **A checked request** does not unseat the last owner it read. -/
theorem notLastOwner_of_check {id : Nat} {request : OrgRequest} {write : OrgWrite}
    (h : checkOrgRequest casing s.db now request = .ok write) (hleaves : LeavesOwner casing s (.check id now request))
    (hunseats : write.unseats? casing = some m) (organizationId : Uuid) : NotLastOwner s.db organizationId m.id := by
  cases request with
  | updateMember actor memberId role =>
    simp only [checkOrgRequest, bind_eq_ok, pure_eq_ok] at h
    obtain ⟨_, -, member, hmember, rfl⟩ := h
    obtain ⟨hget, hon, hid⟩ := requireOrgMember_eq_ok hmember
    rcases role with _ | _ | role
    · cases hunseats
    · cases hunseats
    · have hunseats : (if _ then none else some member) = some m := hunseats
      split at hunseats
      · cases hunseats
      rename_i hother
      obtain rfl := Option.some.inj hunseats
      intro howner
      obtain rfl : member.organizationId = organizationId := ((isOwner_of_get? hget).mp howner).1
      have hrole : normalizeRole casing role ≠ "owner" := fun heq => hother (.inl (Role.ofText_eq_owner.mpr heq))
      have hnot := hleaves hrole
      rw [← hon, ← hid] at hnot
      exact hnot howner
  | removeMember actor memberId =>
    simp only [checkOrgRequest, checkRemoval, bind_eq_ok, require_eq_ok, pure_eq_ok] at h
    obtain ⟨_, -, member, hmember, _, ⟨_, -, _, -, hcount⟩, rfl⟩ := h
    obtain ⟨hget, hon, -⟩ := requireOrgMember_eq_ok hmember
    obtain rfl := Option.some.inj hunseats
    intro howner
    obtain ⟨rfl, hrole⟩ := (isOwner_of_get? hget).mp howner
    exact notLastOwner_of_length (hon ▸ hcount hrole) member.id howner
  | acceptInvite user token memberId =>
    simp only [checkOrgRequest, bind_eq_ok, orFail_eq_ok, pure_eq_ok] at h
    obtain ⟨invite, -, _, -, h⟩ := h
    split at h
    · obtain rfl := h
      cases hunseats
    · rename_i member hmember
      obtain rfl := h
      have hget : s.db.members.get? member.id = some member := Table.get?_key (List.mem_of_find?_eq_some hmember)
      have hunseats : (if _ then none else some member) = some m := hunseats
      split at hunseats
      · cases hunseats
      rename_i hother
      obtain rfl := Option.some.inj hunseats
      -- an owner is not given another role
      intro howner
      exact absurd (.inl (raisedRole_of_owner ((isOwner_of_get? hget).mp howner).2 casing invite)) hother
  | updateAccess actor memberId update =>
    simp only [checkOrgRequest, bind_eq_ok, pure_eq_ok] at h
    obtain ⟨_, -, member, -, _, -, rfl⟩ := h
    cases hunseats
  | createInvite actor inviteId token payload =>
    simp only [checkOrgRequest, bind_eq_ok, pure_eq_ok] at h
    obtain ⟨_, -, _, -, _, -, _, -, rfl⟩ := h
    cases hunseats
  | revokeInvite actor inviteId =>
    simp only [checkOrgRequest, bind_eq_ok, pure_eq_ok] at h
    obtain ⟨_, -, invite, -, _, -, rfl⟩ := h
    cases hunseats

/-! ## Every run of steps -/

/-- What the requests between their steps rely on: none unseats the last owner it read. -/
def OwnersSeen (casing : Casing) (s : OrgSessions) : Prop :=
  ∀ p ∈ s.checked, ∀ m, p.write.unseats? casing = some m → ∀ organizationId, NotLastOwner p.seen organizationId m.id

theorem OwnersSeen.close (h : OwnersSeen casing s) (id : Nat) : OwnersSeen casing (s.close id) :=
  fun p hp => h p (Table.mem_deleteWhere.mp hp).1

/-- **One step** that leaves the owners requests count on in place keeps an owner. -/
theorem leavesOwner_step (hseen : OwnersSeen casing s) (howner : HasOwner s.db organizationId) {action : OrgAction}
    (hleaves : LeavesOwner casing s action) (h : s.step casing action = some t) :
    OwnersSeen casing t ∧ HasOwner t.db organizationId := by
  cases action with
  | check id now request =>
    unfold OrgSessions.step at h
    dsimp only at h
    split at h
    · cases h
    rename_i write hcheck
    obtain ⟨checked, hinsert, rfl⟩ := Option.map_eq_some_iff.mp h
    refine ⟨fun p hp => ?_, howner⟩
    rcases (Table.mem_insert? hinsert).mp hp with hold | rfl
    · exact hseen p hold
    · exact fun m hunseats organizationId => notLastOwner_of_check hcheck hleaves hunseats organizationId
  | commit id now =>
    obtain ⟨p, hget, rfl⟩ := Option.map_eq_some_iff.mp h
    have hp := Table.mem_of_get? hget
    split
    · exact ⟨hseen.close id, howner⟩
    rename_i db happly
    refine ⟨hseen.close id, hasOwner_iff.mpr ?_⟩
    obtain ⟨memberId, hmember⟩ := hasOwner_iff.mp howner
    rcases isOwner_apply happly hmember with hstays | ⟨m, hunseats, rfl⟩
    · exact ⟨memberId, hstays⟩
    · -- the request read another owner, who is one still
      obtain ⟨hread, hothers⟩ := hleaves p hget m hunseats organizationId hmember
      obtain ⟨other, hne, hother⟩ := hseen p hp m hunseats organizationId hread
      rcases isOwner_apply happly (hothers other hother) with hstays | ⟨m', hunseats', hid⟩
      · exact ⟨other, hstays⟩
      · obtain rfl := Option.some.inj (hunseats.symm.trans hunseats')
        exact absurd hid.symm hne
  | giveUp id =>
    obtain rfl := Option.some.inj h
    exact ⟨hseen.close id, howner⟩

/-- **An organization with an owner keeps one** in every run of steps that leave the owners requests count on in
place. -/
theorem ownerRemains {casing : Casing} {db : Db} {organizationId : Uuid} {actions : List OrgAction}
    (howner : HasOwner db organizationId) (h : (orgSessionsMachine casing).Along (LeavesOwner casing) { db } actions) :
    ∀ t ∈ (orgSessionsMachine casing).committed { db } actions, HasOwner t.db organizationId := by
  have hstart : OwnersSeen casing { db } ∧ HasOwner db organizationId :=
    ⟨fun p hp => absurd hp (Table.not_mem_empty p), howner⟩
  intro t ht
  exact (Machine.committed_inv (fun s => OwnersSeen casing s ∧ HasOwner s.db organizationId)
    (fun s action hs hleaves t ht => leavesOwner_step hs.1 hs.2 hleaves (mem_orgSessions.mp ht)) hstart h t ht).2

namespace Sample

def partner : OrganizationMember := { id := 2, organizationId := 1, userId := 2, role := .owner }

def partners : Db where
  members := ⟨[owner, partner], by decide⟩

def ownerActor : OrgActor := { userId := 1, organizationId := 1 }

def partnerActor : OrgActor := { userId := 2, organizationId := 1 }

def stepDown : List OrgAction := [.check 1 1 (.updateMember ownerActor 1 (some (some "member"))), .commit 1 1]

def removeEachOther : List OrgAction :=
  [.check 1 1 (.removeMember ownerActor 2), .check 2 1 (.removeMember partnerActor 1), .commit 1 1, .commit 2 1]

end Sample

theorem ownerRemains_removed : ((orgSessionsMachine Sample.lowered).committed { db := Sample.partners }
    [.check 1 1 (.removeMember Sample.ownerActor 2), .commit 1 1]).Forall fun t => HasOwner t.db 1 := by
  refine List.forall_iff_forall_mem.mpr (ownerRemains (by decide) ⟨trivial, ?_, trivial⟩)
  intro p hget m hunseats organizationId howner
  obtain rfl : ({ id := 1, seen := Sample.partners, write := .removeMember Sample.partner } : CheckedRequest) = p :=
    Option.some.inj hget
  exact ⟨howner, fun other hother => hother⟩

/-- The only owner steps down; and two owners remove each other. -/
theorem not_ownerRemains :
    (¬ ∀ (casing : Casing) (db : Db) (organizationId : Uuid) (actions : List OrgAction), HasOwner db organizationId →
        ∀ t ∈ (orgSessionsMachine casing).committed { db } actions, HasOwner t.db organizationId) ∧
      ¬ HasOwner ((orgSessionsMachine Sample.lowered).run { db := Sample.partners } Sample.removeEachOther).db 1 := by
  constructor
  · intro h
    have hlost : ∃ t ∈ (orgSessionsMachine Sample.lowered).committed { db := Sample.team } Sample.stepDown,
        ¬ HasOwner t.db 1 := by decide
    obtain ⟨t, ht, hnone⟩ := hlost
    exact hnone (h _ _ 1 _ (by decide) t ht)
  · decide

end SiloForge
