import SiloForge.Organizations.FirstLogin
import SiloForge.Organizations.Owners

/-!
# What one statement of a first login does

Before the user has a membership a statement leaves the rows, or creates one under the lock; once there is one, every
call is on its way to it.

* `home` : the membership a call would find, the active one or the oldest;
* `OpenStage`, `SettledStage` : the calls before and after;
* `OpenStage.advance`, `SettledStage.advance` : what a statement does to them;
* `exists_advance` : only a call that waits for the lock, or is over, has no next statement.
-/

namespace SiloForge

open Lib

/-! ## The membership a call finds -/

/-- The membership in the active organization, or else the oldest one. -/
def home (db : Db) (user : User) : Option OrganizationMember :=
  (user.activeOrganizationId.bind (getMember db user.id)).or (getFirstMembership db user.id)

section Members
variable {db : Db} {user : User} {m : OrganizationMember} {userId organizationId : Uuid}

theorem getMember_eq_some (h : getMember db userId organizationId = some m) :
    m ∈ db.members ∧ m.userId = userId ∧ m.organizationId = organizationId := by
  have hfound := List.find?_some h
  rw [decide_eq_true_eq] at hfound
  exact ⟨List.mem_of_find?_eq_some h, hfound⟩

theorem getMember_isSome (hm : m ∈ db.members) : (getMember db m.userId m.organizationId).isSome = true :=
  List.find?_isSome.mpr ⟨m, hm, decide_eq_true ⟨rfl, rfl⟩⟩

theorem getFirstMembership_eq_some (h : getFirstMembership db userId = some m) :
    m ∈ db.members ∧ m.userId = userId := by
  have hmem := List.mem_filter.mp (mem_of_firstBy h)
  exact ⟨hmem.1, of_decide_eq_true hmem.2⟩

theorem getFirstMembership_eq_none :
    getFirstMembership db userId = none ↔ ∀ m ∈ db.members, m.userId ≠ userId := by
  rw [getFirstMembership, firstBy_eq_none, List.filter_eq_nil_iff]
  exact forall₂_congr fun m _ => not_congr decide_eq_true_iff

theorem getMember_eq_none (h : getFirstMembership db userId = none) (organizationId : Uuid) :
    getMember db userId organizationId = none := by
  refine List.find?_eq_none.mpr fun m hm => ?_
  rw [decide_eq_true_eq]
  exact fun hboth => getFirstMembership_eq_none.mp h m hm hboth.1

theorem only_membership (hm : m ∈ db.members) (honly : ∀ x ∈ db.members, x.userId = m.userId → x = m) :
    getMember db m.userId m.organizationId = some m ∧ getFirstMembership db m.userId = some m ∧
      ∀ organizationId x, getMember db m.userId organizationId = some x → x = m := by
  refine ⟨?_, ?_, ?_⟩
  · obtain ⟨x, hx⟩ := Option.isSome_iff_exists.mp (getMember_isSome hm)
    obtain ⟨hmem, huser, -⟩ := getMember_eq_some hx
    rw [hx, honly x hmem huser]
  · cases hfirst : getFirstMembership db m.userId with
    | none => exact absurd rfl (getFirstMembership_eq_none.mp hfirst m hm)
    | some x =>
      obtain ⟨hmem, huser⟩ := getFirstMembership_eq_some hfirst
      rw [honly x hmem huser]
  · intro organizationId x hx
    obtain ⟨hmem, huser, -⟩ := getMember_eq_some hx
    exact honly x hmem huser

theorem home_only (hm : m ∈ db.members) (honly : ∀ x ∈ db.members, x.userId = m.userId → x = m)
    (huser : user.id = m.userId) : home db user = some m := by
  obtain ⟨-, hfirst, hall⟩ := only_membership hm honly
  rw [home, huser, hfirst]
  cases hactive : user.activeOrganizationId.bind (getMember db m.userId) with
  | none => rfl
  | some x =>
    obtain ⟨organizationId, -, hx⟩ := Option.bind_eq_some_iff.mp hactive
    rw [hall organizationId x hx]
    rfl

theorem home_mem (h : home db user = some m) : m ∈ db.members ∧ m.userId = user.id := by
  rcases Option.or_eq_some_iff.mp h with hactive | ⟨-, hfirst⟩
  · obtain ⟨organizationId, -, hm⟩ := Option.bind_eq_some_iff.mp hactive
    exact ⟨(getMember_eq_some hm).1, (getMember_eq_some hm).2.1⟩
  · exact getFirstMembership_eq_some hfirst

theorem home_of_none (h : user.activeOrganizationId = none) : home db user = getFirstMembership db user.id := by
  rw [home, h]
  rfl

end Members

/-! ## One statement -/

/-- Before the user has a membership: the calls that are about to create one hold the lock. -/
def OpenStage (db : LoginDb) (user : User) (call : LoginCall) : Prop :=
  match call.stage with
  | .active | .clear | .first | .lock => True
  | .recheck => call.holding = true
  | .invite email => call.holding = true ∧ user.givenEmail = some email
  | .accept invite =>
    call.holding = true ∧ ∃ email, user.givenEmail = some email ∧ findPendingInvite db.toDb email = some invite
  | .create => call.holding = true ∧ ∀ email ∈ user.givenEmail, findPendingInvite db.toDb email = none
  | _ => False

/-- Once a membership is found: every call is on its way to it. -/
def SettledStage (db : LoginDb) (m : OrganizationMember) (call : LoginCall) : Prop :=
  match call.stage with
  | .active => home db.toDb call.user = some m
  | .clear | .first | .lock | .recheck => getFirstMembership db.toDb call.user.id = some m
  | .confirm x | .activate x | .adopt x | .packs _ _ x | .returned x => x = m
  | _ => False

structure Frame (free : Bool) (call call' : LoginCall) : Prop where
  id : call'.id = call.id
  userId : call'.user.id = call.user.id
  email : call'.user.email = call.user.email
  lock : call'.holding = true → call.holding = true ∨ free = true

/-- A statement creates a membership of the user, in the organization of the invitation that is found. -/
structure CreatesMembership (db db' : LoginDb) (user : User) (m : OrganizationMember)
    (organization? : Option Organization) : Prop where
  members : db.members.insert? m = some db'.members
  userId : m.userId = user.id
  organizations : ∀ o, o ∈ db'.organizations ↔ o ∈ db.organizations ∨ o ∈ organization?
  invited : ∀ email ∈ user.givenEmail, ∀ i, findPendingInvite db.toDb email = some i →
    m.organizationId = i.organizationId

def HasRow (db : LoginDb) (user : User) : Prop := ∃ u, db.users.get? user.id = some u ∧ u.email = user.email

section Statement
variable {casing : Casing} {db : LoginDb} {now : Time} {memberId : Uuid} {user u : User}

theorem setActive_eq (h : db.users.get? user.id = some u) (x : Option Uuid) :
    setActive db user.id x = some { db with users := db.users.put { u with activeOrganizationId := x } } := by
  rw [setActive, h]
  rfl

theorem get?_setActive (h : db.users.get? user.id = some u) (x : Option Uuid) :
    (db.users.put { u with activeOrganizationId := x }).get? user.id = some { u with activeOrganizationId := x } := by
  have hid : u.id = user.id := Table.key_of_get? h
  rw [← hid] at h ⊢
  exact @Table.get?_put_self _ _ _ _ _ { u with activeOrganizationId := x } _ h

theorem acceptInvite_isOk {invite : OrganizationInvite} (hinvite : db.invites.get? invite.id = some invite)
    (hnone : getMember db.toDb user.id invite.organizationId = none) (hmember : db.members.get? memberId = none)
    (haccess : ∀ a ∈ db.boardAccess, (db.members.get? a.organizationMemberId).isSome = true) :
    ∃ members boardAccess invites, db.members.insert? (invitedMember now invite user memberId) = some members ∧
      OrgWrite.apply casing db.toDb now (.acceptInvite invite user memberId) = .ok
        { db.toDb with
          members, boardAccess, invites, users := joinOrganization db.toDb user invite.organizationId } := by
  refine apply_acceptInvite hinvite hnone hmember (fun a ha hid => ?_) casing now
  have hold := haccess a ha
  rw [hid, hmember] at hold
  cases hold

theorem get?_joinOrganization (h : db.users.get? user.id = some u) (x : Uuid) :
    ∃ u', (joinOrganization db.toDb user x).get? user.id = some u' ∧ u'.email = u.email := by
  unfold joinOrganization
  rw [h]
  split
  · rename_i hcurrent
    obtain rfl := Option.some.inj hcurrent
    exact ⟨_, get?_setActive h (some x), rfl⟩
  · exact ⟨u, h, rfl⟩

theorem findPendingInvite_eq_some {email : String} {invite : OrganizationInvite}
    (h : findPendingInvite db.toDb email = some invite) :
    invite ∈ db.invites ∧ invite.acceptedAt = none ∧ invite.invitedEmail = email := by
  obtain ⟨hmem, hfound⟩ := List.mem_filter.mp (mem_of_firstBy h)
  exact ⟨hmem, of_decide_eq_true hfound⟩

end Statement

section Open
variable {casing : Casing} {free : Bool} {db db' : LoginDb} {now : Time} {organizationId memberId : Uuid} {user : User}
  {call call' : LoginCall}

theorem moved_frame (free : Bool) (call : LoginCall) (stage : LoginStage) : Frame free call (call.moved stage) :=
  ⟨rfl, rfl, rfl, fun h => .inl h⟩

/-- What a statement leaves before the user has a membership: the rows but for the users', or those of the first one. -/
structure OpenResult (free : Bool) (db db' : LoginDb) (user : User) (call call' : LoginCall) : Prop where
  frame : Frame free call call'
  row : HasRow db' user
  result : (∃ users, db' = { db with users } ∧ OpenStage db' user call') ∨
    call.holding = true ∧ ∃ m organization?, CreatesMembership db db' user m organization? ∧ SettledStage db' m call'

theorem OpenResult.of_moved {stage : LoginStage} (hrow : HasRow db user) (h : OpenStage db user (call.moved stage)) :
    OpenResult free db db user call (call.moved stage) :=
  ⟨moved_frame free call stage, hrow, .inl ⟨db.users, rfl, h⟩⟩

/-- The statement that accepts the invitation creates the membership of its organization. -/
theorem OpenStage.accept {invite : OrganizationInvite} (hopen : OpenStage db user call)
    (hstage : call.stage = .accept invite) (huser : call.user.id = user.id) (hrow : HasRow db user)
    (hget : ∀ x, getMember db.toDb user.id x = none) (hunused : db.members.get? memberId = none)
    (haccess : ∀ a ∈ db.boardAccess, (db.members.get? a.organizationMemberId).isSome = true)
    (h : advance casing free db now organizationId memberId call = some (db', call')) :
    OpenResult free db db' user call call' := by
  obtain ⟨u, hu, huemail⟩ := hrow
  obtain ⟨id, loaded, _, holding⟩ := call
  obtain rfl := hstage
  obtain ⟨hholding, email, hgiven, hfound⟩ := hopen
  have hinvite := Table.get?_key (findPendingInvite_eq_some hfound).1
  have hloaded : db.users.get? loaded.id = some u := (show loaded.id = user.id from huser) ▸ hu
  have hmember : getMember db.toDb loaded.id invite.organizationId = none := huser ▸ hget invite.organizationId
  obtain ⟨members, boardAccess, invites, hmembers, happly⟩ :=
    @acceptInvite_isOk casing _ now _ loaded _ hinvite hmember hunused haccess
  simp only [SiloForge.advance, happly] at h
  cases h
  obtain ⟨u', hu', huemail'⟩ := get?_joinOrganization hloaded invite.organizationId
  refine ⟨⟨rfl, rfl, rfl, by rintro ⟨⟩⟩, ⟨u', (show loaded.id = user.id from huser) ▸ hu', huemail'.trans huemail⟩,
    .inr ⟨hholding, _, none, ⟨hmembers, huser, fun o => by simp, fun email' hmem i hi => ?_⟩, rfl⟩⟩
  rw [hgiven] at hmem
  obtain rfl := Option.some.inj hmem
  obtain rfl := Option.some.inj (hfound.symm.trans hi)
  rfl

/-- The statement that creates the user's own organization creates the membership of an owner. -/
theorem OpenStage.create (hopen : OpenStage db user call) (hstage : call.stage = .create)
    (huser : call.user.id = user.id) (hrow : HasRow db user) (hget : ∀ x, getMember db.toDb user.id x = none)
    (hunusedOrganization : db.organizations.get? organizationId = none) (hunused : db.members.get? memberId = none)
    (h : advance casing free db now organizationId memberId call = some (db', call')) :
    OpenResult free db db' user call call' := by
  obtain ⟨u, hu, huemail⟩ := hrow
  obtain ⟨id, loaded, _, holding⟩ := call
  obtain rfl := hstage
  obtain ⟨hholding, hnoInvite⟩ := hopen
  obtain ⟨organizations, horganizations⟩ := Table.exists_insert?.mpr
    (show db.organizations.get? (key (newOrganization now organizationId)) = none from hunusedOrganization)
  obtain ⟨members, hmembers⟩ := Table.exists_insert?.mpr
    (show db.members.get? (key (newOwner now user.id organizationId memberId)) = none from hunused)
  have hinsert : insertMember db.toDb (newOwner now user.id organizationId memberId) = some members := by
    rw [insertMember, hmembers]
    exact if_pos (hget organizationId)
  simp only [SiloForge.advance, createPersonal, horganizations, show loaded.id = user.id from huser, setActive_eq hu,
    hinsert] at h
  cases h
  refine ⟨⟨rfl, rfl, rfl, by rintro ⟨⟩⟩, ⟨_, get?_setActive hu (some organizationId), huemail⟩,
    .inr ⟨hholding, _, some (newOrganization now organizationId),
      ⟨hmembers, rfl, fun o => ?_, fun email hmem i hi => ?_⟩, rfl⟩⟩
  · rw [Option.mem_some_iff, eq_comm]
    exact Table.mem_insert? horganizations
  · rw [hnoInvite email hmem] at hi
    cases hi

/-- **A statement before the user has a membership** leaves the rows as they are, or creates one under the lock. -/
theorem OpenStage.advance (hopen : OpenStage db user call) (huser : call.user.id = user.id) (hrow : HasRow db user)
    (hemail : call.user.email = user.email) (hnone : getFirstMembership db.toDb user.id = none)
    (haccess : ∀ a ∈ db.boardAccess, (db.members.get? a.organizationMemberId).isSome = true)
    (hunused : Logins.unused db organizationId memberId = true)
    (h : advance casing free db now organizationId memberId call = some (db', call')) :
    OpenResult free db db' user call call' := by
  obtain ⟨u, hu, huemail⟩ := hrow
  have hget := getMember_eq_none hnone
  rw [Logins.unused, Bool.and_eq_true, Option.isNone_iff_eq_none, Option.isNone_iff_eq_none] at hunused
  obtain ⟨id, loaded, stage, holding⟩ := call
  cases stage with
  | active =>
    simp only [SiloForge.advance] at h
    split at h
    · cases h
      exact .of_moved ⟨u, hu, huemail⟩ trivial
    · rw [show loaded.id = user.id from huser, hget] at h
      cases h
      exact .of_moved ⟨u, hu, huemail⟩ trivial
  | clear =>
    simp only [SiloForge.advance, show loaded.id = user.id from huser, setActive_eq hu] at h
    split at h
    · cases h
      exact ⟨⟨rfl, rfl, rfl, by rintro ⟨⟩⟩, ⟨_, get?_setActive hu none, huemail⟩, .inl ⟨_, rfl, trivial⟩⟩
    · cases h
  | first =>
    simp only [SiloForge.advance, show loaded.id = user.id from huser, hnone] at h
    cases h
    exact .of_moved ⟨u, hu, huemail⟩ trivial
  | lock =>
    simp only [SiloForge.advance, show loaded.id = user.id from huser, hu] at h
    split at h
    · rename_i hfree
      cases h
      exact ⟨⟨rfl, rfl, rfl, fun _ => .inr hfree⟩, ⟨u, hu, huemail⟩, .inl ⟨db.users, rfl, rfl⟩⟩
    · cases h
  | recheck =>
    have hgiven : loaded.givenEmail = user.givenEmail := congrArg (Option.filter _) hemail
    simp only [SiloForge.advance, show loaded.id = user.id from huser, hnone, hgiven] at h
    cases hcase : user.givenEmail with
    | none =>
      rw [hcase] at h
      cases h
      refine .of_moved ⟨u, hu, huemail⟩ ⟨hopen, fun email hmem => ?_⟩
      rw [hcase] at hmem
      cases hmem
    | some email =>
      rw [hcase] at h
      cases h
      exact .of_moved ⟨u, hu, huemail⟩ ⟨hopen, hcase⟩
  | invite email =>
    obtain ⟨hholding, hgiven⟩ := hopen
    simp only [SiloForge.advance] at h
    split at h
    · rename_i invite hfound
      cases h
      exact .of_moved ⟨u, hu, huemail⟩ ⟨hholding, email, hgiven, hfound⟩
    · rename_i hfound
      cases h
      refine .of_moved ⟨u, hu, huemail⟩ ⟨hholding, fun email' hmem => ?_⟩
      rw [hgiven] at hmem
      obtain rfl := Option.some.inj hmem
      exact hfound
  | accept invite => exact hopen.accept rfl huser ⟨u, hu, huemail⟩ hget hunused.2 haccess h
  | create => exact hopen.create rfl huser ⟨u, hu, huemail⟩ hget hunused.1 hunused.2 h
  | _ => exact hopen.elim

end Open

section Settled
variable {casing : Casing} {free : Bool} {db db' : LoginDb} {now : Time} {organizationId memberId : Uuid} {user : User}
  {call call' : LoginCall} {m : OrganizationMember}

def RowSettled (db : LoginDb) (user : User) (m : OrganizationMember) : Prop :=
  ∃ u, db.users.get? user.id = some u ∧ u.email = user.email ∧ home db.toDb u = some m

structure SettledResult (free : Bool) (db db' : LoginDb) (user : User) (m : OrganizationMember)
    (call call' : LoginCall) : Prop where
  frame : Frame free call call'
  members : db'.members = db.members
  organizations : db'.organizations = db.organizations
  row : RowSettled db' user m
  stage : SettledStage db' m call'

theorem SettledResult.of_moved {stage : LoginStage} (hrow : RowSettled db user m)
    (h : SettledStage db m (call.moved stage)) : SettledResult free db db user m call (call.moved stage) :=
  ⟨moved_frame free call stage, rfl, rfl, hrow, h⟩

theorem home_congr (h : db'.members = db.members) (user : User) : home db'.toDb user = home db.toDb user := by
  unfold home getFirstMembership getMember
  rw [h]

theorem RowSettled.setActive {u : User} {x : Option Uuid} (hu : db.users.get? user.id = some u)
    (hemail : u.email = user.email) (hhome : home db.toDb { u with activeOrganizationId := x } = some m) :
    RowSettled { db with users := db.users.put { u with activeOrganizationId := x } } user m := by
  refine ⟨_, get?_setActive hu x, hemail, ?_⟩
  rw [← hhome]
  exact home_congr rfl _

theorem activateMember_settled (huser : call.user.id = user.id) (hrow : RowSettled db user m)
    (hreads : getMember db.toDb user.id m.organizationId = some m)
    (h : activateMember free db call m = some (db', call')) : SettledResult free db db' user m call call' := by
  obtain ⟨u, hu, huemail, huhome⟩ := hrow
  unfold activateMember at h
  rw [huser, setActive_eq hu] at h
  split at h
  · cases h
    exact .of_moved ⟨u, hu, huemail, huhome⟩ rfl
  · split at h
    · cases h
      refine ⟨⟨rfl, rfl, rfl, by rintro ⟨⟩⟩, rfl, rfl, .setActive hu huemail ?_, rfl⟩
      have hid : u.id = user.id := Table.key_of_get? hu
      rw [home, Option.bind_some, hid, hreads]
      rfl
    · cases h

theorem SettledStage.active (hsettled : SettledStage db m call) (hstage : call.stage = .active)
    (hrow : RowSettled db user m)
    (h : advance casing free db now organizationId memberId call = some (db', call')) :
    SettledResult free db db' user m call call' := by
  obtain ⟨id, loaded, _, holding⟩ := call
  obtain rfl := hstage
  have hhome : home db.toDb loaded = some m := hsettled
  unfold home at hhome
  simp only [SiloForge.advance] at h
  split at h
  · rename_i hnone
    cases h
    rw [hnone] at hhome
    exact .of_moved hrow hhome
  · rename_i active hactive
    rw [hactive, Option.bind_some] at hhome
    cases hmember : getMember db.toDb loaded.id active with
    | some member =>
      rw [hmember] at h hhome
      cases h
      exact .of_moved hrow (Option.some.inj hhome)
    | none =>
      rw [hmember] at h hhome
      cases h
      exact .of_moved hrow hhome

theorem SettledStage.packs {pending : List SkillPack} {existing : List String} {member : OrganizationMember}
    (hsettled : SettledStage db m call) (hstage : call.stage = .packs pending existing member)
    (hrow : RowSettled db user m)
    (h : advance casing free db now organizationId memberId call = some (db', call')) :
    SettledResult free db db' user m call call' := by
  obtain ⟨id, loaded, _, holding⟩ := call
  obtain rfl := hstage
  obtain rfl : member = m := hsettled
  cases pending with
  | nil =>
    simp only [SiloForge.advance] at h
    cases h
    exact .of_moved hrow rfl
  | cons pack pending =>
    simp only [SiloForge.advance] at h
    split at h
    · cases h
      exact .of_moved hrow rfl
    · split at h
      · cases h
        exact .of_moved hrow rfl
      · cases h
        exact ⟨moved_frame free _ _, rfl, rfl, hrow, rfl⟩

/-- **A statement once a membership is found** leaves the call on its way to it. -/
theorem SettledStage.advance (hsettled : SettledStage db m call) (huser : call.user.id = user.id)
    (hrow : RowSettled db user m) (hreads : getMember db.toDb user.id m.organizationId = some m)
    (h : advance casing free db now organizationId memberId call = some (db', call')) :
    SettledResult free db db' user m call call' := by
  obtain ⟨u, hu, huemail, huhome⟩ := hrow
  obtain ⟨id, loaded, stage, holding⟩ := call
  cases stage with
  | active => exact hsettled.active rfl ⟨u, hu, huemail, huhome⟩ h
  | clear =>
    have hfirst : getFirstMembership db.toDb loaded.id = some m := hsettled
    simp only [SiloForge.advance, show loaded.id = user.id from huser, setActive_eq hu] at h
    split at h
    · cases h
      refine ⟨⟨rfl, rfl, rfl, by rintro ⟨⟩⟩, rfl, rfl, .setActive hu huemail ?_, hfirst⟩
      have hid : u.id = loaded.id := (Table.key_of_get? hu).trans huser.symm
      rw [home_of_none rfl, hid]
      exact hfirst
    · cases h
  | first =>
    simp only [SiloForge.advance, show getFirstMembership db.toDb loaded.id = some m from hsettled] at h
    cases h
    exact .of_moved ⟨u, hu, huemail, huhome⟩ rfl
  | confirm member =>
    obtain rfl : member = m := hsettled
    simp only [SiloForge.advance, show loaded.id = user.id from huser, hreads] at h
    cases h
    exact .of_moved ⟨u, hu, huemail, huhome⟩ rfl
  | activate member =>
    obtain rfl : member = m := hsettled
    exact activateMember_settled huser ⟨u, hu, huemail, huhome⟩ hreads h
  | lock =>
    simp only [SiloForge.advance] at h
    split at h
    · rename_i hfree
      cases h
      exact ⟨⟨rfl, rfl, rfl, fun _ => .inr hfree⟩, rfl, rfl, ⟨u, hu, huemail, huhome⟩, hsettled⟩
    · cases h
  | recheck =>
    simp only [SiloForge.advance, show getFirstMembership db.toDb loaded.id = some m from hsettled] at h
    cases h
    exact .of_moved ⟨u, hu, huemail, huhome⟩ rfl
  | adopt member =>
    obtain rfl : member = m := hsettled
    exact activateMember_settled huser ⟨u, hu, huemail, huhome⟩ hreads h
  | packs pending existing member => exact hsettled.packs rfl ⟨u, hu, huemail, huhome⟩ h
  | returned member => cases h
  | _ => exact hsettled.elim

end Settled

theorem exists_advance (casing : Casing) (db : LoginDb) (now : Time) (organizationId memberId : Uuid) {call : LoginCall}
    (hover : call.stage.isOver = false) : ∃ r, advance casing true db now organizationId memberId call = some r := by
  obtain ⟨id, loaded, stage, holding⟩ := call
  cases stage with
  | returned member => cases hover
  | failed => cases hover
  | packs pending existing member =>
    cases pending <;> simp only [advance]
    · exact ⟨_, rfl⟩
    · split
      · exact ⟨_, rfl⟩
      · split <;> exact ⟨_, rfl⟩
  | activate member =>
    simp only [advance, activateMember, if_true]
    split
    · exact ⟨_, rfl⟩
    · split <;> exact ⟨_, rfl⟩
  | adopt member =>
    simp only [advance, activateMember, if_true]
    split
    · exact ⟨_, rfl⟩
    · split <;> exact ⟨_, rfl⟩
  | active =>
    simp only [advance]
    split
    · exact ⟨_, rfl⟩
    · split <;> exact ⟨_, rfl⟩
  | lock => exact ⟨_, rfl⟩
  | create => exact ⟨_, rfl⟩
  | _ => simp only [advance, if_true]; split <;> exact ⟨_, rfl⟩

end SiloForge
