import SiloForge.Organizations.BoardLists
import SiloForge.Organizations.Owners

/-!
# What invitations and updates grant

Access to boards is granted by flags for the whole organization and by rows for single boards, on a member, in an
update and on an invitation.

* `AccessGrant` : flags and entries; `AccessGrant.opens` : the boards they open, `AccessGrant.stored` : without the
  entries beside a flag;
* `Enrolled`, `Applies` : an invitation applied to a member;
* `invitesJoin` : what the member had and what the invitation grants are joined;
* `accessGiven` : the boards an update or an invitation opens.
-/

namespace SiloForge

open Lib

/-! ## Grants -/

/-- Whether a pair of columns admits the mode; writing admits reading. -/
def admits (canRead canWrite write : Bool) : Bool := if write then canWrite else canRead || canWrite

theorem admits_or (r w r' w' write : Bool) : admits (r || r') (w || w') write = (admits r w write || admits r' w' write) := by
  cases write with
  | false =>
    show ((r || r') || (w || w')) = ((r || w) || (r' || w'))
    cases r <;> cases w <;> cases r' <;> rfl
  | true => rfl

theorem admits_false (write : Bool) : admits false false write = false := by cases write <;> rfl

/-- Access to the boards of an organization: to all of them by the flags, to single ones by the entries. -/
structure AccessGrant where
  allBoardsRead : Bool
  allBoardsWrite : Bool
  entries : List OrganizationBoardAccessSpec

namespace AccessGrant

def flagged (grant : AccessGrant) : Bool := grant.allBoardsRead || grant.allBoardsWrite

def lists (grant : AccessGrant) (boardId : Uuid) (write : Bool) : Bool :=
  grant.entries.any fun e => e.boardId = boardId && admits e.canRead e.canWrite write

/-- Whether the mode is granted on a board of the organization. -/
def opens (grant : AccessGrant) (organizationId : Uuid) (board : Board) (write : Bool) : Bool :=
  decide (organizationId = board.organizationId) &&
    (admits grant.allBoardsRead grant.allBoardsWrite write || grant.lists board.id write)

/-- The flags alone where one is set, and the entries where none is. -/
def stored (grant : AccessGrant) : AccessGrant :=
  if grant.flagged then { grant with entries := [] } else grant

end AccessGrant

def OrganizationMemberAccessUpdate.grant (update : OrganizationMemberAccessUpdate) : AccessGrant :=
  ⟨update.allBoardsRead, update.allBoardsWrite, update.boardAccess⟩

def OrganizationInviteCreate.grant (payload : OrganizationInviteCreate) : AccessGrant :=
  ⟨payload.allBoardsRead, payload.allBoardsWrite, payload.boardAccess⟩

def inviteGrant (db : Db) (invite : OrganizationInvite) : AccessGrant :=
  { allBoardsRead := invite.allBoardsRead
    allBoardsWrite := invite.allBoardsWrite
    entries := (rowsOfInvite db invite).map fun a => { boardId := a.boardId, canRead := a.canRead, canWrite := a.canWrite } }

def rowAdmits (access : Table OrganizationBoardAccess) (memberId boardId : Uuid) (write : Bool) : Bool :=
  (access.get? (memberId, boardId)).any fun a => admits a.canRead a.canWrite write

theorem hasBoardAccess_eq (db : Db) (member : OrganizationMember) (board : Board) (write : Bool) :
    hasBoardAccess db member board write = (decide (member.organizationId = board.organizationId) &&
      (admits member.allBoardsRead member.allBoardsWrite write || rowAdmits db.boardAccess member.id board.id write)) := by
  unfold hasBoardAccess memberAllBoardsRead memberAllBoardsWrite rowAdmits
  by_cases horg : member.organizationId = board.organizationId
  · cases db.boardAccess.get? (member.id, board.id) <;> cases write <;>
      cases member.allBoardsRead <;> cases member.allBoardsWrite <;> simp [horg, admits]
  · simp [horg]

/-! ## Rows -/

section Rows
variable {access access' : Table OrganizationBoardAccess} {memberId boardId : Uuid} {write : Bool}

theorem rowAdmits_eq : rowAdmits access memberId boardId write = access.rows.any fun a =>
    decide (a.organizationMemberId = memberId ∧ a.boardId = boardId) && admits a.canRead a.canWrite write := by
  unfold rowAdmits
  rw [Table.any_get?]
  congr 1
  funext a
  congr 1
  exact decide_eq_decide.mpr Prod.mk_inj

theorem rowAdmits_insertAll? {rows : List OrganizationBoardAccess} (h : access.insertAll? rows = some access') :
    rowAdmits access' memberId boardId write = (rowAdmits access memberId boardId write || rows.any fun a =>
      decide (a.organizationMemberId = memberId ∧ a.boardId = boardId) && admits a.canRead a.canWrite write) := by
  rw [rowAdmits_eq, rowAdmits_eq, Table.rows_insertAll? h, List.any_append]

theorem rowAdmits_of_none (h : ∀ a ∈ access, a.organizationMemberId ≠ memberId) :
    rowAdmits access memberId boardId write = false := by
  rw [rowAdmits_eq, List.any_eq_false]
  intro a ha
  simp [h a ha]

theorem any_accessRows (entries : List OrganizationBoardAccessSpec) :
    ((accessRows memberId entries).any fun a =>
      decide (a.organizationMemberId = memberId ∧ a.boardId = boardId) && admits a.canRead a.canWrite write) =
      entries.any fun e => e.boardId = boardId && admits e.canRead e.canWrite write := by
  unfold accessRows
  rw [List.any_map]
  congr 1
  funext e
  simp

theorem rowAdmits_grantRow (row : OrganizationInviteBoardAccess) :
    rowAdmits (grantRow memberId access row) memberId boardId write =
      (rowAdmits access memberId boardId write ||
        decide (row.boardId = boardId) && admits row.canRead row.canWrite write) := by
  have hwrites : admits (row.canRead || row.canWrite) row.canWrite write = admits row.canRead row.canWrite write := by
    cases write <;> simp [admits]
  unfold grantRow rowAdmits
  cases hget : access.get? (memberId, row.boardId) with
  | some existing =>
    let raised : OrganizationBoardAccess :=
      { existing with canRead := existing.canRead || (row.canRead || row.canWrite)
                      canWrite := existing.canWrite || row.canWrite }
    have hkey : key raised = (memberId, row.boardId) := show key existing = _ from Table.key_of_get? hget
    show ((access.put raised).get? (memberId, boardId)).any _ = _
    rw [Table.get?_put, hkey]
    by_cases hb : row.boardId = boardId
    · subst hb
      rw [if_pos rfl, hget]
      simp [raised, admits_or, hwrites]
    · rw [if_neg fun h => hb (Prod.mk_inj.mp h).2.symm]
      simp [hb]
  | none =>
    let granted : OrganizationBoardAccess :=
      { organizationMemberId := memberId, boardId := row.boardId, canRead := row.canRead || row.canWrite
        canWrite := row.canWrite }
    have hkey : key granted = (memberId, row.boardId) := rfl
    obtain ⟨t, ht⟩ : ∃ t, access.insert? granted = some t := Table.exists_insert?.mpr hget
    show (((access.insert? granted).getD access).get? (memberId, boardId)).any _ = _
    rw [ht, Option.getD_some, Table.get?_insert? ht, hkey]
    by_cases hb : row.boardId = boardId
    · subst hb
      rw [if_pos rfl, hget]
      simp [granted, hwrites]
    · rw [if_neg fun h => hb (Prod.mk_inj.mp h).2.symm]
      simp [hb]

theorem rowAdmits_grantRows (rows : List OrganizationInviteBoardAccess) :
    rowAdmits (rows.foldl (grantRow memberId) access) memberId boardId write =
      (rowAdmits access memberId boardId write ||
        rows.any fun row => decide (row.boardId = boardId) && admits row.canRead row.canWrite write) := by
  induction rows generalizing access with
  | nil => simp
  | cons row rows ih => rw [List.foldl_cons, ih, rowAdmits_grantRow, List.any_cons, Bool.or_assoc]

end Rows

/-! ## An invitation applied to a member -/

structure Enrolled where
  db : Db
  member : OrganizationMember
  enrolled : db.members.get? member.id = some member

namespace Enrolled

def access (e : Enrolled) : Board → Bool → Bool := hasBoardAccess e.db e.member

/-- `apply_invite_to_member`, committed with the acceptance. -/
def Applies (casing : Casing) (now : Time) (invite : OrganizationInvite) (user : User) (e e' : Enrolled) : Prop :=
  OrgWrite.apply casing e.db now (.applyInvite e.member invite user) = .ok e'.db ∧ e'.member.id = e.member.id

end Enrolled

def Role.higher (role other : Role) : Role := if role.rank < other.rank then other else role

def invitedRole (casing : Casing) (invite : OrganizationInvite) : Role :=
  Role.ofText (normalizeRole casing (if invite.role = "" then "member" else invite.role))

theorem raisedRole_eq (casing : Casing) (loaded : OrganizationMember) (invite : OrganizationInvite) :
    raisedRole casing loaded invite = loaded.role.higher (invitedRole casing invite) := rfl

namespace Role

theorem higher_self_right (role other : Role) : (role.higher other).higher other = role.higher other := by
  by_cases h : role.rank < other.rank
  · simp [higher, h]
  · simp [higher, h]

theorem eq_of_rank_eq {role other : Role} (h : role.rank = other.rank) (hpos : 0 < role.rank) : role = other := by
  cases role <;> cases other <;> simp_all [rank]

theorem higher_right_comm (role a b : Role) : (role.higher a).higher b = (role.higher b).higher a := by
  unfold higher
  by_cases ha : role.rank < a.rank
  · by_cases hb : role.rank < b.rank
    · rw [if_pos ha, if_pos hb]
      rcases Nat.lt_trichotomy a.rank b.rank with hab | hab | hab
      · rw [if_pos hab, if_neg (by omega)]
      · obtain rfl := eq_of_rank_eq hab (by omega)
        rfl
      · rw [if_neg (by omega), if_pos hab]
    · rw [if_pos ha, if_neg hb, if_neg (by omega), if_pos ha]
  · rw [if_neg ha]
    by_cases hb : role.rank < b.rank
    · rw [if_pos hb, if_neg (by omega)]
    · rw [if_neg hb, if_neg ha]

end Role

section Applies
variable {casing : Casing} {now : Time} {invite : OrganizationInvite} {user : User} {e e' : Enrolled}

theorem exists_applies (hinvite : invite ∈ e.db.invites) (casing : Casing) (now : Time) (user : User) :
    ∃ e', e.Applies casing now invite user e' := by
  obtain ⟨members, hmembers, raised, hraised, hid⟩ : ∃ members, raiseMember casing e.db now e.member invite = .ok members ∧
      ∃ raised, members.get? e.member.id = some raised ∧ raised.id = e.member.id := by
    unfold raiseMember
    rw [e.enrolled]
    by_cases hchanges : changesMember casing e.member invite = true
    · rw [if_pos hchanges]
      exact ⟨_, rfl, _, Table.get?_put_self (r := e.member.raised e.member casing now invite) e.enrolled, rfl⟩
    · rw [if_neg hchanges]
      exact ⟨_, rfl, _, e.enrolled, rfl⟩
  obtain ⟨access, haccess⟩ : ∃ access, raiseAccess e.db e.member invite = .ok access := by
    unfold raiseAccess
    rw [e.enrolled]
    split
    · exact ⟨_, rfl⟩
    · exact ⟨_, by simp [require]; rfl⟩
  obtain ⟨invites, hinvites⟩ : ∃ invites, markAccepted e.db now invite user = .ok invites := by
    unfold markAccepted
    rw [show e.db.invites.get? invite.id = some invite from Table.get?_key hinvite]
    exact ⟨_, rfl⟩
  refine ⟨⟨{ e.db with members, boardAccess := access, invites }, raised, hid ▸ hraised⟩, ?_, hid⟩
  simp only [OrgWrite.apply, bind_eq_ok, pure_eq_ok]
  exact ⟨members, hmembers, access, haccess, invites, hinvites, rfl⟩

theorem raiseMember_eq_ok {db : Db} {loaded raised : OrganizationMember} {members : Table OrganizationMember}
    (hloaded : db.members.get? loaded.id = some loaded) (h : raiseMember casing db now loaded invite = .ok members)
    (hraised : members.get? loaded.id = some raised) :
    raised.organizationId = loaded.organizationId ∧ raised.role = loaded.role.higher (invitedRole casing invite) ∧
      raised.allBoardsRead = (loaded.allBoardsRead || (invite.allBoardsRead || invite.allBoardsWrite)) ∧
      raised.allBoardsWrite = (loaded.allBoardsWrite || invite.allBoardsWrite) := by
  unfold raiseMember at h
  by_cases hchanges : changesMember casing loaded invite = true
  · rw [if_pos hchanges, hloaded] at h
    obtain rfl := Except.ok.inj h
    have hput := Table.get?_put_self (r := loaded.raised loaded casing now invite) hloaded
    obtain rfl : loaded.raised loaded casing now invite = raised := Option.some.inj (hput.symm.trans hraised)
    simp [OrganizationMember.raised, raisedRole_eq]
  · rw [if_neg hchanges] at h
    obtain rfl := Except.ok.inj h
    obtain rfl : loaded = raised := Option.some.inj (hloaded.symm.trans hraised)
    simp only [changesMember, raisedRole_eq, Bool.or_eq_true, not_or] at hchanges
    obtain ⟨hchanged, hread, hwrite⟩ := hchanges
    have hrole : loaded.role = loaded.role.higher (invitedRole casing invite) :=
      (by_contra fun hne => hchanged (decide_eq_true (Ne.symm hne)))
    exact ⟨rfl, hrole, by simp [hread, hwrite], by simp [hwrite]⟩

theorem raiseAccess_eq_ok {db : Db} {loaded : OrganizationMember} {access : Table OrganizationBoardAccess}
    (h : raiseAccess db loaded invite = .ok access) (boardId : Uuid) (write : Bool) :
    rowAdmits access loaded.id boardId write = (rowAdmits db.boardAccess loaded.id boardId write ||
      (inviteGrant db invite).stored.lists boardId write) := by
  unfold raiseAccess at h
  by_cases hflagged : (invite.allBoardsRead || invite.allBoardsWrite) = true
  · rw [if_pos hflagged] at h
    obtain rfl := Except.ok.inj h
    have hnone : (inviteGrant db invite).stored.lists boardId write = false := by
      simp [AccessGrant.stored, AccessGrant.flagged, inviteGrant, hflagged, AccessGrant.lists]
    rw [hnone, Bool.or_false]
  · rw [if_neg hflagged] at h
    obtain ⟨_, -, haccess⟩ := bind_eq_ok.mp h
    obtain rfl := pure_eq_ok.mp haccess
    have hlists : (inviteGrant db invite).stored.lists boardId write =
        (rowsOfInvite db invite).any fun row => decide (row.boardId = boardId) && admits row.canRead row.canWrite write := by
      simp only [AccessGrant.stored, AccessGrant.flagged, inviteGrant, hflagged, Bool.false_eq_true, if_false,
        AccessGrant.lists, List.any_map]
      rfl
    rw [rowAdmits_grantRows, hlists]

namespace Enrolled

theorem Applies.frame (h : e.Applies casing now invite user e') :
    e'.member.organizationId = e.member.organizationId ∧ e'.db.inviteBoardAccess = e.db.inviteBoardAccess := by
  obtain ⟨happly, hid⟩ := h
  have henrolled := e'.enrolled
  simp only [OrgWrite.apply, bind_eq_ok, pure_eq_ok] at happly
  obtain ⟨members, hmembers, access, haccess, invites, hinvites, hdb⟩ := happly
  rw [hid, ← hdb] at henrolled
  refine ⟨(raiseMember_eq_ok e.enrolled hmembers henrolled).1, ?_⟩
  rw [← hdb]

/-- **An applied invitation is joined** to what the member was and had. -/
theorem Applies.joined (h : e.Applies casing now invite user e')
    (horg : e.member.organizationId = invite.organizationId) :
    e'.access = e.access ⊔ (inviteGrant e.db invite).stored.opens invite.organizationId ∧
      e'.member.role = e.member.role.higher (invitedRole casing invite) := by
  obtain ⟨happly, hid⟩ := h
  have henrolled := e'.enrolled
  simp only [OrgWrite.apply, bind_eq_ok, pure_eq_ok] at happly
  obtain ⟨members, hmembers, access, haccess, invites, hinvites, hdb⟩ := happly
  rw [hid, ← hdb] at henrolled
  obtain ⟨horganization, hrole, hread, hwrite⟩ := raiseMember_eq_ok e.enrolled hmembers henrolled
  refine ⟨?_, hrole⟩
  funext board write
  have hrows : e'.db.boardAccess = access := by rw [← hdb]
  have hflags : admits (inviteGrant e.db invite).stored.allBoardsRead (inviteGrant e.db invite).stored.allBoardsWrite write =
      admits (invite.allBoardsRead || invite.allBoardsWrite) invite.allBoardsWrite write := by
    unfold AccessGrant.stored inviteGrant
    split <;> cases write <;> simp [admits]
  show hasBoardAccess e'.db e'.member board write = (hasBoardAccess e.db e.member board write || _)
  rw [hasBoardAccess_eq, hasBoardAccess_eq, horganization, hrows, hid, raiseAccess_eq_ok haccess, hread, hwrite,
    admits_or, AccessGrant.opens, hflags, horg, ← Bool.and_or_distrib_left]
  congr 1
  ac_rfl

end Enrolled

end Applies

/-! ## Accepting is a join -/

/-- Applied to a member, an invitation joins the grant to what the member had and its role to the
member's, once and for all, in any order with another one. -/
structure InviteJoins (casing : Casing) (grant : AccessGrant) (e : Enrolled) (invite other : OrganizationInvite) : Prop where
  applied : ∀ now user, ∃ e', e.Applies casing now invite user e'
  joined : ∀ now user e', e.Applies casing now invite user e' →
    e'.access = e.access ⊔ grant.opens invite.organizationId ∧
      e'.member.role = e.member.role.higher (invitedRole casing invite)
  twice : ∀ now user e' later user' e'', e.Applies casing now invite user e' → e'.Applies casing later invite user' e'' →
    e''.access = e'.access ∧ e''.member.role = e'.member.role
  commutes : ∀ now user e₁ later user' e₁₂ now' user'' e₂ later' user''' e₂₁,
    e.Applies casing now invite user e₁ → e₁.Applies casing later other user' e₁₂ →
    e.Applies casing now' other user'' e₂ → e₂.Applies casing later' invite user''' e₂₁ →
      e₁₂.access = e₂₁.access ∧ e₁₂.member.role = e₂₁.member.role

/-- Every invitation joins its grant to a member of its organization. -/
def InvitesJoin (casing : Casing) (grant : Db → OrganizationInvite → AccessGrant) : Prop :=
  ∀ (e : Enrolled) (invite other : OrganizationInvite), invite ∈ e.db.invites →
    e.member.organizationId = invite.organizationId → e.member.organizationId = other.organizationId →
      InviteJoins casing (grant e.db invite) e invite other

def bareMember (now : Time) (invite : OrganizationInvite) (user : User) (memberId : Uuid) : OrganizationMember :=
  { id := memberId, organizationId := invite.organizationId, userId := user.id, createdAt := now, updatedAt := now }

structure Bare (db : Db) (now : Time) (invite : OrganizationInvite) (user : User) (memberId : Uuid) (e : Enrolled) :
    Prop where
  rows : ∀ a ∈ db.boardAccess, a.organizationMemberId ≠ memberId
  members : db.members.insert? (bareMember now invite user memberId) = some e.db.members
  boardAccess : e.db.boardAccess = db.boardAccess
  invites : e.db.inviteBoardAccess = db.inviteBoardAccess
  member : e.member = bareMember now invite user memberId

/-- `accept_invite`, committed. -/
def Accepts (casing : Casing) (db : Db) (now : Time) (invite : OrganizationInvite) (user : User) (memberId : Uuid)
    (e : Enrolled) : Prop :=
  OrgWrite.apply casing db now (.acceptInvite invite user memberId) = .ok e.db ∧ e.member.id = memberId

/-- An invitation that is accepted opens what it opens when it is applied to a bare member; the roles are related. -/
def AcceptsAsApplied (casing : Casing) (roles : OrganizationInvite → Role → Role → Prop) : Prop :=
  ∀ (db : Db) (invite : OrganizationInvite) (now : Time) (user : User) (memberId : Uuid) (accepted bare applied : Enrolled),
    Accepts casing db now invite user memberId accepted → Bare db now invite user memberId bare →
      bare.Applies casing now invite user applied →
        accepted.access = applied.access ∧ roles invite accepted.member.role applied.member.role

/-- The role of an accepted invitation is the invitation's as it is; where that is normalized and
one of the three, it is the role applied to a bare member. -/
def RoleKept (casing : Casing) (invite : OrganizationInvite) (accepted applied : Role) : Prop :=
  accepted = Role.ofText invite.role ∧ (normalizeRole casing invite.role = invite.role →
    accepted.rank = applied.rank ∧ (invite.role ∈ ["member", "admin", "owner"] → accepted = applied))

theorem inviteGrant_congr {db db' : Db} (h : db'.inviteBoardAccess = db.inviteBoardAccess) (invite : OrganizationInvite) :
    inviteGrant db' invite = inviteGrant db invite := by
  unfold inviteGrant rowsOfInvite
  rw [h]

theorem invitesJoin (casing : Casing) : InvitesJoin casing fun db invite => (inviteGrant db invite).stored := by
  intro e invite other hinvite horg horg'
  refine ⟨fun now user => exists_applies hinvite casing now user, fun now user e' h => h.joined horg, ?_, ?_⟩
  · intro now user e' later user' e'' h h'
    obtain ⟨haccess, hrole⟩ := h.joined horg
    obtain ⟨haccess', hrole'⟩ := h'.joined (h.frame.1.trans horg)
    rw [inviteGrant_congr h.frame.2] at haccess'
    exact ⟨by rw [haccess', haccess, sup_right_idem], by rw [hrole', hrole, Role.higher_self_right]⟩
  · intro now user e₁ later user' e₁₂ now' user'' e₂ later' user''' e₂₁ h₁ h₁₂ h₂ h₂₁
    obtain ⟨haccess₁, hrole₁⟩ := h₁.joined horg
    obtain ⟨haccess₂, hrole₂⟩ := h₂.joined horg'
    obtain ⟨haccess₁₂, hrole₁₂⟩ := h₁₂.joined (h₁.frame.1.trans horg')
    obtain ⟨haccess₂₁, hrole₂₁⟩ := h₂₁.joined (h₂.frame.1.trans horg)
    rw [inviteGrant_congr h₁.frame.2] at haccess₁₂
    rw [inviteGrant_congr h₂.frame.2] at haccess₂₁
    exact ⟨by rw [haccess₁₂, haccess₁, haccess₂₁, haccess₂, sup_right_comm],
      by rw [hrole₁₂, hrole₁, hrole₂₁, hrole₂, Role.higher_right_comm]⟩

section Accepts
variable {casing : Casing} {db : Db} {now : Time} {invite : OrganizationInvite} {user : User} {memberId : Uuid} {e : Enrolled}

theorem any_copiedRows (boardId : Uuid) (write : Bool) : ((copiedRows db invite memberId).any fun a =>
    decide (a.organizationMemberId = memberId ∧ a.boardId = boardId) && admits a.canRead a.canWrite write) =
      (inviteGrant db invite).stored.lists boardId write := by
  unfold copiedRows AccessGrant.lists AccessGrant.stored AccessGrant.flagged inviteGrant
  by_cases hflagged : (invite.allBoardsRead || invite.allBoardsWrite) = true
  · simp only [hflagged, if_true, List.any_nil]
  · simp only [hflagged, Bool.false_eq_true, if_false, List.any_map]
    congr 1
    funext a
    simp

theorem Accepts.member_eq (h : Accepts casing db now invite user memberId e) :
    e.member = invitedMember now invite user memberId := by
  obtain ⟨happly, hid⟩ := h
  have henrolled := e.enrolled
  simp only [OrgWrite.apply, bind_eq_ok, orFail_eq_ok, pure_eq_ok] at happly
  obtain ⟨_, -, members, hmembers, rows, -, invites, -, hdb⟩ := happly
  have hget := Table.get?_insert? hmembers memberId
  rw [if_pos (show memberId = key (invitedMember now invite user memberId) from rfl)] at hget
  rw [hid, ← hdb] at henrolled
  exact Option.some.inj (henrolled.symm.trans hget)

theorem Accepts.access_eq (h : Accepts casing db now invite user memberId e)
    (hrows : ∀ a ∈ db.boardAccess, a.organizationMemberId ≠ memberId) :
    e.access = (inviteGrant db invite).stored.opens invite.organizationId := by
  have hmember := h.member_eq
  obtain ⟨happly, -⟩ := h
  simp only [OrgWrite.apply, bind_eq_ok, orFail_eq_ok, pure_eq_ok] at happly
  obtain ⟨_, -, members, -, rows, haccess, invites, -, hdb⟩ := happly
  have hboardAccess : e.db.boardAccess = rows := by rw [← hdb]
  have hflags : (inviteGrant db invite).stored.allBoardsRead = invite.allBoardsRead ∧
      (inviteGrant db invite).stored.allBoardsWrite = invite.allBoardsWrite := by
    unfold AccessGrant.stored inviteGrant
    split <;> exact ⟨rfl, rfl⟩
  funext board write
  show hasBoardAccess e.db e.member board write = _
  rw [hasBoardAccess_eq, hmember, hboardAccess, rowAdmits_insertAll? haccess]
  show (_ && (_ || (rowAdmits db.boardAccess memberId board.id write || (copiedRows db invite memberId).any fun a =>
    decide (a.organizationMemberId = memberId ∧ a.boardId = board.id) && admits a.canRead a.canWrite write))) = _
  rw [rowAdmits_of_none hrows, Bool.false_or, any_copiedRows, AccessGrant.opens, hflags.1, hflags.2]
  rfl

theorem Bare.access_eq (h : Bare db now invite user memberId e) : e.access = ⊥ := by
  funext board write
  show hasBoardAccess e.db e.member board write = false
  rw [hasBoardAccess_eq, h.member, h.boardAccess]
  show (_ && (admits false false write || rowAdmits db.boardAccess memberId board.id write)) = false
  rw [admits_false, rowAdmits_of_none h.rows, Bool.or_false, Bool.and_false]

end Accepts

theorem roleKept (casing : Casing) (invite : OrganizationInvite) :
    RoleKept casing invite (Role.ofText invite.role) (Role.member.higher (invitedRole casing invite)) := by
  refine ⟨rfl, fun hnormalized => ?_⟩
  have hinvited : invite.role ≠ "" → invitedRole casing invite = Role.ofText invite.role := by
    intro hne
    unfold invitedRole
    rw [if_neg hne, hnormalized]
  have hnonempty : invite.role ≠ "" := by
    intro hempty
    rw [hempty] at hnormalized
    unfold normalizeRole at hnormalized
    split at hnormalized
    · exact absurd hnormalized (by decide)
    · exact ‹¬ _› hnormalized
  rw [hinvited hnonempty]
  constructor
  · unfold Role.higher
    split
    · rfl
    · rename_i hrank
      exact Nat.eq_zero_of_not_pos hrank
  · intro hknown
    simp only [List.mem_cons, List.not_mem_nil, or_false] at hknown
    obtain h | h | h := hknown <;> rw [h] <;> rfl

theorem acceptsAsApplied (casing : Casing) : AcceptsAsApplied casing (RoleKept casing) := by
  intro db invite now user memberId accepted bare applied haccepted hbare happlied
  have horg : bare.member.organizationId = invite.organizationId := by
    rw [hbare.member]
    rfl
  obtain ⟨haccess, hrole⟩ := happlied.joined horg
  rw [hbare.access_eq, bot_sup_eq, inviteGrant_congr hbare.invites] at haccess
  refine ⟨(haccepted.access_eq hbare.rows).trans haccess.symm, ?_⟩
  rw [hrole, haccepted.member_eq, hbare.member]
  exact roleKept casing invite

/-- **Accepting an invitation is a join**, of its flags or, where it has none, its rows; whoever is no member yet gets
what a bare member would, and the invitation's role as it is. -/
theorem acceptIsJoin (casing : Casing) : InvitesJoin casing (fun db invite => (inviteGrant db invite).stored) ∧
    AcceptsAsApplied casing (RoleKept casing) :=
  ⟨invitesJoin casing, acceptsAsApplied casing⟩

namespace Sample

def mixedInvite : OrganizationInvite :=
  { id := 1, organizationId := 1, invitedEmail := "", token := "a", allBoardsRead := true }

def viewerInvite : OrganizationInvite :=
  { id := 2, organizationId := 1, invitedEmail := "", token := "b", role := "viewer" }

def firstBoard : Board := { id := 1, organizationId := 1 }

def inviting : Db :=
  { team with
    boards := ⟨[firstBoard], by decide⟩
    invites := ⟨[mixedInvite, viewerInvite], by decide⟩
    inviteBoardAccess := ⟨[{ organizationInviteId := 1, boardId := 1, canRead := true, canWrite := true }], by decide⟩ }

def colleagueEnrolled : Enrolled := ⟨inviting, colleague, rfl⟩

def bareColleague : Enrolled :=
  ⟨{ inviting with members := ⟨[owner, admin, colleague, bareMember 1 viewerInvite { id := 4 } 4], by decide⟩ },
    bareMember 1 viewerInvite { id := 4 } 4, rfl⟩

end Sample

/-- Beside a flag the rows of an invitation are not applied, and an accepted invitation keeps a role of its own. -/
theorem not_acceptIsJoin : ¬ InvitesJoin Sample.lowered inviteGrant ∧
    ¬ AcceptsAsApplied Sample.lowered fun _ accepted applied => accepted = applied := by
  constructor
  · intro h
    have hmixed : Sample.mixedInvite ∈ Sample.colleagueEnrolled.db.invites := List.mem_cons_self
    have hjoins := h Sample.colleagueEnrolled Sample.mixedInvite Sample.mixedInvite hmixed rfl rfl
    obtain ⟨e', happlied⟩ := hjoins.applied 1 { id := 3 }
    have hclaimed := (hjoins.joined 1 { id := 3 } e' happlied).1
    have hstored := (happlied.joined rfl).1
    have hboard := congrFun (congrFun (hclaimed.symm.trans hstored) Sample.firstBoard) true
    exact absurd hboard (by decide)
  · intro h
    obtain ⟨members, rows, invites, hmembers, happly⟩ := @apply_acceptInvite Sample.inviting Sample.viewerInvite { id := 4 } 4
      rfl rfl rfl (fun a ha => (List.not_mem_nil ha).elim) Sample.lowered 1
    have hinvited : members.get? 4 = some (invitedMember 1 Sample.viewerInvite { id := 4 } 4) := by
      rw [Table.get?_insert? hmembers]
      rfl
    have hbare : Bare Sample.inviting 1 Sample.viewerInvite { id := 4 } 4 Sample.bareColleague :=
      ⟨fun a ha => (List.not_mem_nil ha).elim, rfl, rfl, rfl, rfl⟩
    have hviewer : Sample.viewerInvite ∈ Sample.bareColleague.db.invites := List.mem_cons_of_mem _ List.mem_cons_self
    obtain ⟨applied, happlied⟩ := exists_applies hviewer Sample.lowered 1 { id := 4 }
    let accepted : Enrolled := ⟨{ Sample.inviting with
      members, boardAccess := rows, invites
      users := joinOrganization Sample.inviting { id := 4 } Sample.viewerInvite.organizationId },
      invitedMember 1 Sample.viewerInvite { id := 4 } 4, hinvited⟩
    have haccepts : Accepts Sample.lowered Sample.inviting 1 Sample.viewerInvite { id := 4 } 4 accepted := ⟨happly, rfl⟩
    have hroles := (h _ _ _ _ _ accepted _ _ haccepts hbare happlied).2
    have hviewer : Role.ofText "viewer" = Role.member.higher (invitedRole Sample.lowered Sample.viewerInvite) :=
      hroles.trans (happlied.joined rfl).2
    exact absurd hviewer (by decide)

/-! ## Access granted is access given -/

namespace AccessGrant
variable {grant : AccessGrant}

theorem stored_stored (grant : AccessGrant) : grant.stored.stored = grant.stored := by
  unfold stored
  split
  · exact ite_self _
  · rfl

theorem stored_opens (h : grant.allBoardsRead = true → grant.allBoardsWrite = false → ∀ e ∈ grant.entries, e.canWrite = false)
    (organizationId : Uuid) : grant.stored.opens organizationId = grant.opens organizationId := by
  unfold stored
  split
  · rename_i hflagged
    funext board write
    have hlists : admits grant.allBoardsRead grant.allBoardsWrite write = false → grant.lists board.id write = false := by
      intro hclosed
      cases write with
      | false => exact absurd hflagged (Bool.eq_false_iff.mp hclosed)
      | true =>
        have hwrite : grant.allBoardsWrite = false := hclosed
        have hread : grant.allBoardsRead = true := by simpa [flagged, hwrite] using hflagged
        rw [lists, List.any_eq_false]
        intro e he
        simp [admits, h hread hwrite e he]
    show (_ && (_ || false)) = (_ && (_ || grant.lists board.id write))
    cases hclosed : admits grant.allBoardsRead grant.allBoardsWrite write with
    | false => rw [hlists hclosed]
    | true => rfl
  · rfl

end AccessGrant

/-- An update opens the boards of its grant, as it is shown. -/
def UpdateGiven (casing : Casing) (shown : AccessGrant → AccessGrant) : Prop :=
  ∀ (db : Db) (now : Time) (actor : OrgActor) (memberId : Uuid) (update : OrganizationMemberAccessUpdate) (t : Db)
    (member : OrganizationMember), respondOrg casing db now (.updateAccess actor memberId update) = .ok t →
      t.members.get? memberId = some member → hasBoardAccess t member = (shown update.grant).opens actor.organizationId

structure InviteStands (created later : Db) (invite : OrganizationInvite) : Prop where
  found : findInvite later invite.token = findInvite created invite.token
  rows : rowsOfInvite later invite = rowsOfInvite created invite

/-- A created invitation, accepted by whoever is no member yet, opens the boards of its grant, as it is shown. -/
def InviteGiven (casing : Casing) (shown : AccessGrant → AccessGrant) : Prop :=
  ∀ (db : Db) (now : Time) (actor : OrgActor) (inviteId : Uuid) (token : String) (payload : OrganizationInviteCreate)
    (t later u : Db) (acceptedAt : Time) (user : User) (member : OrganizationMember),
      respondOrg casing db now (.createInvite actor inviteId token payload) = .ok t →
      InviteStands t later (newInvite casing now actor inviteId token payload) →
      getMember later user.id actor.organizationId = none →
      (∀ a ∈ later.boardAccess, (later.members.get? a.organizationMemberId).isSome = true) →
      respondOrg casing later acceptedAt (.acceptInvite user token member.id) = .ok u →
      u.members.get? member.id = some member → hasBoardAccess u member = (shown payload.grant).opens actor.organizationId

theorem updateGiven (casing : Casing) : UpdateGiven casing AccessGrant.stored := by
  intro db now actor memberId update t member ht hmember
  obtain ⟨write, hcheck, happly⟩ := respondOrg_eq_ok.mp ht
  simp only [checkOrgRequest, bind_eq_ok, pure_eq_ok] at hcheck
  obtain ⟨admin, -, loaded, hloaded, -, -, rfl⟩ := hcheck
  obtain ⟨hget, horg, hid⟩ := requireOrgMember_eq_ok hloaded
  simp only [OrgWrite.apply, bind_eq_ok, orFail_eq_ok, pure_eq_ok] at happly
  obtain ⟨current, hcurrent, rows, hrows, rfl⟩ := happly
  obtain rfl : loaded = current := Option.some.inj (hget.symm.trans hcurrent)
  simp only [writtenColumn_self] at hmember
  have hput := Table.get?_put_self (t := db.members) (r := { loaded with
    allBoardsRead := update.allBoardsRead, allBoardsWrite := update.allBoardsWrite, updatedAt := now }) hget
  rw [← hid] at hmember
  obtain rfl := Option.some.inj (hput.symm.trans hmember)
  have hcleared : ∀ a ∈ db.boardAccess.deleteWhere fun a => a.organizationMemberId = loaded.id,
      a.organizationMemberId ≠ loaded.id := by
    intro a ha
    simpa using (Table.mem_deleteWhere.mp ha).2
  funext board write
  rw [hasBoardAccess_eq]
  show (decide (loaded.organizationId = board.organizationId) &&
    (admits update.allBoardsRead update.allBoardsWrite write || rowAdmits rows loaded.id board.id write)) = _
  rw [rowAdmits_insertAll? hrows, rowAdmits_of_none hcleared, Bool.false_or, horg]
  unfold AccessGrant.opens AccessGrant.stored AccessGrant.flagged OrganizationMemberAccessUpdate.grant
  by_cases hflagged : (update.allBoardsRead || update.allBoardsWrite) = true
  · simp only [hflagged, if_true]
    rfl
  · simp only [hflagged, Bool.false_eq_true, if_false]
    rw [any_accessRows]
    rfl

theorem rowsOfInvite_insertAll? {db t : Db} {invite : OrganizationInvite} {entries : List OrganizationBoardAccessSpec}
    (h : (db.inviteBoardAccess.deleteWhere fun a => a.organizationInviteId = invite.id).insertAll?
      (inviteAccessRows invite entries) = some t.inviteBoardAccess) :
    rowsOfInvite t invite = inviteAccessRows invite entries := by
  have hcleared : (db.inviteBoardAccess.deleteWhere fun a => a.organizationInviteId = invite.id).rows.filter
      (fun a => a.organizationInviteId = invite.id) = [] := by
    rw [List.filter_eq_nil_iff]
    intro a ha
    simpa using (Table.mem_deleteWhere.mp ha).2
  unfold rowsOfInvite
  rw [Table.rows_insertAll? h, List.filter_append, hcleared, List.nil_append, List.filter_eq_self]
  intro a ha
  exact decide_eq_true (inviteAccessRows_key ha)

theorem inviteGrant_of_rows {db : Db} {casing : Casing} {now : Time} {actor : OrgActor} {inviteId : Uuid} {token : String}
    {payload : OrganizationInviteCreate}
    (h : rowsOfInvite db (newInvite casing now actor inviteId token payload) =
      inviteAccessRows (newInvite casing now actor inviteId token payload) payload.boardAccess) :
    inviteGrant db (newInvite casing now actor inviteId token payload) = payload.grant.stored := by
  unfold inviteGrant
  rw [h]
  unfold inviteAccessRows newInvite AccessGrant.stored AccessGrant.flagged OrganizationInviteCreate.grant
  split
  · rfl
  · rw [List.map_map]
    exact congrArg (AccessGrant.mk _ _) (List.map_id'' (fun _ => rfl) _)

theorem inviteGiven (casing : Casing) : InviteGiven casing AccessGrant.stored := by
  intro db now actor inviteId token payload t later u acceptedAt user member ht hstands hnone haccess hu hmember
  obtain ⟨hadmitted, hinsert⟩ := createInvite_eq_ok ht
  have hrows : rowsOfInvite t (newInvite casing now actor inviteId token payload) =
      inviteAccessRows (newInvite casing now actor inviteId token payload) payload.boardAccess := by
    obtain ⟨write, hcheck, happly⟩ := respondOrg_eq_ok.mp ht
    simp only [checkOrgRequest, bind_eq_ok, pure_eq_ok] at hcheck
    obtain ⟨_, -, _, -, _, -, _, -, rfl⟩ := hcheck
    simp only [OrgWrite.apply, bind_eq_ok, orFail_eq_ok, pure_eq_ok] at happly
    obtain ⟨_, -, invites, -, rows, hrows, rfl⟩ := happly
    exact rowsOfInvite_insertAll? hrows
  have hfound := hstands.found.trans (findInvite_of_insert? hadmitted.token rfl hinsert)
  have haccepts : OrgWrite.apply casing later acceptedAt
      (.acceptInvite (newInvite casing now actor inviteId token payload) user member.id) = .ok u := by
    obtain ⟨write, hcheck, happly⟩ := respondOrg_eq_ok.mp hu
    simp only [checkOrgRequest, bind_eq_ok, orFail_eq_ok, pure_eq_ok] at hcheck
    obtain ⟨invite, hinvite, _, -, rfl⟩ := hcheck
    obtain rfl := Option.some.inj (hfound.symm.trans hinvite)
    rw [show getMember later user.id (newInvite casing now actor inviteId token payload).organizationId = none from hnone]
      at happly
    exact happly
  have hunused : ∀ a ∈ later.boardAccess, a.organizationMemberId ≠ member.id := by
    intro a ha hid
    simp only [OrgWrite.apply, bind_eq_ok, orFail_eq_ok] at haccepts
    obtain ⟨_, -, members, hmembers, -⟩ := haccepts
    have htaken := haccess a ha
    rw [hid, show later.members.get? member.id = none from (Table.insert?_eq_some hmembers).2] at htaken
    cases htaken
  have hopens := Accepts.access_eq (e := ⟨u, member, hmember⟩) ⟨haccepts, rfl⟩ hunused
  rw [inviteGrant_of_rows (hstands.rows.trans hrows), AccessGrant.stored_stored] at hopens
  exact hopens

/-- **Access granted is access given**, by the flags where one is set and by the entries where none
is; that is all unless an entry for writing stands beside a flag for reading alone. -/
theorem accessGiven (casing : Casing) : UpdateGiven casing AccessGrant.stored ∧ InviteGiven casing AccessGrant.stored ∧
    ∀ grant : AccessGrant,
      (grant.allBoardsRead = true → grant.allBoardsWrite = false → ∀ e ∈ grant.entries, e.canWrite = false) →
        ∀ organizationId, grant.stored.opens organizationId = grant.opens organizationId :=
  ⟨updateGiven casing, inviteGiven casing, fun _ h organizationId => AccessGrant.stored_opens h organizationId⟩

namespace Sample

def mixedUpdate : OrganizationMemberAccessUpdate :=
  { allBoardsRead := true, boardAccess := [{ boardId := 1, canWrite := true }] }

def mixedPayload : OrganizationInviteCreate :=
  { invitedEmail := "c", allBoardsRead := true, boardAccess := [{ boardId := 1, canWrite := true }] }

end Sample

/-- An entry for writing is dropped beside a flag for reading. -/
theorem not_accessGiven : ¬ UpdateGiven Sample.lowered id ∧ ¬ InviteGiven Sample.lowered id := by
  constructor
  · intro h
    obtain ⟨t, ht⟩ : ∃ t, respondOrg Sample.lowered Sample.inviting 1 (.updateAccess Sample.adminActor 3 Sample.mixedUpdate) =
        .ok t := ⟨_, rfl⟩
    obtain ⟨member, hmember⟩ : ∃ member, t.members.get? 3 = some member := by
      obtain rfl := Except.ok.inj ht
      exact ⟨_, rfl⟩
    have hclaimed := h _ _ _ _ _ _ _ ht hmember
    have hstored := updateGiven Sample.lowered _ _ _ _ _ _ _ ht hmember
    have hboard := congrFun (congrFun (hclaimed.symm.trans hstored) Sample.firstBoard) true
    exact absurd hboard (by decide)
  · intro h
    -- the invitation is created and accepted by another user
    have hrun : (((respondOrg Sample.lowered Sample.inviting 1
        (.createInvite Sample.adminActor 3 "c" Sample.mixedPayload)).bind
        fun t => respondOrg Sample.lowered t 2 (.acceptInvite { id := 4 } "c" 4)).toOption.bind fun u =>
          u.members.get? 4).isSome = true := by
      decide
    obtain ⟨member, hrun⟩ := Option.isSome_iff_exists.mp hrun
    obtain ⟨u, hu, hmember⟩ := Option.bind_eq_some_iff.mp hrun
    obtain ⟨t, ht, hu⟩ : ∃ t, respondOrg Sample.lowered Sample.inviting 1
        (.createInvite Sample.adminActor 3 "c" Sample.mixedPayload) =
        .ok t ∧ respondOrg Sample.lowered t 2 (.acceptInvite { id := 4 } "c" 4) = .ok u :=
      bind_eq_ok.mp (toOption_eq_some.mp hu)
    have hframe : t.members = Sample.inviting.members ∧ t.boardAccess = Sample.inviting.boardAccess := by
      obtain ⟨write, hcheck, happly⟩ := respondOrg_eq_ok.mp ht
      simp only [checkOrgRequest, bind_eq_ok, pure_eq_ok] at hcheck
      obtain ⟨_, -, _, -, _, -, _, -, rfl⟩ := hcheck
      simp only [OrgWrite.apply, bind_eq_ok, orFail_eq_ok, pure_eq_ok] at happly
      obtain ⟨_, -, invites, -, rows, -, rfl⟩ := happly
      exact ⟨rfl, rfl⟩
    have hid : 4 = member.id := (Table.key_of_get? hmember).symm
    rw [hid] at hmember
    have haccept : respondOrg Sample.lowered t 2 (.acceptInvite { id := 4 } "c" member.id) = .ok u := hid ▸ hu
    have hnone : getMember t 4 1 = none := by
      unfold getMember
      rw [hframe.1]
      rfl
    have haccess : ∀ a ∈ t.boardAccess, (t.members.get? a.organizationMemberId).isSome = true := by
      rw [hframe.2]
      exact fun a ha => (List.not_mem_nil ha).elim
    have hclaimed := h _ _ _ _ _ _ _ _ _ _ _ _ ht ⟨rfl, rfl⟩ hnone haccess haccept hmember
    have hstored := inviteGiven Sample.lowered _ _ _ _ _ _ _ _ _ _ _ _ ht ⟨rfl, rfl⟩ hnone haccess haccept hmember
    have hboard := congrFun (congrFun (hclaimed.symm.trans hstored) Sample.firstBoard) true
    exact absurd hboard (by decide)

end SiloForge
