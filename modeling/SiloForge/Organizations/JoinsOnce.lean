import SiloForge.Organizations.LoginStages

/-!
# A first login joins once

Calls for one user run side by side. Until a membership is committed every call sees the rows as they were; the one that
creates it holds the lock of the user's row, so that the others find it afterwards.

* `JoinsOnce` : what the calls may leave and answer;
* `Unsettled`, `SettledOn` : the rows and the calls before and after the user has a membership;
* `LoginsFit` : the invariant, and `LoginsFit.goesOn`: no call waits for ever;
* `joinsOnce_iff` : the calls join once exactly when no invitation is overlooked.
-/

namespace SiloForge

open Lib

/-! ## What the calls may leave -/

/-- The invitation is pending and for the user's address, once both are normalized. -/
def InvitesUser (casing : Casing) (user : User) (invite : OrganizationInvite) : Prop :=
  invite.acceptedAt = none ∧
    ∃ email ∈ user.email, normalizeInvitedEmail casing invite.invitedEmail = normalizeInvitedEmail casing email

/-- While a call is not over, a statement can be answered, or the request that holds the lock end. -/
def GoesOn (casing : Casing) (userId : Uuid) (s : Logins) : Prop :=
  (∃ call ∈ s.calls, call.stage.isOver = false) →
    ∃ action t, (∀ id, action ≠ .call id) ∧ s.step casing userId action = some t

/-- What the calls leave of the rows before them and what they answer, with what they create. -/
structure JoinedOnce (casing : Casing) (before : LoginDb) (user : User) (s : Logins)
    (member? : Option OrganizationMember) (organization? : Option Organization) : Prop where
  members : ∀ m, m ∈ s.db.members ↔ m ∈ before.members ∨ m ∈ member?
  organizations : ∀ o, o ∈ s.db.organizations ↔ o ∈ before.organizations ∨ o ∈ organization?
  noneFails : ∀ call ∈ s.calls, call.stage ≠ .failed
  goesOn : GoesOn casing user.id s
  answers : ∀ call ∈ s.calls, ∀ m, call.stage = .returned m → m ∈ s.db.members ∧ m.userId = user.id
  sameAnswer : ∀ call ∈ s.calls, ∀ call' ∈ s.calls, ∀ m m', call.stage = .returned m → call'.stage = .returned m' →
    m = m'
  created : ∀ m ∈ member?, ∀ call ∈ s.calls, ∀ m', call.stage = .returned m' → m' = m
  invited : ∀ m ∈ member?, (∃ i ∈ before.invites, InvitesUser casing user i) →
    ∃ i ∈ before.invites, InvitesUser casing user i ∧ m.organizationId = i.organizationId

/-- At most one membership and one organization are created, every answer is that membership, and it is the one of a
pending invitation if there is any. -/
def JoinsOnce (casing : Casing) (before : LoginDb) (user : User) (s : Logins) : Prop :=
  ∃ member? organization?, JoinedOnce casing before user s member? organization?

/-! ## Calls side by side -/

/-- The calls have loaded the user, and one at a time holds the lock of the user's row. -/
structure CallsFit (user : User) (calls : Table LoginCall) : Prop where
  loaded : ∀ call ∈ calls, call.user.id = user.id ∧ call.user.email = user.email
  exclusive : ∀ call ∈ calls, ∀ call' ∈ calls, call.holding = true → call'.holding = true → call.id = call'.id

structure Unsettled (before : LoginDb) (user : User) (s : Logins) : Prop where
  newcomer : getFirstMembership before.toDb user.id = none
  rows : ∃ users, s.db = { before with users }
  row : HasRow s.db user
  stages : ∀ call ∈ s.calls, OpenStage s.db user call

/-- Every call is on its way to one membership, whether it was there before or is created. -/
structure SettledOn (before : LoginDb) (user : User) (s : Logins) (m : OrganizationMember)
    (member? : Option OrganizationMember) (organization? : Option Organization) : Prop where
  members : ∀ x, x ∈ s.db.members ↔ x ∈ before.members ∨ x ∈ member?
  organizations : ∀ o, o ∈ s.db.organizations ↔ o ∈ before.organizations ∨ o ∈ organization?
  created : ∀ x ∈ member?, x = m ∧ getFirstMembership before.toDb user.id = none ∧
    ∀ email ∈ user.givenEmail, ∀ i, findPendingInvite before.toDb email = some i → x.organizationId = i.organizationId
  stored : m ∈ s.db.members ∧ m.userId = user.id
  reads : getMember s.db.toDb user.id m.organizationId = some m
  row : RowSettled s.db user m
  stages : ∀ call ∈ s.calls, SettledStage s.db m call

/-- **The invariant** of the calls. -/
structure LoginsFit (before : LoginDb) (user : User) (s : Logins) : Prop where
  calls : CallsFit user s.calls
  rows : Unsettled before user s ∨ ∃ m member? organization?, SettledOn before user s m member? organization?

section Calls
variable {user : User} {calls calls' : Table LoginCall} {call call' : LoginCall} {free : Bool}

theorem forall_put {P : LoginCall → Prop} (hother : ∀ d ∈ calls, d.id ≠ call'.id → P d) (hcall : P call') :
    ∀ d ∈ calls.put call', P d := by
  intro d hd
  rcases Table.mem_put.mp hd with ⟨hd, hne⟩ | ⟨rfl, -⟩
  · exact hother d hd hne
  · exact hcall

theorem forall_insert {P : LoginCall → Prop} (h : calls.insert? call = some calls') (hother : ∀ d ∈ calls, P d)
    (hcall : P call) : ∀ d ∈ calls', P d := by
  intro d hd
  rcases (Table.mem_insert? h).mp hd with hd | rfl
  · exact hother d hd
  · exact hcall

theorem CallsFit.insert (hfit : CallsFit user calls) (h : calls.insert? call = some calls')
    (hloaded : call.user.id = user.id ∧ call.user.email = user.email) (hholding : call.holding = false) :
    CallsFit user calls' := by
  have hnever : ¬ call.holding = true := by
    rw [hholding]
    exact Bool.false_ne_true
  refine ⟨forall_insert h hfit.loaded hloaded, ?_⟩
  exact forall_insert h (fun d hd => forall_insert h (hfit.exclusive d hd) fun _ hc => absurd hc hnever)
    fun _ _ hc => absurd hc hnever

theorem CallsFit.put {s : Logins} (hfit : CallsFit user s.calls) (hcall : call ∈ s.calls)
    (hframe : Frame (s.lockFree call) call call') : CallsFit user (s.calls.put call') := by
  have hloaded := hfit.loaded call hcall
  have hothers : ∀ d ∈ s.calls, d.id ≠ call'.id → d.holding = true → ¬ call'.holding = true := by
    intro d hd hne hdh hch
    rw [hframe.id] at hne
    rcases hframe.lock hch with hheld | hfree
    · exact hne (hfit.exclusive d hd call hcall hdh hheld)
    · have hd' := List.all_eq_true.mp hfree d hd
      rw [Bool.or_eq_true, decide_eq_true_eq, hdh] at hd'
      exact hne (hd'.resolve_right Bool.false_ne_true)
  refine ⟨forall_put (fun d hd _ => hfit.loaded d hd) ⟨hframe.userId.trans hloaded.1, hframe.email.trans hloaded.2⟩, ?_⟩
  refine forall_put (fun d hd hne => forall_put (fun e he _ => hfit.exclusive d hd e he) fun hdh hch => ?_)
    (forall_put (fun d hd hne hch hdh => ?_) fun _ _ => rfl)
  · exact absurd hch (hothers d hd hne hdh)
  · exact absurd hch (hothers d hd hne hdh)

end Calls

section Steps
variable {casing : Casing} {before : LoginDb} {user : User} {s t : Logins} {m : OrganizationMember}
  {member? : Option OrganizationMember} {organization? : Option Organization}

theorem OpenStage.settled {db db' : LoginDb} {call : LoginCall} (hopen : OpenStage db user call)
    (hholding : ¬ call.holding = true) (hm : m ∈ db'.members)
    (honly : ∀ x ∈ db'.members, x.userId = m.userId → x = m) (huser : call.user.id = m.userId) :
    SettledStage db' m call := by
  have hhome := home_only hm honly huser
  have hfirst := (only_membership hm honly).2.1
  rw [← huser] at hfirst
  obtain ⟨id, loaded, stage, holding⟩ := call
  cases stage with
  | active => exact hhome
  | clear | first | lock => exact hfirst
  | recheck => exact absurd hopen hholding
  | invite email => exact absurd hopen.1 hholding
  | accept invite => exact absurd hopen.1 hholding
  | create => exact absurd hopen.1 hholding
  | _ => exact hopen.elim

theorem Unsettled.settles (h : Unsettled before user s) (hcalls : CallsFit user s.calls) {db' : LoginDb}
    {call call' : LoginCall} (hcall : call ∈ s.calls) (hid : call'.id = call.id) (hholding : call.holding = true)
    (hcreates : CreatesMembership s.db db' user m organization?) (hstage : SettledStage db' m call')
    (hrow : HasRow db' user) :
    SettledOn before user { db := db', calls := s.calls.put call' } m (some m) organization? := by
  obtain ⟨users, hrows⟩ := h.rows
  have hsame : s.db.members = before.members ∧ s.db.organizations = before.organizations ∧
      s.db.invites = before.invites := by
    rw [hrows]
    exact ⟨rfl, rfl, rfl⟩
  have hinsert : before.members.insert? m = some db'.members := hsame.1 ▸ hcreates.members
  have hm : m ∈ db'.members := (Table.mem_insert? hinsert).mpr (.inr rfl)
  have honly : ∀ x ∈ db'.members, x.userId = m.userId → x = m := by
    intro x hx hxuser
    rcases (Table.mem_insert? hinsert).mp hx with hold | rfl
    · exact absurd (hxuser.trans hcreates.userId) (getFirstMembership_eq_none.mp h.newcomer x hold)
    · rfl
  refine ⟨fun x => ?_, fun o => ?_, ?_, ⟨hm, hcreates.userId⟩, ?_, ?_, ?_⟩
  · rw [Option.mem_some_iff, eq_comm]
    exact Table.mem_insert? hinsert
  · rw [← hsame.2.1]
    exact hcreates.organizations o
  · rintro x ⟨rfl⟩
    refine ⟨rfl, h.newcomer, fun email hemail i hi => hcreates.invited email hemail i ?_⟩
    unfold findPendingInvite
    rw [hsame.2.2]
    exact hi
  · have hreads := (only_membership hm honly).1
    rwa [hcreates.userId] at hreads
  · obtain ⟨u, hu, huemail⟩ := hrow
    exact ⟨u, hu, huemail, home_only hm honly ((Table.key_of_get? hu).trans hcreates.userId.symm)⟩
  · refine forall_put (fun d hd hne => (h.stages d hd).settled (fun hheld => ?_) hm honly ?_) hstage
    · rw [hid] at hne
      exact hne (hcalls.exclusive d hd call hcall hheld hholding)
    · exact (hcalls.loaded d hd).1.trans hcreates.userId.symm

theorem LoginsFit.advanced (haccess : ∀ a ∈ before.boardAccess, (before.members.get? a.organizationMemberId).isSome = true)
    (h : LoginsFit before user s) {id : Nat} {now : Time} {organizationId memberId : Uuid} {call call' : LoginCall}
    {db' : LoginDb} (hget : s.calls.get? id = some call) (hunused : Logins.unused s.db organizationId memberId = true)
    (hadvance : advance casing (s.lockFree call) s.db now organizationId memberId call = some (db', call')) :
    LoginsFit before user { db := db', calls := s.calls.put call' } := by
  have hcall := Table.mem_of_get? hget
  have hloaded := h.calls.loaded call hcall
  rcases h.rows with hopen | ⟨m, member?, organization?, hsettled⟩
  · obtain ⟨users, hrows⟩ := hopen.rows
    have hnone : getFirstMembership s.db.toDb user.id = none := by
      rw [hrows]
      exact hopen.newcomer
    have haccess' : ∀ a ∈ s.db.boardAccess, (s.db.members.get? a.organizationMemberId).isSome = true := by
      rw [hrows]
      exact haccess
    have hresult := (hopen.stages call hcall).advance hloaded.1 hopen.row hloaded.2 hnone haccess' hunused hadvance
    refine ⟨h.calls.put hcall hresult.frame, ?_⟩
    rcases hresult.result with ⟨users', rfl, hstage⟩ | ⟨hholding, m, organization?, hcreates, hstage⟩
    · refine .inl ⟨hopen.newcomer, ⟨users', ?_⟩, hresult.row, forall_put (fun d hd _ => hopen.stages d hd) hstage⟩
      rw [hrows]
    · exact .inr ⟨m, some m, organization?,
        hopen.settles h.calls hcall hresult.frame.id hholding hcreates hstage hresult.row⟩
  · have hresult := (hsettled.stages call hcall).advance hloaded.1 hsettled.row hsettled.reads hadvance
    refine ⟨h.calls.put hcall hresult.frame, .inr ⟨m, member?, organization?, ?_⟩⟩
    have hkeep : ∀ d ∈ s.calls, SettledStage s.db m d → SettledStage db' m d := by
      intro d _ hd
      unfold SettledStage home getFirstMembership getMember at hd ⊢
      rw [hresult.members]
      exact hd
    refine ⟨fun x => ?_, fun o => ?_, hsettled.created, ?_, ?_, hresult.row,
      forall_put (fun d hd _ => hkeep d hd (hsettled.stages d hd)) hresult.stage⟩
    · rw [hresult.members]
      exact hsettled.members x
    · rw [hresult.organizations]
      exact hsettled.organizations o
    · rw [hresult.members]
      exact hsettled.stored
    · have hreads := hsettled.reads
      unfold getMember at hreads ⊢
      rw [hresult.members]
      exact hreads

/-- **One statement** of a call, or the call's begin or end, keeps the invariant. -/
theorem LoginsFit.step (haccess : ∀ a ∈ before.boardAccess, (before.members.get? a.organizationMemberId).isSome = true)
    (h : LoginsFit before user s) {action : LoginAction} (hstep : s.step casing user.id action = some t) :
    LoginsFit before user t := by
  cases action with
  | call id =>
    obtain ⟨u, hu, hstep⟩ := Option.bind_eq_some_iff.mp hstep
    obtain ⟨calls, hcalls, hstep⟩ := Option.bind_eq_some_iff.mp hstep
    obtain rfl := Option.some.inj hstep
    have hid : u.id = user.id := Table.key_of_get? hu
    rcases h.rows with hopen | ⟨m, member?, organization?, hsettled⟩
    · obtain ⟨u', hu', hemail⟩ := hopen.row
      obtain rfl := Option.some.inj (hu'.symm.trans hu)
      refine ⟨h.calls.insert hcalls ⟨hid, hemail⟩ rfl, .inl ⟨hopen.newcomer, hopen.rows, hopen.row, ?_⟩⟩
      exact forall_insert hcalls hopen.stages trivial
    · obtain ⟨u', hu', hemail, hhome⟩ := hsettled.row
      obtain rfl := Option.some.inj (hu'.symm.trans hu)
      refine ⟨h.calls.insert hcalls ⟨hid, hemail⟩ rfl, .inr ⟨m, member?, organization?, ?_⟩⟩
      exact { hsettled with stages := forall_insert hcalls hsettled.stages hhome }
  | advance id now organizationId memberId =>
    obtain ⟨call, hget, hstep⟩ := Option.bind_eq_some_iff.mp hstep
    split at hstep
    · rename_i hunused
      obtain ⟨⟨db', call'⟩, hadvance, hstep⟩ := Option.bind_eq_some_iff.mp hstep
      obtain rfl := Option.some.inj hstep
      exact h.advanced haccess hget hunused hadvance
    · cases hstep
  | finish id =>
    obtain ⟨call, hget, hstep⟩ := Option.bind_eq_some_iff.mp hstep
    have hcall := Table.mem_of_get? hget
    have hframe : ∀ stage, Frame (s.lockFree call) call (call.ended stage) := fun stage => ⟨rfl, rfl, rfl, nofun⟩
    split at hstep
    · rename_i member hreturned _
      obtain rfl := Option.some.inj hstep
      refine ⟨h.calls.put hcall (hframe _), ?_⟩
      rcases h.rows with hopen | ⟨m, member?, organization?, hsettled⟩
      · have hstage := hopen.stages call hcall
        rw [OpenStage, hreturned] at hstage
        exact hstage.elim
      · refine .inr ⟨m, member?, organization?, ?_⟩
        have hstage := hsettled.stages call hcall
        rw [SettledStage, hreturned] at hstage
        exact { hsettled with stages := forall_put (fun d hd _ => hsettled.stages d hd) hstage }
    · cases hstep

end Steps

/-! ## An overlooked invitation -/

def lone (db : LoginDb) (call : LoginCall) : Logins := { db, calls := ⟨[call], List.nodup_singleton _⟩ }

section Lone
variable {casing : Casing} {userId : Uuid} {s t t' : Logins} {db db' : LoginDb} {call call' : LoginCall} {now : Time}
  {organizationId memberId : Uuid} {user u : User}

theorem commits_eq {action : LoginAction} (h : s.step casing userId action = some t) :
    (loginMachine casing userId).commits s action = [t] := congrArg Option.toList h

theorem put_lone (hid : call'.id = call.id) : (lone db call).calls.put call' = (lone db' call').calls := by
  refine Table.ext_rows ?_
  show [if decide (call.id = call'.id) = true then call' else call] = [call']
  rw [if_pos (decide_eq_true hid.symm)]

theorem step_lone (hunused : Logins.unused db organizationId memberId = true) (hid : call'.id = call.id)
    (h : advance casing true db now organizationId memberId call = some (db', call')) :
    (lone db call).step casing userId (.advance call.id now organizationId memberId) = some (lone db' call') := by
  have hget : (lone db call).calls.get? call.id = some call := Table.get?_key (List.mem_singleton_self call)
  have hfree : (lone db call).lockFree call = true := by simp [Logins.lockFree, lone]
  show ((lone db call).calls.get? call.id).bind _ = _
  rw [hget, Option.bind_some, show (lone db call).db = db from rfl, if_pos hunused, hfree, h]
  show some ({ db := db', calls := (lone db call).calls.put call' } : Logins) = _
  rw [@put_lone db db' call call' hid]
  rfl

theorem leads_lone (hunused : Logins.unused db organizationId memberId = true) (hid : call'.id = call.id)
    (h : advance casing true db 0 organizationId memberId call = some (db', call')) :
    (loginMachine casing userId).Leads (lone db call) (lone db' call') :=
  .of_commits (commits_eq (step_lone hunused hid h))

theorem leads_first {before : LoginDb} (huser : before.users.get? user.id = some user)
    (hnone : getFirstMembership before.toDb user.id = none)
    (hunused : Logins.unused before organizationId memberId = true) :
    ∃ users loaded, (users.get? user.id).isSome = true ∧ loaded.id = user.id ∧ loaded.email = user.email ∧
      (loginMachine casing user.id).Leads { db := before }
        (lone { before with users } { id := 0, user := loaded, stage := .first }) := by
  have hget := getMember_eq_none hnone
  have hcall : ({ db := before } : Logins).step casing user.id (.call 0) = some (lone before { id := 0, user }) := by
    show (before.users.get? user.id).bind _ = _
    rw [huser]
    rfl
  have hbegin := Machine.Leads.of_commits (commits_eq hcall)
  cases hactive : user.activeOrganizationId with
  | none =>
    refine ⟨before.users, user, huser ▸ rfl, rfl, rfl, hbegin.trans (leads_lone hunused rfl ?_)⟩
    simp only [SiloForge.advance, hactive]
    rfl
  | some active =>
    have hclear : (loginMachine casing user.id).Leads (lone before { id := 0, user })
        (lone before { id := 0, user, stage := .clear }) := by
      refine leads_lone hunused rfl ?_
      simp only [SiloForge.advance, hactive, hget]
      rfl
    refine ⟨before.users.put { user with activeOrganizationId := none }, { user with activeOrganizationId := none },
      by rw [get?_setActive huser none]; rfl, rfl, rfl, ?_⟩
    refine (hbegin.trans hclear).trans (leads_lone hunused rfl ?_)
    simp only [SiloForge.advance, setActive_eq huser]
    rfl

theorem leads_create {before : LoginDb} (huser : before.users.get? user.id = some user)
    (hnone : getFirstMembership before.toDb user.id = none)
    (hno : ∀ email ∈ user.givenEmail, findPendingInvite before.toDb email = none)
    (hunused : Logins.unused before organizationId memberId = true) :
    ∃ users loaded, (users.get? user.id).isSome = true ∧ loaded.id = user.id ∧
      (loginMachine casing user.id).Leads { db := before }
        (lone { before with users } { id := 0, user := loaded, stage := .create, holding := true }) := by
  obtain ⟨users, loaded, hrow, hid, hemail, hfirst⟩ := @leads_first casing _ _ _ before huser hnone hunused
  have hunused' : Logins.unused { before with users } organizationId memberId = true := hunused
  have hnone' : getFirstMembership ({ before with users } : LoginDb).toDb user.id = none := hnone
  have hlook : (loginMachine casing user.id).Leads
      (lone { before with users } { id := 0, user := loaded, stage := .first })
      (lone { before with users } { id := 0, user := loaded, stage := .lock }) := by
    refine leads_lone hunused' rfl ?_
    simp only [SiloForge.advance, hid, hnone']
    rfl
  have hlock : (loginMachine casing user.id).Leads
      (lone { before with users } { id := 0, user := loaded, stage := .lock })
      (lone { before with users } { id := 0, user := loaded, stage := .recheck, holding := true }) := by
    refine leads_lone hunused' rfl ?_
    simp only [SiloForge.advance, if_true, hid, hrow]
    rfl
  have hlocked := (hfirst.trans hlook).trans hlock
  have hgiven : loaded.givenEmail = user.givenEmail := congrArg (Option.filter _) hemail
  refine ⟨users, loaded, hrow, hid, ?_⟩
  cases hcase : user.givenEmail with
  | none =>
    refine hlocked.trans (leads_lone hunused' rfl ?_)
    simp only [SiloForge.advance, hid, hgiven, hcase, hnone']
    rfl
  | some email =>
    have hinvite : (loginMachine casing user.id).Leads
        (lone { before with users } { id := 0, user := loaded, stage := .recheck, holding := true })
        (lone { before with users } { id := 0, user := loaded, stage := .invite email, holding := true }) := by
      refine leads_lone hunused' rfl ?_
      simp only [SiloForge.advance, hid, hgiven, hcase, hnone']
      rfl
    have hnotFound : findPendingInvite ({ before with users } : LoginDb).toDb email = none := hno email hcase
    refine (hlocked.trans hinvite).trans (leads_lone hunused' rfl ?_)
    simp only [SiloForge.advance, hnotFound]
    rfl

end Lone

/-! ## When the calls join once -/

/-- The constraints of the tables: a user is a member of an organization once, and board rows are members'. -/
structure MembershipsFit (before : LoginDb) : Prop where
  once : ∀ m ∈ before.members, ∀ m' ∈ before.members, m.userId = m'.userId → m.organizationId = m'.organizationId →
    m = m'
  access : ∀ a ∈ before.boardAccess, (before.members.get? a.organizationMemberId).isSome = true

/-- The user is a member already, or an invitation that is for the user's address is found as it is written. -/
def InviteSeen (casing : Casing) (before : LoginDb) (user : User) : Prop :=
  (getFirstMembership before.toDb user.id).isSome = true ∨
    ((∃ i ∈ before.invites, InvitesUser casing user i) →
      ∃ email ∈ user.givenEmail, (findPendingInvite before.toDb email).isSome = true)

def JoinsAlways (casing : Casing) (before : LoginDb) (user : User) : Prop :=
  ∀ actions, ∀ s ∈ (loginMachine casing user.id).committed { db := before } actions, JoinsOnce casing before user s

section Joins
variable {casing : Casing} {before : LoginDb} {user : User} {s : Logins}

theorem loginsFit_begin (hfit : MembershipsFit before) (huser : before.users.get? user.id = some user) :
    LoginsFit before user { db := before } := by
  refine ⟨⟨fun _ h => absurd h (Table.not_mem_empty _), fun _ h => absurd h (Table.not_mem_empty _)⟩, ?_⟩
  cases hfirst : getFirstMembership before.toDb user.id with
  | none => exact .inl ⟨hfirst, ⟨before.users, rfl⟩, ⟨user, huser, rfl⟩, fun _ h => absurd h (Table.not_mem_empty _)⟩
  | some m =>
    obtain ⟨h, hhome⟩ : ∃ h, home before.toDb user = some h := by
      rw [home, hfirst]
      exact Option.isSome_iff_exists.mp (Option.isSome_or.trans (Bool.or_true _))
    obtain ⟨hmem, hid⟩ := home_mem hhome
    obtain ⟨h', hreads⟩ := Option.isSome_iff_exists.mp (getMember_isSome hmem)
    obtain ⟨hmem', huser', horganization'⟩ := getMember_eq_some hreads
    obtain rfl := hfit.once h' hmem' h hmem huser' horganization'
    refine .inr ⟨h', none, none, fun x => by simp, fun o => by simp, by simp, ⟨hmem, hid⟩, hid ▸ hreads,
      ⟨user, huser, rfl, hhome⟩, fun _ h => absurd h (Table.not_mem_empty _)⟩

theorem invitesUser_of_found {email : String} {invite : OrganizationInvite} (hemail : user.givenEmail = some email)
    (hfound : findPendingInvite before.toDb email = some invite) :
    invite ∈ before.invites ∧ InvitesUser casing user invite := by
  obtain ⟨hmem, hpending, hsame⟩ := findPendingInvite_eq_some hfound
  exact ⟨hmem, hpending, email, (Option.filter_eq_some_iff.mp hemail).1, by rw [hsame]⟩

theorem LoginsFit.noneFails (h : LoginsFit before user s) : ∀ call ∈ s.calls, call.stage ≠ .failed := by
  intro call hcall hfailed
  rcases h.rows with hopen | ⟨m, member?, organization?, hsettled⟩
  · have hstage := hopen.stages call hcall
    rw [OpenStage, hfailed] at hstage
    exact hstage
  · have hstage := hsettled.stages call hcall
    rw [SettledStage, hfailed] at hstage
    exact hstage

/-- **No call waits for ever**: while one is not over, a call goes on or the request of the one with the lock ends. -/
theorem LoginsFit.goesOn (h : LoginsFit before user s) : GoesOn casing user.id s := by
  rintro ⟨call, hcall, hover⟩
  obtain ⟨organizationId, horganization⟩ := Infinite.exists_notMem_finset (s.db.organizations.rows.map (·.id)).toFinset
  obtain ⟨memberId, hmember⟩ := Infinite.exists_notMem_finset (s.db.members.rows.map (·.id)).toFinset
  simp only [List.mem_toFinset, List.mem_map, not_exists, not_and] at horganization hmember
  have hunused : Logins.unused s.db organizationId memberId = true := by
    rw [Logins.unused, Table.get?_eq_none.mpr fun o ho => horganization o ho,
      Table.get?_eq_none.mpr fun m hm => hmember m hm]
    rfl
  have hadvance : ∀ c ∈ s.calls, c.stage.isOver = false → s.lockFree c = true →
      ∃ action t, (∀ id, action ≠ .call id) ∧ s.step casing user.id action = some t := by
    intro c hc hover hfree
    obtain ⟨⟨db', c'⟩, hr⟩ := exists_advance casing s.db 0 organizationId memberId hover
    refine ⟨.advance c.id 0 organizationId memberId, { db := db', calls := s.calls.put c' }, by simp, ?_⟩
    show (s.calls.get? c.id).bind _ = _
    rw [show s.calls.get? c.id = some c from Table.get?_key hc, Option.bind_some, if_pos hunused, hfree, hr]
    rfl
  by_cases hfree : s.lockFree call = true
  · exact hadvance call hcall hover hfree
  · -- the call with the lock
    obtain ⟨holder, hholder, hheld⟩ : ∃ holder ∈ s.calls, holder.holding = true := by
      simp only [Logins.lockFree, List.all_eq_true, not_forall] at hfree
      obtain ⟨d, hd, hnot⟩ := hfree
      refine ⟨d, hd, ?_⟩
      by_contra hnone
      rw [Bool.not_eq_true] at hnone
      rw [hnone] at hnot
      exact hnot (Bool.or_true _)
    have hfree' : s.lockFree holder = true := by
      refine List.all_eq_true.mpr fun d hd => ?_
      rw [Bool.or_eq_true, decide_eq_true_eq, Bool.not_eq_true']
      by_cases hdheld : d.holding = true
      · exact .inl (h.calls.exclusive d hd holder hholder hdheld hheld)
      · exact .inr (Bool.not_eq_true _ ▸ hdheld)
    cases hstage : holder.stage.isOver with
    | false => exact hadvance holder hholder hstage hfree'
    | true =>
      have hnotFailed := h.noneFails holder hholder
      obtain ⟨m, hm⟩ : ∃ m, holder.stage = .returned m := by
        cases hs : holder.stage with
        | returned m => exact ⟨m, rfl⟩
        | failed => exact absurd hs hnotFailed
        | _ => rw [hs] at hstage; cases hstage
      refine ⟨.finish holder.id, { s with calls := s.calls.put (holder.ended (.returned m)) }, by simp, ?_⟩
      show (s.calls.get? holder.id).bind _ = _
      rw [show s.calls.get? holder.id = some holder from Table.get?_key hholder, Option.bind_some, hm, hheld]
      rfl

/-- **What the invariant says**: the calls have joined once, where no invitation is overlooked. -/
theorem LoginsFit.joinsOnce (h : LoginsFit before user s) (hseen : InviteSeen casing before user) :
    JoinsOnce casing before user s := by
  rcases h.rows with hopen | ⟨m, member?, organization?, hsettled⟩
  · have hnever : ∀ call ∈ s.calls, ∀ m, call.stage ≠ .returned m := by
      intro call hcall m hstage
      have hopen := hopen.stages call hcall
      rw [OpenStage, hstage] at hopen
      exact hopen
    obtain ⟨users, hrows⟩ := hopen.rows
    refine ⟨none, none, ?_, ?_, h.noneFails, h.goesOn, fun call hcall m hstage => ?_, ?_, nofun, nofun⟩
    · rw [hrows]
      simp
    · rw [hrows]
      simp
    · exact absurd hstage (hnever call hcall m)
    · exact fun call hcall _ _ m _ hstage => absurd hstage (hnever call hcall m)
  · have hreturned : ∀ call ∈ s.calls, ∀ x, call.stage = .returned x → x = m := by
      intro call hcall x hstage
      have hsettled := hsettled.stages call hcall
      rw [SettledStage, hstage] at hsettled
      exact hsettled
    refine ⟨member?, organization?, hsettled.members, hsettled.organizations, h.noneFails, h.goesOn,
      fun call hcall x hstage => ?_, ?_, ?_, ?_⟩
    · rw [hreturned call hcall x hstage]
      exact hsettled.stored
    · intro call hcall call' hcall' x x' hx hx'
      rw [hreturned call hcall x hx, hreturned call' hcall' x' hx']
    · intro x hx call hcall x' hstage
      rw [hreturned call hcall x' hstage, (hsettled.created x hx).1]
    · intro x hx hinvited
      obtain ⟨-, hnewcomer, hwhere⟩ := hsettled.created x hx
      rw [InviteSeen, hnewcomer] at hseen
      obtain ⟨email, hemail, hfound⟩ := hseen.resolve_left Bool.false_ne_true hinvited
      obtain ⟨invite, hinvite⟩ := Option.isSome_iff_exists.mp hfound
      obtain ⟨hmem, hinvites⟩ := invitesUser_of_found hemail hinvite
      exact ⟨invite, hmem, hinvites, hwhere email hemail invite hinvite⟩

/-- Where an invitation is overlooked, a single call joins another organization. -/
theorem not_joinsAlways_of_overlooked (huser : before.users.get? user.id = some user)
    (hnone : getFirstMembership before.toDb user.id = none) (hinvited : ∃ i ∈ before.invites, InvitesUser casing user i)
    (hno : ∀ email ∈ user.givenEmail, findPendingInvite before.toDb email = none) :
    ¬ JoinsAlways casing before user := by
  -- ids of no row, and an organization no invitation is into
  obtain ⟨organizationId, horganization⟩ := Infinite.exists_notMem_finset
    (before.organizations.rows.map (·.id) ++ before.invites.rows.map (·.organizationId)).toFinset
  obtain ⟨memberId, hmember⟩ := Infinite.exists_notMem_finset (before.members.rows.map (·.id)).toFinset
  simp only [List.mem_toFinset, List.mem_append, List.mem_map, not_or, not_exists, not_and] at horganization hmember
  have hfree : before.organizations.get? organizationId = none :=
    Table.get?_eq_none.mpr fun o ho => horganization.1 o ho
  have hnew : before.members.get? memberId = none := Table.get?_eq_none.mpr fun m hm => hmember m hm
  have hunused : Logins.unused before organizationId memberId = true := by
    rw [Logins.unused, hfree, hnew]
    rfl
  obtain ⟨users, loaded, hrow, hid, hleads⟩ := @leads_create casing _ _ _ before huser hnone hno hunused
  obtain ⟨u, hu⟩ := Option.isSome_iff_exists.mp hrow
  have hu' : ({ before with users } : LoginDb).users.get? user.id = some u := hu
  obtain ⟨organizations, horganizations⟩ := Table.exists_insert?.mpr
    (show before.organizations.get? (key (newOrganization 0 organizationId)) = none from hfree)
  obtain ⟨members, hmembers⟩ := Table.exists_insert?.mpr
    (show before.members.get? (key (newOwner 0 user.id organizationId memberId)) = none from hnew)
  have hinsert : insertMember ({ before with users } : LoginDb).toDb (newOwner 0 user.id organizationId memberId) =
      some members := by
    show (if getMember before.toDb user.id organizationId = none then _ else _) = _
    rw [if_pos (getMember_eq_none hnone organizationId)]
    exact hmembers
  obtain ⟨db', call', hadvance, hid', hstored⟩ : ∃ db' call',
      advance casing true { before with users } 0 organizationId memberId
        { id := 0, user := loaded, stage := .create, holding := true } = some (db', call') ∧ call'.id = 0 ∧
          db'.members = members := by
    simp only [advance, createPersonal, horganizations, hid, setActive_eq hu', hinsert]
    exact ⟨_, _, rfl, rfl, rfl⟩
  obtain ⟨actions, hmem⟩ := hleads.mem_committed (commits_eq
    (step_lone (show Logins.unused { before with users } organizationId memberId = true from hunused) hid' hadvance))
  intro h
  obtain ⟨member?, organization?, hjoined⟩ := h actions _ hmem
  have hjoins : newOwner 0 user.id organizationId memberId ∈ member? := by
    refine ((hjoined.members _).mp ?_).resolve_left fun hold => hmember _ hold rfl
    show _ ∈ db'.members
    rw [hstored]
    exact (Table.mem_insert? hmembers).mpr (.inr rfl)
  obtain ⟨invite, hinvite, -, hsame⟩ := hjoined.invited _ hjoins hinvited
  exact horganization.2 invite hinvite hsame.symm

/-- **Calls for a user join once** exactly when the user is a member already, or an invitation that is for the user's
address, normalized, is also found by the address as it is. -/
theorem joinsOnce_iff (hfit : MembershipsFit before) (huser : before.users.get? user.id = some user) :
    JoinsAlways casing before user ↔ InviteSeen casing before user := by
  constructor
  · intro h
    by_contra hoverlooked
    obtain ⟨hnone, hinvited⟩ := not_or.mp hoverlooked
    rw [Bool.not_eq_true, Option.isSome_eq_false_iff, Option.isNone_iff_eq_none] at hnone
    obtain ⟨hinvited, hno⟩ := Classical.not_imp.mp hinvited
    refine not_joinsAlways_of_overlooked huser hnone hinvited (fun email hemail => ?_) h
    rw [← Option.not_isSome_iff_eq_none]
    exact fun hfound => hno ⟨email, hemail, hfound⟩
  · intro hseen actions s hs
    refine (Machine.committed_inv (LoginsFit before user) (fun s action h _ t ht => ?_) (loginsFit_begin hfit huser)
      (Machine.along_of_forall (fun _ _ => trivial) _ actions) s hs).joinsOnce hseen
    exact h.step hfit.access (Option.mem_toList.mp ht)

end Joins

/-! ## An address with a capital -/

namespace Sample

def oneCapital : Casing where
  lower s := if s = "Ada@forge.dev" then "ada@forge.dev" else s
  normalized role := by
    by_cases hcapital : strip role = "Ada@forge.dev"
    · simp only [hcapital]
      decide
    · by_cases h : strip role = ""
      · simp only [h]
        decide
      · simp only [if_neg hcapital, if_neg h, strip_strip]

def invitee (email : String) : User := { id := 1, email := some email }

def invitedBefore (email : String) : LoginDb where
  users := ⟨[invitee email], List.nodup_singleton _⟩
  organizations := ⟨[{ id := 2, name := "Forge" }], by decide⟩
  invites := ⟨[{ id := 1, organizationId := 2, invitedEmail := "ada@forge.dev", token := "t" }], by decide⟩

theorem invitedBefore_fit (email : String) : MembershipsFit (invitedBefore email) :=
  ⟨fun _ h => absurd h (Table.not_mem_empty _), fun _ h => absurd h (Table.not_mem_empty _)⟩

end Sample

theorem joinsAlways_invited :
    JoinsAlways Sample.lowered (Sample.invitedBefore "ada@forge.dev") (Sample.invitee "ada@forge.dev") :=
  (joinsOnce_iff (Sample.invitedBefore_fit _) rfl).mpr (.inr fun _ => ⟨"ada@forge.dev", by decide, by decide⟩)

/-- The user's address is stored with a capital, and the invitation is not found. -/
theorem not_joinsAlways :
    ¬ ∀ (casing : Casing) (before : LoginDb) (user : User), MembershipsFit before →
      before.users.get? user.id = some user → JoinsAlways casing before user := by
  intro h
  refine not_joinsAlways_of_overlooked rfl rfl ?_ (fun email hemail => ?_)
    (h Sample.oneCapital (Sample.invitedBefore "Ada@forge.dev") (Sample.invitee "Ada@forge.dev")
      (Sample.invitedBefore_fit _) rfl)
  · exact ⟨_, List.mem_singleton_self _, rfl, "Ada@forge.dev", rfl, by decide⟩
  · obtain rfl : "Ada@forge.dev" = email := Option.some.inj hemail
    decide

end SiloForge
