import SiloForge.Boards.Onboarding
import SiloForge.Lib.Machine

/-!
# Onboarding conversations

Requests about the onboarding of boards in any order: each begins, waits for the gateway, and finishes or fails while
others begin and finish. Beside the sessions stand the messages that were committed and the confirmed sessions seen.

* `ConversationsKept` : no message is lost, no board has two open sessions, confirmed sessions stay as they are;
* `Undisturbed` : no one wrote to the session since it was read, and it is not confirmed;
* `conversationsKept_iff` : the runs that keep the conversations are those of undisturbed writes.
-/

namespace SiloForge

open Lib

/-! ## Requests in flight -/

structure OnboardingWorld where
  sessions : Table BoardOnboardingSession := ∅
  inFlight : List OnboardingPending := []

/-- A request begins; one that is in flight finishes, with its clock and the id of a new session, or fails. -/
inductive OnboardingAction where
  | begin (now : Time) (request : OnboardingRequest)
  | finish (i : Nat) (now : Time) (newId : Uuid)
  | abandon (i : Nat)

def onboardingMachine : Machine OnboardingWorld OnboardingAction where
  commits s
    | .begin now request =>
      match request.begin s.sessions now with
      | .ok (some pending) => [{ s with inFlight := s.inFlight ++ [pending] }]
      | .ok none | .error _ => []
    | .finish i now newId =>
      match s.inFlight[i]? with
      | none => []
      | some pending =>
        match pending.finish s.sessions now newId with
        | .ok sessions => [{ sessions, inFlight := s.inFlight.eraseIdx i }]
        | .error _ => [{ s with inFlight := s.inFlight.eraseIdx i }]
    | .abandon i => [{ s with inFlight := s.inFlight.eraseIdx i }]

/-- The messages that were committed, oldest first, with their sessions; and the confirmed sessions seen. -/
structure OnboardingNotes where
  said : List (Uuid × OnboardingMessage) := []
  confirmed : List BoardOnboardingSession := []

def saidBy (s : OnboardingWorld) : OnboardingAction → List (Uuid × OnboardingMessage)
  | .finish i now newId =>
    match s.inFlight[i]? with
    | none => []
    | some pending =>
      match pending.finish s.sessions now newId with
      | .ok _ => (pending.message now).toList.map fun message => (pending.sessionId newId, message)
      | .error _ => []
  | .begin _ _ | .abandon _ => []

def confirmedSessions (sessions : Table BoardOnboardingSession) : List BoardOnboardingSession :=
  sessions.rows.filter fun o => o.status = "confirmed"

def onboardingNote (s : OnboardingWorld) (a : OnboardingAction) (t : OnboardingWorld) (notes : OnboardingNotes) :
    OnboardingNotes where
  said := notes.said ++ saidBy s a
  confirmed := notes.confirmed ++ confirmedSessions t.sessions

abbrev watchedOnboarding : Machine (OnboardingWorld × OnboardingNotes) OnboardingAction :=
  onboardingMachine.watch onboardingNote

/-! ## Conversations -/

def messagesOf (said : List (Uuid × OnboardingMessage)) (id : Uuid) : List OnboardingMessage :=
  (said.filter fun e => e.1 = id).map Prod.snd

/-- **Conversations are kept**: a session holds the messages committed to it in their order, a board
has one open session at most, and a confirmed session stays as it is. -/
structure ConversationsKept (s : OnboardingWorld × OnboardingNotes) : Prop where
  messages : ∀ o ∈ s.1.sessions, o.messages = messagesOf s.2.said o.id
  oneOpen : ∀ o ∈ s.1.sessions, ∀ o' ∈ s.1.sessions, o.boardId = o'.boardId → o.status ≠ "confirmed" →
    o'.status ≠ "confirmed" → o.id = o'.id
  confirmedStay : ∀ c ∈ s.2.confirmed, ∃ o ∈ s.1.sessions, o.id = c.id ∧ o.status = c.status ∧
    o.messages = c.messages ∧ o.draftGoal = c.draftGoal

/-- A write finds its session as it was read, and not confirmed; a session is opened for a board without an open one. -/
def OnboardingPending.Undisturbed (sessions : Table BoardOnboardingSession) (newId : Uuid) :
    OnboardingPending → Prop
  | .start boardId _ => sessions.get? newId = none → ∀ o ∈ sessions, o.boardId = boardId → o.status = "confirmed"
  | .answer loaded _ _ | .agentUpdate loaded _ _ =>
    ∀ o ∈ sessions.get? loaded.id, o.messages = loaded.messages ∧ o.status ≠ "confirmed"
  | .resume _ | .confirm _ => True

def Undisturbed (s : OnboardingWorld) : OnboardingAction → Prop
  | .finish i _ newId => ∀ pending ∈ s.inFlight[i]?, pending.Undisturbed s.sessions newId
  | .begin _ _ | .abandon _ => True

/-! ## Messages -/

theorem messagesOf_append_self (said : List (Uuid × OnboardingMessage)) (id : Uuid)
    (messages : List OnboardingMessage) :
    messagesOf (said ++ messages.map fun message => (id, message)) id = messagesOf said id ++ messages := by
  have hall : (messages.map fun message => (id, message)).filter (fun e => e.1 = id) =
      messages.map fun message => (id, message) := by
    refine List.filter_eq_self.mpr fun e he => ?_
    obtain ⟨message, -, rfl⟩ := List.mem_map.mp he
    exact decide_eq_true rfl
  unfold messagesOf
  rw [List.filter_append, List.map_append, hall, List.map_map]
  exact congrArg _ (List.map_id _)

theorem messagesOf_append_of_ne {id id' : Uuid} (h : id ≠ id') (said : List (Uuid × OnboardingMessage))
    (messages : List OnboardingMessage) :
    messagesOf (said ++ messages.map fun message => (id, message)) id' = messagesOf said id' := by
  have hnone : (messages.map fun message => (id, message)).filter (fun e => e.1 = id') = [] := by
    refine List.filter_eq_nil_iff.mpr fun e he => ?_
    obtain ⟨message, -, rfl⟩ := List.mem_map.mp he
    exact mt of_decide_eq_true h
  unfold messagesOf
  rw [List.filter_append, hnone, List.append_nil]

variable {said : List (Uuid × OnboardingMessage)} {s t : OnboardingWorld × OnboardingNotes}
  {sessions sessions' : Table BoardOnboardingSession} {loaded : BoardOnboardingSession}

theorem messagesOf_eq_nil {id : Uuid} (h : ∀ e ∈ said, e.1 ≠ id) : messagesOf said id = [] := by
  unfold messagesOf
  rw [List.map_eq_nil_iff]
  exact List.filter_eq_nil_iff.mpr fun e he => mt of_decide_eq_true (h e he)

/-! ## Writing a row back -/

/-- The conversations are kept, what is confirmed was seen, and what was said has its session. -/
structure OnboardingInv (s : OnboardingWorld × OnboardingNotes) : Prop extends ConversationsKept s where
  seen : ∀ o ∈ s.1.sessions, o.status = "confirmed" → o ∈ s.2.confirmed
  wasConfirmed : ∀ c ∈ s.2.confirmed, c.status = "confirmed"
  saidIn : ∀ e ∈ s.2.said, (s.1.sessions.get? e.1).isSome

theorem mem_confirmedSessions {o : BoardOnboardingSession} :
    o ∈ confirmedSessions sessions ↔ o ∈ sessions ∧ o.status = "confirmed" := by
  unfold confirmedSessions
  rw [List.mem_filter, decide_eq_true_eq]
  exact Iff.rfl

theorem OnboardingInv.of_kept {t : OnboardingWorld} {confirmed : List BoardOnboardingSession}
    (h : ConversationsKept (t, { said, confirmed := confirmed ++ confirmedSessions t.sessions }))
    (hwas : ∀ c ∈ confirmed, c.status = "confirmed") (hsaid : ∀ e ∈ said, (t.sessions.get? e.1).isSome) :
    OnboardingInv (t, { said, confirmed := confirmed ++ confirmedSessions t.sessions }) where
  toConversationsKept := h
  seen := fun o ho hconfirmed => List.mem_append_right _ (mem_confirmedSessions.mpr ⟨ho, hconfirmed⟩)
  wasConfirmed := by
    intro c hc
    rcases List.mem_append.mp hc with hc | hc
    · exact hwas c hc
    · exact (mem_confirmedSessions.mp hc).2
  saidIn := hsaid

/-- **A row that is written back** keeps the conversations exactly when it holds the messages of its session, and is as
before where it was confirmed. -/
theorem OnboardingInv.kept_put_iff (h : OnboardingInv s) {current new : BoardOnboardingSession}
    {messages : List OnboardingMessage} {inFlight : List OnboardingPending} (hcurrent : current ∈ s.1.sessions)
    (hid : new.id = current.id) (hboard : new.boardId = current.boardId) :
    ConversationsKept ({ sessions := s.1.sessions.put new, inFlight },
      { said := s.2.said ++ messages.map fun message => (current.id, message),
        confirmed := s.2.confirmed ++ confirmedSessions (s.1.sessions.put new) }) ↔
      new.messages = current.messages ++ messages ∧
        (current.status = "confirmed" →
          new.status = "confirmed" ∧ new.messages = current.messages ∧ new.draftGoal = current.draftGoal) := by
  have hget : (s.1.sessions.get? new.id).isSome := by
    rw [hid]
    exact Option.isSome_iff_exists.mpr ⟨current, Table.get?_key hcurrent⟩
  have hnew : new ∈ s.1.sessions.put new := Table.mem_put.mpr (.inr ⟨rfl, hget⟩)
  have hrow : ∀ o ∈ s.1.sessions.put new, o.id = new.id → o = new :=
    fun o ho hoid => Table.eq_of_key_eq ho hnew hoid
  have hkeep : ∀ o ∈ s.1.sessions, o.id ≠ new.id → o ∈ s.1.sessions.put new :=
    fun o ho hne => Table.mem_put.mpr (.inl ⟨ho, hne⟩)
  have hold : ∀ o ∈ s.1.sessions.put new, o = new ∨ o ∈ s.1.sessions ∧ o.id ≠ new.id := by
    intro o ho
    rcases Table.mem_put.mp ho with h | h
    · exact .inr h
    · exact .inl h.1
  constructor
  · intro hkept
    refine ⟨?_, fun hconfirmed => ?_⟩
    · rw [hkept.messages new hnew, hid, messagesOf_append_self, ← h.messages current hcurrent]
    · obtain ⟨o, ho, hoid, hstatus, hmessages, hdraft⟩ :=
        hkept.confirmedStay current (List.mem_append_left _ (h.seen current hcurrent hconfirmed))
      obtain rfl := hrow o ho (hoid.trans hid.symm)
      exact ⟨hstatus.trans hconfirmed, hmessages, hdraft⟩
  · rintro ⟨hmessages, hconfirmed⟩
    have hopen : new.status ≠ "confirmed" → current.status ≠ "confirmed" := mt fun hc => (hconfirmed hc).1
    constructor
    · intro o ho
      rcases hold o ho with rfl | ⟨hin, hne⟩
      · rw [hmessages, hid, messagesOf_append_self, ← h.messages current hcurrent]
      · rw [messagesOf_append_of_ne (fun heq => hne (heq.symm.trans hid.symm)), ← h.messages o hin]
    · intro o ho o' ho' hsame hstatus hstatus'
      rcases hold o ho with rfl | ⟨hin, hne⟩ <;> rcases hold o' ho' with rfl | ⟨hin', hne'⟩
      · rfl
      · rw [hid]
        exact h.oneOpen current hcurrent o' hin' (hboard.symm.trans hsame) (hopen hstatus) hstatus'
      · rw [hid]
        exact h.oneOpen o hin current hcurrent (hsame.trans hboard) hstatus (hopen hstatus')
      · exact h.oneOpen o hin o' hin' hsame hstatus hstatus'
    · intro c hc
      rcases List.mem_append.mp hc with hseen | hnow
      · have hwas := h.wasConfirmed c hseen
        obtain ⟨o, ho, hoid, hstatus, hstored, hdraft⟩ := h.confirmedStay c hseen
        by_cases hcase : o.id = new.id
        · obtain rfl := Table.eq_of_key_eq ho hcurrent (hcase.trans hid)
          obtain ⟨hstatus', hstored', hdraft'⟩ := hconfirmed (hstatus.trans hwas)
          exact ⟨new, hnew, hcase.symm.trans hoid, hstatus'.trans hwas.symm, hstored'.trans hstored,
            hdraft'.trans hdraft⟩
        · exact ⟨o, hkeep o ho hcase, hoid, hstatus, hstored, hdraft⟩
      · exact ⟨c, (mem_confirmedSessions.mp hnow).1, rfl, rfl, rfl, rfl⟩

theorem OnboardingInv.kept_same (h : OnboardingInv s) (inFlight : List OnboardingPending) :
    ConversationsKept ({ s.1 with inFlight },
      { s.2 with confirmed := s.2.confirmed ++ confirmedSessions s.1.sessions }) where
  messages := h.messages
  oneOpen := h.oneOpen
  confirmedStay := by
    intro c hc
    rcases List.mem_append.mp hc with hseen | hnow
    · exact h.confirmedStay c hseen
    · exact ⟨c, (mem_confirmedSessions.mp hnow).1, rfl, rfl, rfl, rfl⟩

/-- **A session that is opened** keeps the conversations exactly when its board has no open one. -/
theorem OnboardingInv.kept_insert_iff (h : OnboardingInv s) {new : BoardOnboardingSession}
    {inFlight : List OnboardingPending} (hinsert : s.1.sessions.insert? new = some sessions)
    (hstatus : new.status = "active") :
    ConversationsKept ({ sessions, inFlight },
      { said := s.2.said ++ new.messages.map fun message => (new.id, message),
        confirmed := s.2.confirmed ++ confirmedSessions sessions }) ↔
      ∀ o ∈ s.1.sessions, o.boardId = new.boardId → o.status = "confirmed" := by
  have hfresh : s.1.sessions.get? new.id = none := Table.exists_insert?.mp ⟨sessions, hinsert⟩
  have hne : ∀ o ∈ s.1.sessions, o.id ≠ new.id := Table.get?_eq_none.mp hfresh
  have hopen : new.status ≠ "confirmed" := by
    rw [hstatus]
    decide
  have hmem : ∀ o, o ∈ sessions ↔ o ∈ s.1.sessions ∨ o = new := fun o => Table.mem_insert? hinsert
  constructor
  · intro hkept o ho hboard
    by_contra hstatus'
    exact hne o ho (hkept.oneOpen o ((hmem o).mpr (.inl ho)) new ((hmem new).mpr (.inr rfl)) hboard hstatus' hopen)
  · intro hconfirmed
    have hunsaid : ∀ e ∈ s.2.said, e.1 ≠ new.id := by
      intro e he heq
      have hin := h.saidIn e he
      rw [heq, hfresh] at hin
      exact Bool.false_ne_true hin
    constructor
    · intro o ho
      rcases (hmem o).mp ho with hin | rfl
      · rw [messagesOf_append_of_ne (hne o hin).symm, ← h.messages o hin]
      · rw [messagesOf_append_self, messagesOf_eq_nil hunsaid, List.nil_append]
    · intro o ho o' ho' hboard hstatus' hstatus''
      rcases (hmem o).mp ho with hin | rfl <;> rcases (hmem o').mp ho' with hin' | rfl
      · exact h.oneOpen o hin o' hin' hboard hstatus' hstatus''
      · exact absurd (hconfirmed o hin hboard) hstatus'
      · exact absurd (hconfirmed o' hin' hboard.symm) hstatus''
      · rfl
    · intro c hc
      rcases List.mem_append.mp hc with hseen | hnow
      · obtain ⟨o, ho, hsame⟩ := h.confirmedStay c hseen
        exact ⟨o, (hmem o).mpr (.inl ho), hsame⟩
      · exact ⟨c, (mem_confirmedSessions.mp hnow).1, rfl, rfl, rfl, rfl⟩

/-! ## Requests that write back -/

theorem writtenColumn_same {α : Type} [DecidableEq α] (loaded current : α) :
    writtenColumn loaded loaded current = current := if_pos rfl

theorem writeBack_eq_ok {new : BoardOnboardingSession} : writeBack sessions loaded new = .ok sessions' ↔
      ∃ current, sessions.get? loaded.id = some current ∧ sessions.put (loaded.flush new current) = sessions' := by
  simp only [writeBack, bind_eq_ok, orFail_eq_ok, pure_eq_ok]

/-- What a write of one row has to meet. -/
theorem OnboardingInv.kept_writeBack_iff (h : OnboardingInv s) {new : BoardOnboardingSession}
    {messages : List OnboardingMessage} {inFlight : List OnboardingPending} :
    (∀ sessions, writeBack s.1.sessions loaded new = .ok sessions →
      ConversationsKept ({ sessions, inFlight },
        { said := s.2.said ++ messages.map fun message => (loaded.id, message),
          confirmed := s.2.confirmed ++ confirmedSessions sessions })) ↔
      ∀ current ∈ s.1.sessions.get? loaded.id,
        (loaded.flush new current).messages = current.messages ++ messages ∧
        (current.status = "confirmed" → (loaded.flush new current).status = "confirmed" ∧
          (loaded.flush new current).messages = current.messages ∧
          (loaded.flush new current).draftGoal = current.draftGoal) := by
  have hput := fun current (hcurrent : current ∈ s.1.sessions) =>
    @OnboardingInv.kept_put_iff s h current (loaded.flush new current) messages inFlight hcurrent rfl rfl
  constructor
  · intro hkept current hcurrent
    have hid : current.id = loaded.id := Table.key_of_get? hcurrent
    have hwritten := hkept _ (writeBack_eq_ok.mpr ⟨current, hcurrent, rfl⟩)
    rw [← hid] at hwritten
    exact (hput current (Table.mem_of_get? hcurrent)).mp hwritten
  · intro hrow sessions hwrite
    obtain ⟨current, hcurrent, rfl⟩ := writeBack_eq_ok.mp hwrite
    have hid : current.id = loaded.id := Table.key_of_get? hcurrent
    rw [← hid]
    exact (hput current (Table.mem_of_get? hcurrent)).mpr (hrow current hcurrent)

/-- A message appended to the list that was loaded: it goes behind the stored one only where this is the same. -/
theorem append_message_iff {loaded stored : List OnboardingMessage} {message : OnboardingMessage}
    {confirmed status draft : Prop} :
    (writtenColumn loaded (loaded ++ [message]) stored = stored ++ [message] ∧
      (confirmed → status ∧ writtenColumn loaded (loaded ++ [message]) stored = stored ∧ draft)) ↔
      stored = loaded ∧ ¬ confirmed := by
  have hwritten : writtenColumn loaded (loaded ++ [message]) stored = loaded ++ [message] := if_neg (by simp)
  rw [hwritten, List.append_left_inj]
  constructor
  · rintro ⟨rfl, hrest⟩
    exact ⟨rfl, fun hconfirmed => absurd (hrest hconfirmed).2.1 (by simp)⟩
  · rintro ⟨rfl, hopen⟩
    exact ⟨rfl, fun hconfirmed => absurd hconfirmed hopen⟩

/-- **The end of a request**, one case for each kind of request. -/
theorem OnboardingInv.kept_finish_iff (h : OnboardingInv s) (now : Time) (newId : Uuid)
    (inFlight : List OnboardingPending) (pending : OnboardingPending) :
    (∀ sessions, pending.finish s.1.sessions now newId = .ok sessions →
      ConversationsKept ({ sessions, inFlight },
        { said := s.2.said ++ (pending.message now).toList.map fun message => (pending.sessionId newId, message),
          confirmed := s.2.confirmed ++ confirmedSessions sessions })) ↔
      pending.Undisturbed s.1.sessions newId := by
  cases pending with
  | start boardId prompt =>
    constructor
    · intro hkept hfresh
      obtain ⟨sessions, hinsert⟩ := (@Table.exists_insert? _ _ _ _ s.1.sessions
        { id := newId, boardId, updatedAt := now,
          messages := [{ role := "user", content := prompt, timestamp := now }] }).mpr hfresh
      exact (h.kept_insert_iff hinsert rfl).mp (hkept sessions (orFail_eq_ok.mpr hinsert))
    · intro hboard sessions hfinish
      have hinsert := orFail_eq_ok.mp hfinish
      exact (h.kept_insert_iff hinsert rfl).mpr (hboard (Table.exists_insert?.mp ⟨sessions, hinsert⟩))
  | resume loaded =>
    refine h.kept_writeBack_iff.trans (iff_of_true (fun current _ => ?_) trivial)
    exact ⟨(writtenColumn_same ..).trans (List.append_nil _).symm, fun hconfirmed =>
      ⟨(writtenColumn_same ..).trans hconfirmed, writtenColumn_same .., writtenColumn_same ..⟩⟩
  | answer loaded timestamp payload =>
    refine h.kept_writeBack_iff.trans (forall_congr' fun current => forall_congr' fun _ => ?_)
    exact append_message_iff
  | agentUpdate loaded timestamp payload =>
    refine h.kept_writeBack_iff.trans (forall_congr' fun current => forall_congr' fun _ => ?_)
    cases payload with
    | question payloadText => exact append_message_iff
    | complete payloadText payloadData => exact append_message_iff
  | confirm loaded =>
    refine h.kept_writeBack_iff.trans (iff_of_true (fun current _ => ?_) trivial)
    refine ⟨(writtenColumn_same ..).trans (List.append_nil _).symm, fun hconfirmed => ⟨?_, writtenColumn_same ..,
      writtenColumn_same ..⟩⟩
    show writtenColumn loaded.status "confirmed" current.status = "confirmed"
    rw [hconfirmed]
    exact ite_self _

/-! ## Steps and runs -/

theorem note_of_finish_eq_ok {i : Nat} {now : Time} {newId : Uuid} {pending : OnboardingPending}
    (hpending : s.1.inFlight[i]? = some pending) (hfinish : pending.finish s.1.sessions now newId = .ok sessions) :
    watchedOnboarding.commits s (.finish i now newId) =
      [({ sessions, inFlight := s.1.inFlight.eraseIdx i },
        { said := s.2.said ++ (pending.message now).toList.map fun message => (pending.sessionId newId, message),
          confirmed := s.2.confirmed ++ confirmedSessions sessions })] := by
  simp only [watchedOnboarding, Machine.watch, onboardingMachine, onboardingNote, saidBy, hpending, hfinish,
    List.map_cons, List.map_nil]

theorem commits_same {a : OnboardingAction}
    (hsame : ∀ i now newId, a = .finish i now newId → ∀ pending ∈ s.1.inFlight[i]?, ∀ sessions,
      pending.finish s.1.sessions now newId ≠ .ok sessions)
    (ht : t ∈ watchedOnboarding.commits s a) : ∃ inFlight, t = ({ s.1 with inFlight },
      { s.2 with confirmed := s.2.confirmed ++ confirmedSessions s.1.sessions }) := by
  obtain ⟨t, notes⟩ := t
  obtain ⟨hcommit, hnotes⟩ := Machine.mem_watch.mp ht
  have hsaid : saidBy s.1 a = [] := by
    cases a with
    | begin _ _ | abandon _ => rfl
    | finish i now newId =>
      unfold saidBy
      dsimp only
      cases hpending : s.1.inFlight[i]? with
      | none => rfl
      | some pending =>
        dsimp only
        cases hfinish : pending.finish s.1.sessions now newId with
        | error e => rfl
        | ok sessions => exact absurd hfinish (hsame i now newId rfl pending hpending sessions)
  have hstate : ∃ inFlight, t = { s.1 with inFlight } := by
    cases a with
    | begin now request =>
      simp only [onboardingMachine] at hcommit
      split at hcommit
      · exact ⟨_, List.mem_singleton.mp hcommit⟩
      · cases hcommit
      · cases hcommit
    | abandon i => exact ⟨_, List.mem_singleton.mp hcommit⟩
    | finish i now newId =>
      simp only [onboardingMachine] at hcommit
      split at hcommit
      · cases hcommit
      · rename_i pending hpending
        split at hcommit
        · rename_i sessions hfinish
          exact absurd hfinish (hsame i now newId rfl pending hpending sessions)
        · exact ⟨_, List.mem_singleton.mp hcommit⟩
  obtain ⟨inFlight, rfl⟩ := hstate
  refine ⟨inFlight, Prod.ext rfl (hnotes.trans ?_)⟩
  unfold onboardingNote
  rw [hsaid, List.append_nil]

theorem isSome_get?_writeBack {new : BoardOnboardingSession} (h : writeBack sessions loaded new = .ok sessions')
    (id : Uuid) :
    (sessions'.get? id).isSome = (sessions.get? id).isSome := by
  obtain ⟨current, hcurrent, rfl⟩ := writeBack_eq_ok.mp h
  have hid : current.id = loaded.id := Table.key_of_get? hcurrent
  by_cases hcase : id = current.id
  · have hget : sessions.get? current.id = some current := Table.get?_key (Table.mem_of_get? hcurrent)
    have hput : (sessions.put (loaded.flush new current)).get? current.id = some (loaded.flush new current) :=
      @Table.get?_put_self _ _ _ _ sessions (loaded.flush new current) current hget
    rw [hcase, hget, hput]
    rfl
  · exact congrArg Option.isSome (Table.get?_put_ne hcase)

theorem isSome_get?_finish {now : Time} {newId : Uuid} {pending : OnboardingPending}
    (h : pending.finish sessions now newId = .ok sessions') :
    (∀ id, (sessions.get? id).isSome → (sessions'.get? id).isSome) ∧
      (sessions'.get? (pending.sessionId newId)).isSome := by
  have hback : ∀ {loaded new}, writeBack sessions loaded new = .ok sessions' →
      (∀ id, (sessions.get? id).isSome → (sessions'.get? id).isSome) ∧ (sessions'.get? loaded.id).isSome := by
    intro loaded new hwrite
    obtain ⟨current, hcurrent, -⟩ := writeBack_eq_ok.mp hwrite
    refine ⟨fun id hid => (isSome_get?_writeBack hwrite id).trans hid, ?_⟩
    exact (isSome_get?_writeBack hwrite loaded.id).trans (congrArg Option.isSome hcurrent)
  cases pending with
  | start boardId prompt =>
    have hget := Table.get?_insert? (orFail_eq_ok.mp h)
    constructor
    · intro id hid
      rw [hget]
      split
      · rfl
      · exact hid
    · rw [hget]
      exact congrArg Option.isSome (if_pos rfl)
  | resume loaded => exact hback h
  | answer loaded timestamp payload => exact hback h
  | agentUpdate loaded timestamp payload => exact hback h
  | confirm loaded => exact hback h

/-- **A step** keeps the conversations exactly when it is undisturbed. -/
theorem OnboardingInv.kept_step_iff (h : OnboardingInv s) (a : OnboardingAction) :
    (∀ t ∈ watchedOnboarding.commits s a, ConversationsKept t) ↔ Undisturbed s.1 a := by
  have hsame : (∀ i now newId, a = .finish i now newId → ∀ pending ∈ s.1.inFlight[i]?, ∀ sessions,
      pending.finish s.1.sessions now newId ≠ .ok sessions) →
      ∀ t ∈ watchedOnboarding.commits s a, ConversationsKept t := by
    intro hnone t ht
    obtain ⟨inFlight, rfl⟩ := commits_same hnone ht
    exact h.kept_same inFlight
  cases a with
  | begin now request => exact iff_of_true (hsame nofun) trivial
  | abandon i => exact iff_of_true (hsame nofun) trivial
  | finish i now newId =>
    cases hpending : s.1.inFlight[i]? with
    | none =>
      refine iff_of_true (hsame fun j _ _ heq pending hmem => ?_) fun pending hmem => ?_
      · obtain ⟨rfl, -, -⟩ := OnboardingAction.finish.inj heq
        rw [hpending] at hmem
        cases hmem
      · rw [hpending] at hmem
        cases hmem
    | some pending =>
      have hundisturbed : Undisturbed s.1 (.finish i now newId) ↔ pending.Undisturbed s.1.sessions newId := by
        constructor
        · exact fun hall => hall pending hpending
        · intro hone p hp
          obtain rfl := Option.some.inj (hpending.symm.trans hp)
          exact hone
      rw [hundisturbed, ← h.kept_finish_iff now newId (s.1.inFlight.eraseIdx i)]
      constructor
      · intro hall sessions hfinish
        exact hall _ (by rw [note_of_finish_eq_ok hpending hfinish]; exact List.mem_singleton_self _)
      · intro hall
        cases hfinish : pending.finish s.1.sessions now newId with
        | ok sessions =>
          rw [note_of_finish_eq_ok hpending hfinish]
          exact List.forall_mem_singleton.mpr (hall sessions hfinish)
        | error e =>
          refine hsame fun j _ _ heq p hp sessions hok => ?_
          obtain ⟨rfl, rfl, rfl⟩ := OnboardingAction.finish.inj heq
          obtain rfl := Option.some.inj (hpending.symm.trans hp)
          rw [hfinish] at hok
          cases hok

theorem OnboardingInv.step (h : OnboardingInv s) {a : OnboardingAction} (hundisturbed : Undisturbed s.1 a) :
    ∀ t ∈ watchedOnboarding.commits s a, OnboardingInv t := by
  intro t ht
  have hkept := (h.kept_step_iff a).mpr hundisturbed t ht
  by_cases hwrite : ∃ i now newId, a = .finish i now newId ∧ ∃ pending ∈ s.1.inFlight[i]?, ∃ sessions,
      pending.finish s.1.sessions now newId = .ok sessions
  · obtain ⟨i, now, newId, rfl, pending, hpending, sessions, hfinish⟩ := hwrite
    rw [note_of_finish_eq_ok hpending hfinish] at ht
    obtain rfl := List.mem_singleton.mp ht
    obtain ⟨hstay, hthere⟩ := isSome_get?_finish hfinish
    refine OnboardingInv.of_kept hkept h.wasConfirmed fun e he => ?_
    rcases List.mem_append.mp he with he | he
    · exact hstay e.1 (h.saidIn e he)
    · obtain ⟨message, -, rfl⟩ := List.mem_map.mp he
      exact hthere
  · have hnone : ∀ i now newId, a = .finish i now newId → ∀ pending ∈ s.1.inFlight[i]?, ∀ sessions,
        pending.finish s.1.sessions now newId ≠ .ok sessions :=
      fun i now newId heq pending hpending sessions hok =>
        hwrite ⟨i, now, newId, heq, pending, hpending, sessions, hok⟩
    obtain ⟨inFlight, rfl⟩ := commits_same hnone ht
    exact OnboardingInv.of_kept hkept h.wasConfirmed h.saidIn

theorem onboardingInv_start : OnboardingInv ({}, {}) where
  messages := nofun
  oneOpen := nofun
  confirmedStay := nofun
  seen := nofun
  wasConfirmed := nofun
  saidIn := nofun

/-- **Onboarding conversations** are kept in every state a run commits exactly when all its writes are undisturbed. -/
theorem conversationsKept_iff (as : List OnboardingAction) :
    (∀ t ∈ watchedOnboarding.committed ({}, {}) as, ConversationsKept t) ↔
      watchedOnboarding.Along (fun s a => Undisturbed s.1 a) ({}, {}) as :=
  Machine.forall_committed_iff_along OnboardingInv (fun _ _ h hP => h.step hP) (fun _ a h => h.kept_step_iff a)
    onboardingInv_start

/-! ## A lost question -/

namespace Sample

/-- The user answers; while the answer is sent to the gateway, its agent posts a question. -/
def answerDuringUpdate : List OnboardingAction :=
  [.begin 0 (.start 1 "Ask the user"), .finish 0 1 7,
    .begin 2 (.answer 1 { answer := "Ship the release" }),
    .begin 3 (.agentUpdate 1 (.question "Who leads?")), .finish 1 4 0, .finish 0 5 0]

def lostQuestion : BoardOnboardingSession where
  id := 7
  boardId := 1
  messages := [{ role := "user", content := "Ask the user", timestamp := 1 },
    { role := "user", content := "Ship the release", timestamp := 2 }]
  updatedAt := 5

end Sample

open Sample in
theorem not_conversationsKept :
    ¬ ∀ t ∈ watchedOnboarding.committed ({}, {}) answerDuringUpdate, ConversationsKept t := by
  intro h
  have hstates : watchedOnboarding.committed ({}, {}) answerDuringUpdate ≠ [] := nofun
  obtain ⟨last, hlast, hrows, hsaid⟩ : ∃ t ∈ watchedOnboarding.committed ({}, {}) answerDuringUpdate,
      lostQuestion ∈ t.1.sessions.rows ∧ lostQuestion.messages ≠ messagesOf t.2.said lostQuestion.id :=
    ⟨_, List.getLast_mem hstates, by decide +revert, by decide +kernel +revert⟩
  exact hsaid ((h last hlast).messages lostQuestion hrows)

end SiloForge
