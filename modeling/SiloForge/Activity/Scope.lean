import SiloForge.Activity.Telemetry

/-!
# What a member sees of operations

The list, the stream and the dashboard each say on their own which events a member sees. What they send is decided by
the rows of the boards the member may read, and by the rows of no board.

* `ActivityDb.hide`, `ActivityDb.visible` : the database without the rows of other boards;
* `memberActivity_visible`, `telemetryOps_visible`, `fetch_hide` : the three see no more than that;
* `operations_scoped` : for every member, the list, the dashboard and the stream.
-/

namespace SiloForge

open Lib

namespace ActivityDb

/-- The database without the rows of boards that are not among the ids. -/
def hide (db : ActivityDb) (boardIds : List Uuid) : ActivityDb where
  members := db.members
  boardAccess := db.boardAccess.deleteWhere fun a => a.boardId ∉ boardIds
  boards := db.boards.deleteWhere fun b => b.id ∉ boardIds
  tasks := db.tasks.deleteWhere fun t => t.boardId.any (· ∉ boardIds)
  events := db.events.deleteWhere fun e => (db.resolvedBoardId e).any (· ∉ boardIds)

/-- The database without the rows of boards the member may not read. -/
def visible (db : ActivityDb) (member : OrganizationMember) : ActivityDb := db.hide (db.readable member)

/-- Two states differ only in rows of boards the member may not read. -/
def SameFor (member : OrganizationMember) (db db' : ActivityDb) : Prop := db.visible member = db'.visible member

/-- The events of the queue worker have neither a board nor a task. -/
def WorkerScoped (db : ActivityDb) : Prop :=
  ∀ event ∈ db.events, eventTypeLike workerPattern event.eventType = true → event.boardId = none ∧ event.taskId = none

/-- An event of a board is of the board of its task. -/
def OwnBoards (db : ActivityDb) : Prop :=
  ∀ event ∈ db.events, ∀ boardId taskBoardId, event.boardId = some boardId → db.taskBoardId event = some taskBoardId →
    taskBoardId = boardId

end ActivityDb

/-! ## Hiding boards -/

section Hide
variable {db db' : ActivityDb} {boardIds : List Uuid} {event : ActivityEventRow} {member : OrganizationMember}

theorem filter_filter_of_imp {α : Type} {rows : List α} {selected kept : α → Bool}
    (h : ∀ row ∈ rows, selected row = true → kept row = true) :
    (rows.filter kept).filter selected = rows.filter selected := by
  rw [List.filter_filter]
  apply List.filter_congr
  intro row hrow
  cases hselected : selected row with
  | false => rfl
  | true => rw [h row hrow hselected, Bool.and_self]

theorem readable_visible : (db.visible member).readable member = db.readable member := by
  have hids : ∀ boardIds, db.readable member = boardIds → (db.hide boardIds).readable member = boardIds := by
    intro boardIds hids
    unfold ActivityDb.readable listAccessibleBoardIds at hids ⊢
    split
    · rename_i hall
      rw [if_pos hall] at hids
      refine Eq.trans ?_ hids
      dsimp only [ActivityDb.access, ActivityDb.hide, Table.view, Table.deleteWhere] at hids ⊢
      rw [List.filter_map, List.filter_map, filter_filter_of_imp]
      intro board hboard horganization
      have hmem : board.id ∈ boardIds := by
        rw [← hids]
        exact List.mem_map_of_mem (List.mem_filter.mpr ⟨List.mem_map_of_mem hboard, horganization⟩)
      simpa using hmem
    · rename_i hrows
      rw [if_neg hrows] at hids
      refine Eq.trans ?_ hids
      dsimp only [accessBoardIds, ActivityDb.access, ActivityDb.hide, Table.deleteWhere] at hids ⊢
      rw [filter_filter_of_imp]
      intro access haccess hselected
      have hmem : access.boardId ∈ boardIds := by
        rw [← hids]
        exact List.mem_map_of_mem (List.mem_filter.mpr ⟨haccess, hselected⟩)
      simpa using hmem
  exact hids _ rfl

/-- The event is of no board, or of one of the ids. -/
def KeptEvent (db : ActivityDb) (boardIds : List Uuid) (event : ActivityEventRow) : Prop :=
  ∀ boardId, db.resolvedBoardId event = some boardId → boardId ∈ boardIds

theorem keptEvent_iff : (db.resolvedBoardId event).any (· ∉ boardIds) = false ↔ KeptEvent db boardIds event := by
  unfold KeptEvent
  cases db.resolvedBoardId event <;> simp

theorem taskBoardId_hide (hkept : ∀ boardId, db.taskBoardId event = some boardId → boardId ∈ boardIds) :
    (db.hide boardIds).taskBoardId event = db.taskBoardId event := by
  unfold ActivityDb.taskBoardId ActivityDb.hide at *
  cases htask : event.taskId with
  | none => rfl
  | some taskId =>
    rw [htask] at hkept
    dsimp only
    rw [Option.bind_some, Option.bind_some, Table.get?_deleteWhere]
    cases hget : db.tasks.get? taskId with
    | none => rfl
    | some task =>
      rw [Option.bind_some, hget, Option.bind_some] at hkept
      have hshown : task.boardId.any (· ∉ boardIds) = false := by
        cases hon : task.boardId with
        | none => rfl
        | some boardId => simpa using hkept boardId hon
      rw [Option.filter_some, hshown]
      rfl

theorem KeptEvent.task (hkept : KeptEvent db boardIds event) (hboard : event.boardId = none) :
    ∀ boardId, db.taskBoardId event = some boardId → boardId ∈ boardIds := by
  intro boardId htask
  apply hkept
  rw [ActivityDb.resolvedBoardId, hboard, Option.none_or, htask]

theorem resolvedBoardId_hide (hkept : KeptEvent db boardIds event) :
    (db.hide boardIds).resolvedBoardId event = db.resolvedBoardId event := by
  unfold ActivityDb.resolvedBoardId
  cases hboard : event.boardId with
  | none => rw [Option.none_or, Option.none_or, taskBoardId_hide (hkept.task hboard)]
  | some boardId => rfl

theorem readActivity_hide (hkept : KeptEvent db boardIds event) :
    readActivity (db.hide boardIds) event = readActivity db event := by
  unfold readActivity
  rw [resolvedBoardId_hide hkept]

theorem listShows_hide (hkept : KeptEvent db boardIds event) :
    listShows (db.hide boardIds) boardIds event = listShows db boardIds event := by
  unfold listShows
  cases hboard : event.boardId with
  | none => rw [taskBoardId_hide (hkept.task hboard)]
  | some boardId => rfl

theorem listShows_iff : listShows db boardIds event = true ↔
    (∃ boardId, db.resolvedBoardId event = some boardId ∧ boardId ∈ boardIds) ∨
      (event.boardId = none ∧ event.taskId = none ∧ globalActivity event.eventType = true) := by
  unfold listShows ActivityDb.resolvedBoardId
  cases event.boardId with
  | none => simp [Option.any_eq_true]
  | some boardId => simp

theorem kept_of_listShows (h : listShows db boardIds event = true) : KeptEvent db boardIds event := by
  intro boardId hresolved
  rcases listShows_iff.mp h with ⟨shown, hshown, hmem⟩ | ⟨hboard, htask, -⟩
  · rw [hresolved] at hshown
    exact Option.some.inj hshown ▸ hmem
  · rw [ActivityDb.resolvedBoardId, hboard, ActivityDb.taskBoardId, htask] at hresolved
    cases hresolved

theorem map_filter_hide {shows shows' : ActivityEventRow → Bool} {le : ActivityEventRow → ActivityEventRow → Bool}
    (hkept : ∀ event ∈ db.events, shows event = true → KeptEvent db boardIds event)
    (hsame : ∀ event ∈ db.events, KeptEvent db boardIds event → shows' event = shows event) :
    (((db.hide boardIds).events.rows.filter shows').mergeSort le).map (readActivity (db.hide boardIds)) =
      ((db.events.rows.filter shows).mergeSort le).map (readActivity db) := by
  have hrows : (db.hide boardIds).events.rows.filter shows' = db.events.rows.filter shows := by
    dsimp only [ActivityDb.hide, Table.deleteWhere]
    rw [List.filter_filter]
    apply List.filter_congr
    intro event hevent
    cases hhidden : (db.resolvedBoardId event).any (· ∉ boardIds) with
    | false => rw [hsame event hevent (keptEvent_iff.mp hhidden), Bool.not_false, Bool.and_true]
    | true =>
      have hnot : ¬ KeptEvent db boardIds event := fun hkept => by
        rw [keptEvent_iff.mpr hkept] at hhidden
        cases hhidden
      rw [Bool.not_true, Bool.and_false]
      exact (Bool.eq_false_iff.mpr fun hshows => hnot (hkept event hevent hshows)).symm
  rw [hrows]
  apply List.map_congr_left
  intro event hevent
  obtain ⟨hmem, hshows⟩ := List.mem_filter.mp ((List.mem_mergeSort).mp hevent)
  exact readActivity_hide (hkept event hmem hshows)

/-- **The list** is that of the rows the member sees. -/
theorem memberActivity_visible : memberActivity (db.visible member) member = memberActivity db member := by
  unfold memberActivity
  dsimp only
  rw [readable_visible]
  apply map_filter_hide
  · intro event _ hshows
    exact kept_of_listShows (Bool.and_eq_true_iff.mp hshows).2
  · intro event _ hkept
    exact congrArg _ (listShows_hide hkept)

variable {boardId groupId : Option Uuid}

theorem resolveDashboardBoardIds_visible : resolveDashboardBoardIds (db.visible member) member boardId groupId =
      resolveDashboardBoardIds db member boardId groupId := by
  have hgroup : ∀ groupId, ((db.visible member).boards.rows.filter fun b =>
      b.organizationId = member.organizationId ∧ b.boardGroupId = some groupId ∧ b.id ∈ db.readable member) =
        db.boards.rows.filter fun b =>
          b.organizationId = member.organizationId ∧ b.boardGroupId = some groupId ∧ b.id ∈ db.readable member := by
    intro groupId
    apply filter_filter_of_imp
    intro board _ hselected
    simpa using (of_decide_eq_true hselected).2.2
  unfold resolveDashboardBoardIds
  rw [readable_visible]
  simp only [hgroup]

theorem resolveDashboardBoardIds_subset (h : resolveDashboardBoardIds db member boardId groupId = .ok boardIds) :
    ∀ b ∈ boardIds, b ∈ db.readable member := by
  unfold resolveDashboardBoardIds at h
  dsimp only at h
  split at h
  · obtain rfl := pure_eq_ok.mp h
    exact fun b hb => absurd hb List.not_mem_nil
  · obtain ⟨_, hallowed, h⟩ := bind_eq_ok.mp h
    rw [require_eq_ok] at hallowed
    split at h
    · obtain rfl := pure_eq_ok.mp h
      cases boardId with
      | none => exact fun b hb => hb
      | some boardId =>
        intro b hb
        obtain rfl := List.mem_singleton.mp hb
        simpa using hallowed
    · obtain rfl := pure_eq_ok.mp h
      have hgroup : ∀ groupId, ∀ b ∈ (db.boards.rows.filter fun b => b.organizationId = member.organizationId ∧
          b.boardGroupId = some groupId ∧ b.id ∈ db.readable member).map (·.id), b ∈ db.readable member := by
        intro groupId b hb
        obtain ⟨board, hboard, rfl⟩ := List.mem_map.mp hb
        exact (of_decide_eq_true (List.mem_filter.mp hboard).2).2.2
      cases boardId with
      | none => exact hgroup _
      | some boardId =>
        intro b hb
        dsimp only [Option.elim] at hb
        split at hb
        · obtain rfl := List.mem_singleton.mp hb
          exact hgroup _ _ (by assumption)
        · exact absurd hb List.not_mem_nil

theorem workerEvents_visible (hworker : db.WorkerScoped) : workerEvents (db.visible member) = workerEvents db := by
  apply filter_filter_of_imp
  intro event hevent hlike
  obtain ⟨hboard, htask⟩ := hworker event hevent hlike
  have hresolved : db.resolvedBoardId event = none := by
    rw [ActivityDb.resolvedBoardId, hboard, ActivityDb.taskBoardId, htask]
    rfl
  dsimp only
  rw [hresolved]
  rfl

theorem webhookEvents_visible (hsubset : ∀ b ∈ boardIds, b ∈ db.readable member) :
    webhookEvents (db.visible member) boardIds = webhookEvents db boardIds := by
  apply filter_filter_of_imp
  intro event _ hselected
  obtain ⟨boardId, hboard, hmem⟩ := (Option.any_eq_true _ _).mp (Bool.and_eq_true_iff.mp hselected).2
  have hread := hsubset boardId (of_decide_eq_true hmem)
  have hresolved : db.resolvedBoardId event = some boardId := by
    rw [ActivityDb.resolvedBoardId, hboard]
    rfl
  dsimp only
  rw [hresolved]
  simpa using hread

/-- **The dashboard** is that of the rows the member sees, where the worker's events are the worker's. -/
theorem telemetryOps_visible (hworker : db.WorkerScoped) {now : Time} {key : RangeKey} :
    dashboardTelemetryOpsMetrics (db.visible member) member now key boardId groupId =
      dashboardTelemetryOpsMetrics db member now key boardId groupId := by
  unfold dashboardTelemetryOpsMetrics
  rw [resolveDashboardBoardIds_visible]
  cases hids : resolveDashboardBoardIds db member boardId groupId with
  | error e => rfl
  | ok boardIds =>
    have hsame : telemetryOpsMetrics (db.visible member) now key boardIds =
        telemetryOpsMetrics db now key boardIds := by
      unfold telemetryOpsMetrics
      rw [workerEvents_visible hworker, webhookEvents_visible (resolveDashboardBoardIds_subset hids)]
    exact congrArg Except.ok hsame

end Hide

/-! ## The stream -/

variable {read : ActivityEventRead}

section Stream
variable {db : ActivityDb} {boardIds : List Uuid} {event : ActivityEventRow} {member : OrganizationMember}
  {boardId : Option Uuid} {stream : ActivityStream}

/-- A stream of one board asks for one of its boards, where events are of the boards of their tasks. -/
def AsksOwn (db : ActivityDb) (stream : ActivityStream) : Prop :=
  stream.boardId = none ∨ (db.OwnBoards ∧ ∀ boardId ∈ stream.boardId, boardId ∈ stream.allowedIds)

/-- Where events are of the boards of their tasks, the stream of a board has those whose board it is. -/
theorem streamShows_board (hown : db.OwnBoards) (hevent : event ∈ db.events) {asked : Uuid} :
    streamShows db boardIds (some asked) event = true ↔ db.resolvedBoardId event = some asked := by
  have htask := hown event hevent
  unfold streamShows ActivityDb.resolvedBoardId
  cases hboard : event.boardId with
  | none => simp
  | some own =>
    simp only [Bool.or_eq_true, decide_eq_true_eq, Option.some.injEq, Option.some_or]
    refine or_iff_left_of_imp fun hasked => ?_
    exact (htask own asked hboard hasked).symm

/-- What the stream has at a poll is what the list has, cut down to the board asked for. -/
theorem streamShows_iff (hasks : AsksOwn db stream) (hevent : event ∈ db.events) :
    streamShows db stream.allowedIds stream.boardId event = true ↔
      stream.allowedIds ≠ [] ∧ listShows db stream.allowedIds event = true ∧
        ∀ asked ∈ stream.boardId, db.resolvedBoardId event = some asked := by
  cases hasked : stream.boardId with
  | none => simp [streamShows]
  | some asked =>
    obtain ⟨hown, hallowed⟩ := hasks.resolve_left (by simp [hasked])
    rw [streamShows_board hown hevent]
    have hmem : asked ∈ stream.allowedIds := hallowed asked hasked
    constructor
    · intro hresolved
      refine ⟨List.ne_nil_of_mem hmem, listShows_iff.mpr (.inl ⟨asked, hresolved, hmem⟩), fun b hb => ?_⟩
      exact hresolved.trans hb
    · exact fun h => h.2.2 asked rfl

theorem streamShows_hide (hasks : AsksOwn db stream) (hevent : event ∈ db.events)
    (hkept : KeptEvent db stream.allowedIds event) :
    streamShows (db.hide stream.allowedIds) stream.allowedIds stream.boardId event =
      streamShows db stream.allowedIds stream.boardId event := by
  cases hasked : stream.boardId with
  | none => exact congrArg (!stream.allowedIds.isEmpty && ·) (listShows_hide hkept)
  | some asked =>
    obtain ⟨hown, -⟩ := hasks.resolve_left (by simp [hasked])
    have htask : ∀ b, db.taskBoardId event = some b → b ∈ stream.allowedIds := by
      intro b hb
      cases hboard : event.boardId with
      | none => exact hkept.task hboard b hb
      | some own =>
        obtain rfl := hown event hevent own b hboard hb
        apply hkept
        rw [ActivityDb.resolvedBoardId, hboard]
        rfl
    unfold streamShows
    rw [taskBoardId_hide htask]

/-- **A poll of the stream** finds what it finds in the rows of its boards. -/
theorem fetch_hide (hasks : AsksOwn db stream) :
    fetchActivityEvents (db.hide stream.allowedIds) stream.allowedIds stream.boardId =
      fetchActivityEvents db stream.allowedIds stream.boardId := by
  funext since
  apply map_filter_hide
  · intro event hevent hshows
    exact kept_of_listShows ((streamShows_iff hasks hevent).mp (Bool.and_eq_true_iff.mp hshows).2).2.1
  · intro event hevent hkept
    exact congrArg _ (streamShows_hide hasks hevent hkept)

theorem mem_memberActivity : read ∈ memberActivity db member ↔
    ∃ event ∈ db.events, (db.readable member ≠ [] ∧ listShows db (db.readable member) event = true) ∧
      readActivity db event = read := by
  unfold memberActivity
  simp only [List.mem_map, List.mem_mergeSort, List.mem_filter, Bool.and_eq_true, Bool.not_eq_true',
    List.isEmpty_eq_false_iff, and_assoc]
  rfl

theorem listShows_congr {others : List Uuid} (h : ∀ b, b ∈ boardIds ↔ b ∈ others) :
    listShows db boardIds event = listShows db others event := by
  unfold listShows
  simp only [h]

/-- Polled in a state where the member may read the boards it was opened with, the stream has what the list has. -/
theorem feed_shows_iff (hasks : AsksOwn db stream) (hsame : ∀ b, b ∈ db.readable member ↔ b ∈ stream.allowedIds)
    : (stream.feed db).shows read ↔
      read ∈ memberActivity db member ∧ ∀ asked ∈ stream.boardId, read.boardId = some asked := by
  have hempty : db.readable member ≠ [] ↔ stream.allowedIds ≠ [] := by
    simp only [ne_eq, List.eq_nil_iff_forall_not_mem, hsame]
  rw [mem_memberActivity, hempty]
  simp only [ActivityStream.feed, listShows_congr hsame]
  constructor
  · rintro ⟨event, hevent, hshows, rfl⟩
    obtain ⟨hne, hlist, hasked⟩ := (streamShows_iff hasks hevent).mp hshows
    exact ⟨⟨event, hevent, ⟨hne, hlist⟩, rfl⟩, hasked⟩
  · rintro ⟨⟨event, hevent, ⟨hne, hlist⟩, rfl⟩, hasked⟩
    exact ⟨event, hevent, (streamShows_iff hasks hevent).mpr ⟨hne, hlist, hasked⟩, rfl⟩

end Stream

/-! ## What is sent is the member's -/

/-- Of a board the member may read, or a global event without a board or a task. -/
def ShownTo (db : ActivityDb) (member : OrganizationMember) (read : ActivityEventRead) : Prop :=
  (∃ boardId, read.boardId = some boardId ∧ boardId ∈ db.readable member) ∨
    (read.boardId = none ∧ read.taskId = none ∧ globalActivity read.eventType = true)

/-- The list sends what is the member's, and depends on nothing else. -/
structure ListScoped (member : OrganizationMember) : Prop where
  shown : ∀ db limit offset page, listActivity db (.user (some member)) limit offset = .ok page →
    ∀ read ∈ page.items, ShownTo db member read
  same : ∀ db db', ActivityDb.SameFor member db db' → ∀ limit offset,
    listActivity db (.user (some member)) limit offset = listActivity db' (.user (some member)) limit offset

/-- The dashboard names boards of the member, and depends on nothing but them and the worker, whose events are recorded
without a board. -/
structure DashboardScoped (member : OrganizationMember) : Prop where
  recorded : ∀ db db' now id eventType payload boardId, db.WorkerScoped →
    (eventTypeLike workerPattern eventType = true → boardId = none) →
      recordTelemetryActivity db now id eventType payload boardId = .ok db' → db'.WorkerScoped
  webhook : ∀ db now key boardId groupId metrics,
    dashboardTelemetryOpsMetrics db member now key boardId groupId = .ok metrics →
      ∀ b ∈ metrics.webhook.latestBoardId, b ∈ db.readable member
  worker : ∀ db now key boardId groupId metrics, db.WorkerScoped →
    dashboardTelemetryOpsMetrics db member now key boardId groupId = .ok metrics →
      metrics.worker.latestBoardId = none ∧ metrics.worker.latestTaskId = none
  same : ∀ db db', ActivityDb.SameFor member db db' → db.WorkerScoped → db'.WorkerScoped →
    ∀ now key boardId groupId, dashboardTelemetryOpsMetrics db member now key boardId groupId =
      dashboardTelemetryOpsMetrics db' member now key boardId groupId

/-- The polls of a stream: the member keeps its boards, and a stream of one board has events of the boards of their
tasks. -/
def SteadyPolls (member : OrganizationMember) (stream : ActivityStream) (polls : List ActivityDb) : Prop :=
  ∀ db ∈ polls, (∀ b, b ∈ db.readable member ↔ b ∈ stream.allowedIds) ∧ (stream.boardId = none ∨ db.OwnBoards)

/-- The stream sends what is the member's, depends on nothing else, and sends what the list has. -/
structure StreamScoped (member : OrganizationMember) : Prop where
  opened : ∀ db db', ActivityDb.SameFor member db db' → ∀ now since boardId,
    openActivityStream db member now since boardId = openActivityStream db' member now since boardId
  shown : ∀ db now since boardId stream polls, openActivityStream db member now since boardId = .ok stream →
    SteadyPolls member stream polls → ∀ read ∈ stream.emitted polls, ∃ db ∈ polls, ShownTo db member read
  same : ∀ db now since boardId stream polls polls', openActivityStream db member now since boardId = .ok stream →
    SteadyPolls member stream polls → SteadyPolls member stream polls' →
      List.Forall₂ (ActivityDb.SameFor member) polls polls' → stream.emitted polls = stream.emitted polls'
  listed : ∀ db now since boardId stream polls, openActivityStream db member now since boardId = .ok stream →
    SteadyPolls member stream polls → Settled ActivityEventRead.id (polls.map stream.feed) →
      ∀ read, read ∈ stream.emitted polls ↔ since.getD now ≤ read.createdAt ∧
        ∃ db ∈ polls, read ∈ memberActivity db member ∧ ∀ asked ∈ boardId, read.boardId = some asked

section Scoped
variable {db db' : ActivityDb} {member : OrganizationMember} {stream : ActivityStream}

theorem readable_sameFor (h : ActivityDb.SameFor member db db') : db.readable member = db'.readable member := by
  have hleft : (db.visible member).readable member = db.readable member := readable_visible
  rw [← hleft, h, readable_visible]

theorem shownTo_of_mem (h : read ∈ memberActivity db member) : ShownTo db member read := by
  obtain ⟨event, -, ⟨-, hlist⟩, rfl⟩ := mem_memberActivity.mp h
  rcases listShows_iff.mp hlist with ⟨boardId, hresolved, hmem⟩ | ⟨hboard, htask, hglobal⟩
  · exact .inl ⟨boardId, hresolved, hmem⟩
  · refine .inr ⟨?_, htask, hglobal⟩
    show db.resolvedBoardId event = none
    rw [ActivityDb.resolvedBoardId, hboard, ActivityDb.taskBoardId, htask]
    rfl

theorem listScoped (member : OrganizationMember) : ListScoped member where
  shown := by
    intro db limit offset page h read hread
    obtain ⟨_, -, h⟩ := bind_eq_ok.mp h
    obtain ⟨found, hfound, h⟩ := bind_eq_ok.mp h
    obtain rfl := Option.some.inj (orFail_eq_ok.mp hfound)
    obtain rfl := pure_eq_ok.mp h
    exact shownTo_of_mem (List.mem_of_mem_drop (List.mem_of_mem_take hread))
  same := by
    intro db db' h limit offset
    have hleft : memberActivity (db.visible member) member = memberActivity db member := memberActivity_visible
    have hrows : memberActivity db member = memberActivity db' member := by rw [← hleft, h, memberActivity_visible]
    exact congrArg (fun rows => require (1 ≤ limit ∧ limit ≤ 200 ∧ 0 ≤ offset) (Failure.status 422) >>= fun _ =>
      pure (paginate rows limit offset)) hrows

theorem dashboardScoped (member : OrganizationMember) : DashboardScoped member where
  recorded := by
    intro db db' now id eventType payload boardId hworker hboard h event hevent hlike
    obtain ⟨events, hinsert, h⟩ := bind_eq_ok.mp h
    obtain rfl := pure_eq_ok.mp h
    rcases (Table.mem_insert? (orFail_eq_ok.mp hinsert)).mp hevent with hevent | rfl
    · exact hworker event hevent hlike
    · exact ⟨hboard hlike, rfl⟩
  webhook := by
    intro db now key boardId groupId metrics h b hb
    obtain ⟨boardIds, hids, h⟩ := bind_eq_ok.mp h
    obtain rfl := pure_eq_ok.mp h
    unfold telemetryOpsMetrics at hb
    split at hb
    · cases hb
    · obtain ⟨recent, hrecent, hboard⟩ := Option.bind_eq_some_iff.mp hb
      obtain ⟨-, hselected⟩ := List.mem_filter.mp (mem_of_firstBy hrecent)
      have hmem := (Bool.and_eq_true_iff.mp hselected).2
      rw [hboard] at hmem
      exact resolveDashboardBoardIds_subset hids b (of_decide_eq_true hmem)
  worker := by
    intro db now key boardId groupId metrics hworker h
    obtain ⟨boardIds, -, h⟩ := bind_eq_ok.mp h
    obtain rfl := pure_eq_ok.mp h
    unfold telemetryOpsMetrics
    split
    · exact ⟨rfl, rfl⟩
    · dsimp only [workerMetrics]
      cases hrecent : latestEvent (workerEvents db) with
      | none => exact ⟨rfl, rfl⟩
      | some recent =>
        obtain ⟨hmem, hlike⟩ := List.mem_filter.mp (mem_of_firstBy hrecent)
        exact hworker recent hmem hlike
  same := by
    intro db db' h hworker hworker' now key boardId groupId
    rw [← telemetryOps_visible hworker, ← telemetryOps_visible hworker', h]

theorem openActivityStream_eq_ok {now : Time} {since : Option Time} {boardId : Option Uuid}
    (h : openActivityStream db member now since boardId = .ok stream) :
    stream = { allowedIds := db.readable member, boardId, start := since.getD now } ∧
      ∀ asked ∈ boardId, asked ∈ db.readable member := by
  obtain ⟨_, hallowed, h⟩ := bind_eq_ok.mp h
  rw [require_eq_ok] at hallowed
  refine ⟨(pure_eq_ok.mp h).symm, fun asked hasked => ?_⟩
  rw [Option.mem_def] at hasked
  simpa [hasked] using hallowed

theorem asksOwn_of_steady {now : Time} {since : Option Time} {boardId : Option Uuid} {polls : List ActivityDb}
    (h : openActivityStream db member now since boardId = .ok stream) (hsteady : SteadyPolls member stream polls)
    {polled : ActivityDb} (hpolled : polled ∈ polls) : AsksOwn polled stream := by
  obtain ⟨rfl, hallowed⟩ := openActivityStream_eq_ok h
  exact (hsteady polled hpolled).2.imp_right fun hown => ⟨hown, hallowed⟩

theorem hide_congr {boardIds others : List Uuid} (h : ∀ b, b ∈ boardIds ↔ b ∈ others) :
    db.hide boardIds = db.hide others := by
  unfold ActivityDb.hide
  simp only [h]

theorem feed_same (h : ActivityDb.SameFor member db db') (hasks : AsksOwn db stream) (hasks' : AsksOwn db' stream)
    (hsteady : ∀ b, b ∈ db.readable member ↔ b ∈ stream.allowedIds) : stream.feed db = stream.feed db' := by
  have hleft : db.hide stream.allowedIds = db.visible member := hide_congr fun b => (hsteady b).symm
  have hright : db'.hide stream.allowedIds = db'.visible member :=
    hide_congr fun b => by rw [← readable_sameFor h, hsteady b]
  apply Feed.eq_of_fetch
  show fetchActivityEvents db _ _ = fetchActivityEvents db' _ _
  rw [← fetch_hide hasks, ← fetch_hide hasks', hleft, hright, h]

/-- **The stream** sends what is the member's, depends on nothing else, and sends what the list has. -/
theorem streamScoped (member : OrganizationMember) : StreamScoped member where
  opened := by
    intro db db' h now since boardId
    unfold openActivityStream
    rw [readable_sameFor h]
  shown := by
    intro db now since boardId stream polls hopen hsteady read hread
    obtain ⟨-, feed, hfeed, hshows⟩ := shown_of_mem_polled hread
    obtain ⟨polled, hpolled, rfl⟩ := List.mem_map.mp hfeed
    have hlisted := (feed_shows_iff (asksOwn_of_steady hopen hsteady hpolled) (hsteady polled hpolled).1).mp hshows
    exact ⟨polled, hpolled, shownTo_of_mem hlisted.1⟩
  same := by
    intro db now since boardId stream polls polls' hopen hsteady hsteady' hsame
    have hfeeds : polls.map stream.feed = polls'.map stream.feed := by
      induction hsame with
      | nil => rfl
      | cons hhead htail ih =>
        rw [List.map_cons, List.map_cons, ih (fun polled h => hsteady polled (List.mem_cons_of_mem _ h))
          (fun polled h => hsteady' polled (List.mem_cons_of_mem _ h))]
        rw [feed_same hhead (asksOwn_of_steady hopen hsteady (List.mem_cons_self ..))
          (asksOwn_of_steady hopen hsteady' (List.mem_cons_self ..)) (hsteady _ (List.mem_cons_self ..)).1]
    rw [ActivityStream.emitted, hfeeds]
    rfl
  listed := by
    intro db now since boardId stream polls hopen hsteady hsettled read
    have hfeed : ∀ polled ∈ polls, (stream.feed polled).shows read ↔
        read ∈ memberActivity polled member ∧ ∀ asked ∈ stream.boardId, read.boardId = some asked :=
      fun polled hpolled => feed_shows_iff (asksOwn_of_steady hopen hsteady hpolled) (hsteady polled hpolled).1
    rw [ActivityStream.emitted, mem_polled_iff hsettled]
    obtain ⟨rfl, -⟩ := openActivityStream_eq_ok hopen
    refine and_congr_right fun _ => ?_
    simp only [List.mem_map, exists_exists_and_eq_and]
    exact exists_congr fun polled => and_congr_right (hfeed polled)

/-- **What a user sees of operations** is of its boards, or of the worker and the batches of webhooks, which are shown
to every member. -/
theorem operations_scoped (member : OrganizationMember) :
    ListScoped member ∧ DashboardScoped member ∧ StreamScoped member :=
  ⟨listScoped member, dashboardScoped member, streamScoped member⟩

end Scoped

namespace Sample

def logBoard (id : Uuid) : GroupBoard := { id, organizationId := 1, name := "Board" }

def logged (rows : Table OrganizationBoardAccess) (events : List ActivityEventRow) (h : (events.map key).Nodup) :
    ActivityDb where
  members := ⟨[reader], Table.nodup_one reader⟩
  boardAccess := rows
  boards := ⟨[logBoard 1, logBoard 2], by decide⟩
  tasks := ⟨[{ id := 1, boardId := some 1, title := "Build" }], by decide⟩
  events := ⟨events, h⟩

def chatted (id : Uuid) (createdAt : Time) : ActivityEventRow :=
  { id, eventType := "board.chat", boardId := some 1, createdAt }

def workerDone (boardId : Option Uuid) : ActivityEventRow :=
  { id := 9, eventType := "queue.worker.success", boardId, createdAt := 5 }

def strayed : ActivityEventRow :=
  { id := 3, eventType := "task.updated", taskId := some 1, boardId := some 2, createdAt := 5 }

def early : ActivityDb := logged firstRow [chatted 1 5] (by decide)

def late : ActivityDb := logged firstRow [chatted 1 5, chatted 2 3] (by decide)

end Sample

/-- A stream of a task's own board has an event of another board on it, and misses an event older
than its latest one. -/
theorem not_operations_scoped :
    (¬ ∀ db member limit offset page, listActivity db (.user (some member)) limit offset = .ok page →
      ∀ read ∈ page.items, ∃ boardId, read.boardId = some boardId ∧ boardId ∈ db.readable member) ∧
    (¬ ∀ db db' member, ActivityDb.SameFor member db db' → ∀ now key,
      dashboardTelemetryOpsMetrics db member now key none none =
        dashboardTelemetryOpsMetrics db' member now key none none) ∧
    (¬ ∀ db member now boardId stream polls, openActivityStream db member now (some 0) boardId = .ok stream →
      SteadyPolls member stream polls → ∀ polled ∈ polls, ∀ read ∈ memberActivity polled member,
        read ∈ stream.emitted polls) ∧
    (¬ ∀ db member now stream polls, openActivityStream db member now (some 0) none = .ok stream →
      ∀ read ∈ stream.emitted polls, ∃ polled ∈ polls, ShownTo polled member read) ∧
    (¬ ∀ db member now asked stream, openActivityStream db member now (some 0) (some asked) = .ok stream →
      ∀ read ∈ stream.emitted [db], ShownTo db member read) := by
  refine ⟨fun h => ?_, fun h => ?_, fun h => ?_, fun h => ?_, fun h => ?_⟩
  · have hshown : ∃ read ∈ (paginate (memberActivity
        (Sample.logged Sample.firstRow [Sample.workerDone none] (by decide)) Sample.reader) 200 0).items,
        read.boardId = none := by decide +kernel
    obtain ⟨read, hread, hnone⟩ := hshown
    obtain ⟨boardId, hboard, -⟩ := h _ Sample.reader 200 0 _ rfl read hread
    rw [hnone] at hboard
    cases hboard
  · have hsame := h (Sample.logged Sample.firstRow [Sample.workerDone (some 2)] (by decide))
      (Sample.logged Sample.firstRow [] (by decide)) Sample.reader rfl 5 .hours24
    have hcounts := congrArg (fun answer => answer.toOption.map (·.worker.successCount)) hsame
    exact absurd hcounts (by decide +kernel)
  · have hsteady : SteadyPolls Sample.reader ⟨[1], none, 0⟩ [Sample.early, Sample.late] := by
      intro polled hpolled
      rcases List.mem_cons.mp hpolled with rfl | hpolled
      · exact ⟨fun _ => Iff.rfl, .inl rfl⟩
      · obtain rfl := List.mem_singleton.mp hpolled
        exact ⟨fun _ => Iff.rfl, .inl rfl⟩
    have hlisted : readActivity Sample.late (Sample.chatted 2 3) ∈ memberActivity Sample.late Sample.reader :=
      mem_memberActivity.mpr
        ⟨Sample.chatted 2 3, List.mem_cons_of_mem _ (List.mem_singleton_self _), ⟨by decide, by decide⟩, rfl⟩
    have hmissed : readActivity Sample.late (Sample.chatted 2 3) ∉
        ActivityStream.emitted ⟨[1], none, 0⟩ [Sample.early, Sample.late] := by decide +kernel
    exact hmissed (h Sample.early Sample.reader 9 none _ _ rfl hsteady Sample.late
      (List.mem_cons_of_mem _ (List.mem_singleton_self _)) _ hlisted)
  · have hemitted : readActivity (Sample.logged ∅ [Sample.chatted 1 5] (by decide)) (Sample.chatted 1 5) ∈
        ActivityStream.emitted ⟨[1], none, 0⟩ [Sample.logged ∅ [Sample.chatted 1 5] (by decide)] := by decide +kernel
    obtain ⟨polled, hpolled, hshown⟩ := h Sample.early Sample.reader 9 _ _ rfl _ hemitted
    obtain rfl := List.mem_singleton.mp hpolled
    rcases hshown with ⟨boardId, -, hmem⟩ | ⟨hnone, -⟩
    · exact absurd hmem List.not_mem_nil
    · cases hnone
  · have hemitted : readActivity (Sample.logged Sample.firstRow [Sample.strayed] (by decide)) Sample.strayed ∈
        ActivityStream.emitted ⟨[1], some 1, 0⟩ [Sample.logged Sample.firstRow [Sample.strayed] (by decide)] := by
      decide +kernel
    rcases h _ Sample.reader 9 1 _ rfl _ hemitted with ⟨boardId, hboard, hmem⟩ | ⟨hnone, -⟩
    · obtain rfl := Option.some.inj hboard
      exact absurd (List.mem_singleton.mp hmem) (by decide)
    · cases hnone

end SiloForge
