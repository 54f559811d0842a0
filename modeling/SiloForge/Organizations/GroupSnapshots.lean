import Mathlib.Data.Int.Order.Basic
import Mathlib.Data.List.Lex
import SiloForge.Organizations.BoardLists

/-!
# Snapshots of a board group

A group's snapshot is asked for by the group or from one of its boards. Both assemble it alike; the one by the group
is cut down to the boards of the member.

* `buildGroupSnapshot`, `buildBoardGroupSnapshot` : the snapshot, and the one from a board;
* `getGroupSnapshot`, `getBoardGroupSnapshot` : the two endpoints;
* `SnapshotsAgree`, `snapshotsAgree_iff` : both show the same boards, all of them the member's, when and only when the
  member may read every board of the group.
-/

namespace SiloForge

open Lib

/-! ## Rows -/

structure BoardGroup where
  id : Uuid
  organizationId : Uuid
  name : String
  deriving DecidableEq

instance : Keyed BoardGroup Uuid := ⟨BoardGroup.id⟩

structure GroupBoard extends Board where
  name : String
  boardGroupId : Option Uuid := none
  deriving DecidableEq

instance : Keyed GroupBoard Uuid := ⟨fun b => b.id⟩

theorem GroupBoard.key_toBoard (b : GroupBoard) : key b.toBoard = key b := rfl

structure GroupDb where
  members : Table OrganizationMember := ∅
  boardAccess : Table OrganizationBoardAccess := ∅
  groups : Table BoardGroup := ∅
  boards : Table GroupBoard := ∅
  agents : Table Agent := ∅
  tasks : Table Task := ∅
  tags : Table Tag := ∅
  tagAssignments : Table TagAssignment := ∅

def GroupDb.access (db : GroupDb) : Db where
  members := db.members
  boardAccess := db.boardAccess
  boards := db.boards.view (·.toBoard) GroupBoard.key_toBoard

/-! ## The snapshot -/

structure BoardGroupTaskSummary where
  id : Uuid
  boardId : Uuid
  boardName : String
  title : String
  status : TaskStatus
  priority : String
  assignedAgentId : Option Uuid
  assignee : Option String
  dueAt : Option Time
  inProgressAt : Option Time
  tags : List Tag
  createdAt : Time
  updatedAt : Time

structure BoardGroupBoardSnapshot where
  board : GroupBoard
  taskCounts : List (TaskStatus × Nat)
  tasks : List BoardGroupTaskSummary

structure BoardGroupSnapshot where
  group : Option BoardGroup
  boards : List BoardGroupBoardSnapshot

def BoardGroupSnapshot.boardIds (snapshot : BoardGroupSnapshot) : List Uuid := snapshot.boards.map (·.board.id)

/-- `_STATUS_ORDER`. -/
def statusWeight : TaskStatus → Nat
  | .inProgress => 0
  | .review => 1
  | .inbox => 2
  | .done => 3

/-- `_PRIORITY_ORDER`. -/
def priorityWeight (priority : String) : Nat :=
  if priority = "high" then 0 else if priority = "medium" then 1 else if priority = "low" then 2 else 99

def taskOrder (task : Task) : List Int :=
  [task.boardId.getD 0, statusWeight task.status, priorityWeight task.priority, -task.updatedAt, -task.createdAt]

def boardsForGroup (nameLe : String → String → Bool) (db : GroupDb) (groupId : Uuid) (excludeBoardId : Option Uuid) :
    List GroupBoard :=
  (db.boards.rows.filter fun b => b.boardGroupId = some groupId ∧ excludeBoardId ≠ some b.id).mergeSort
    fun a b => nameLe a.name b.name

/-- `_task_counts_by_board`, for one board. -/
def taskCounts (db : GroupDb) (boardId : Uuid) : List (TaskStatus × Nat) :=
  [TaskStatus.inbox, .inProgress, .review, .done].filterMap fun status =>
    let total := (db.tasks.rows.filter fun t => t.boardId = some boardId ∧ t.status = status).length
    if total = 0 then none else some (status, total)

def orderedTasksForBoards (db : GroupDb) (boardIds : List Uuid) (includeDone : Bool) : List Task :=
  (db.tasks.rows.filter fun t => t.boardId.any (· ∈ boardIds) ∧ (includeDone = false → t.status ≠ .done)).mergeSort
    fun a b => taskOrder a ≤ taskOrder b

def taskTags (db : GroupDb) (taskId : Uuid) : List Tag :=
  (db.tagAssignments.rows.filter fun a => a.taskId = taskId).filterMap fun a => db.tags.get? a.tagId

def taskSummary (db : GroupDb) (board : GroupBoard) (task : Task) : BoardGroupTaskSummary :=
  { id := task.id, boardId := board.id, boardName := board.name, title := task.title, status := task.status
    priority := task.priority, assignedAgentId := task.assignedAgentId
    assignee := (task.assignedAgentId.bind db.agents.get?).map (·.name)
    dueAt := task.dueAt, inProgressAt := task.inProgressAt, tags := taskTags db task.id
    createdAt := task.createdAt, updatedAt := task.updatedAt }

/-- `_task_summaries_by_board`, for one board: the first tasks, up to the limit. -/
def taskSummaries (db : GroupDb) (tasks : List Task) (perBoardTaskLimit : Int) (board : GroupBoard) :
    List BoardGroupTaskSummary :=
  ((tasks.filter fun t => t.boardId = some board.id).take perBoardTaskLimit.toNat).map (taskSummary db board)

structure SnapshotQuery where
  includeDone : Bool := false
  perBoardTaskLimit : Int := 5

def buildGroupSnapshot (nameLe : String → String → Bool) (db : GroupDb) (group : BoardGroup)
    (excludeBoardId : Option Uuid) (query : SnapshotQuery) : BoardGroupSnapshot :=
  let boards := boardsForGroup nameLe db group.id excludeBoardId
  let tasks := orderedTasksForBoards db (boards.map (·.id)) query.includeDone
  { group := some group
    boards := boards.map fun board =>
      { board, taskCounts := taskCounts db board.id, tasks := taskSummaries db tasks query.perBoardTaskLimit board } }

def buildBoardGroupSnapshot (nameLe : String → String → Bool) (db : GroupDb) (board : GroupBoard) (includeSelf : Bool)
    (query : SnapshotQuery) : BoardGroupSnapshot :=
  match board.boardGroupId.bind db.groups.get? with
  | none => { group := none, boards := [] }
  | some group => buildGroupSnapshot nameLe db group (if includeSelf then none else some board.id) query

/-! ## The endpoints -/

def requireGroupAccess (db : GroupDb) (groupId : Uuid) (member : OrganizationMember) (write : Bool) :
    Except Failure BoardGroup := do
  let group ← orFail (db.groups.get? groupId) (.status 404)
  require (group.organizationId = member.organizationId) (.status 403)
  if seesAllBoards member write then return group
  else
    let boardIds := (db.boards.rows.filter fun b => b.boardGroupId = some groupId).map (·.id)
    if boardIds = [] then
      require (isOrgAdmin member) (.status 403)
      return group
    else
      require (boardIds.any (· ∈ listAccessibleBoardIds db.access member write)) (.status 403)
      return group

/-- `get_board_group_snapshot` of the groups, for a member. -/
def getGroupSnapshot (nameLe : String → String → Bool) (db : GroupDb) (member : OrganizationMember) (groupId : Uuid)
    (query : SnapshotQuery) : Except Failure BoardGroupSnapshot := do
  let group ← requireGroupAccess db groupId member false
  require (0 ≤ query.perBoardTaskLimit) (.status 422)
  let snapshot := buildGroupSnapshot nameLe db group none query
  if memberAllBoardsRead member then return snapshot
  else
    let allowedIds := listAccessibleBoardIds db.access member false
    return { snapshot with boards := snapshot.boards.filter fun item => item.board.id ∈ allowedIds }

/-- `get_board_group_snapshot` of the boards, for an actor who may read the board. -/
def getBoardGroupSnapshot (nameLe : String → String → Bool) (db : GroupDb) (actor : ActorContext) (boardId : Uuid)
    (includeSelf : Bool) (query : SnapshotQuery) : Except Failure BoardGroupSnapshot := do
  require (0 ≤ query.perBoardTaskLimit ∧ query.perBoardTaskLimit ≤ 100) (.status 422)
  let board ← orFail (db.boards.get? boardId) (.status 404)
  match actor with
  | .agent agent => require (boardMismatch agent board.id = false) (.status 403)
  | .user userId => requireBoardAccess db.access userId board.toBoard false
  return buildBoardGroupSnapshot nameLe db board includeSelf query

/-! ## Agreement -/

/-- Both ways of asking show the same boards, and only boards the member may read. -/
def SnapshotsAgree (nameLe : String → String → Bool) (db : GroupDb) (member : OrganizationMember) (board : GroupBoard)
    (groupId : Uuid) (query : SnapshotQuery) : Prop :=
  ∃ byGroup byBoard, getGroupSnapshot nameLe db member groupId query = .ok byGroup ∧
    getBoardGroupSnapshot nameLe db (.user member.userId) board.id true query = .ok byBoard ∧
    (∀ boardId, boardId ∈ byGroup.boardIds ↔ boardId ∈ byBoard.boardIds) ∧
    ∀ item ∈ byGroup.boards ++ byBoard.boards, hasBoardAccess db.access member item.board.toBoard false = true

/-- The group is one of the member's organization, and the member may read every board of it. -/
def ReadsWholeGroup (db : GroupDb) (member : OrganizationMember) (groupId : Uuid) : Prop :=
  (db.groups.get? groupId).any (fun group => group.organizationId = member.organizationId) = true ∧
    ∀ board ∈ db.boards.rows, board.boardGroupId = some groupId →
      hasBoardAccess db.access member board.toBoard false = true

instance (db : GroupDb) (member : OrganizationMember) (groupId : Uuid) :
    Decidable (ReadsWholeGroup db member groupId) := inferInstanceAs (Decidable (_ ∧ _))

section Agreement
variable {nameLe : String → String → Bool} {db : GroupDb} {member : OrganizationMember} {board : GroupBoard}
  {group : BoardGroup} {groupId : Uuid} {query : SnapshotQuery}

theorem mem_boardsForGroup {excludeBoardId : Option Uuid} :
    board ∈ boardsForGroup nameLe db groupId excludeBoardId ↔
      board ∈ db.boards ∧ board.boardGroupId = some groupId ∧ excludeBoardId ≠ some board.id := by
  rw [boardsForGroup, List.mem_mergeSort, List.mem_filter, decide_eq_true_iff, Table.mem_def]

theorem mem_buildGroupSnapshot {excludeBoardId : Option Uuid} :
    (∃ item ∈ (buildGroupSnapshot nameLe db group excludeBoardId query).boards, item.board = board) ↔
      board ∈ boardsForGroup nameLe db group.id excludeBoardId := by
  simp only [buildGroupSnapshot, List.mem_map, exists_exists_and_eq_and, exists_eq_right]

theorem mem_access_boards (hboard : board ∈ db.boards) : board.toBoard ∈ db.access.boards :=
  List.mem_map.mpr ⟨board, hboard, rfl⟩

theorem organizationId_of_hasBoardAccess {db : Db} {board : Board} {write : Bool}
    (h : hasBoardAccess db member board write = true) : board.organizationId = member.organizationId := by
  by_contra hne
  rw [hasBoardAccess, if_pos (Ne.symm hne)] at h
  cases h

theorem mem_listAccessible (hboard : board ∈ db.boards)
    (h : hasBoardAccess db.access member board.toBoard false = true) :
    board.id ∈ listAccessibleBoardIds db.access member false := by
  have horg := organizationId_of_hasBoardAccess h
  unfold listAccessibleBoardIds
  split
  · exact List.mem_map_of_mem (List.mem_filter.mpr ⟨mem_access_boards hboard, decide_eq_true horg⟩)
  · exact ((hasBoardAccess_iff horg).mp h).resolve_left ‹_›

theorem requireGroupAccess_eq_ok {write : Bool} (h : requireGroupAccess db groupId member write = .ok group) :
    db.groups.get? groupId = some group ∧ group.organizationId = member.organizationId := by
  obtain ⟨found, hfound, h⟩ := bind_eq_ok.mp h
  obtain ⟨_, horganization, h⟩ := bind_eq_ok.mp h
  rw [orFail_eq_ok] at hfound
  rw [require_eq_ok] at horganization
  have hsame : found = group := by
    split at h
    · exact pure_eq_ok.mp h
    · dsimp only at h
      split at h
      · obtain ⟨_, -, h⟩ := bind_eq_ok.mp h
        exact pure_eq_ok.mp h
      · obtain ⟨_, -, h⟩ := bind_eq_ok.mp h
        exact pure_eq_ok.mp h
  subst hsame
  exact ⟨hfound, horganization⟩

theorem requireGroupAccess_of_board (hfound : db.groups.get? groupId = some group)
    (horganization : group.organizationId = member.organizationId) (hboard : board ∈ db.boards)
    (hgroup : board.boardGroupId = some groupId) (hread : hasBoardAccess db.access member board.toBoard false = true) :
    requireGroupAccess db groupId member false = .ok group := by
  have hmem : board.id ∈ (db.boards.rows.filter fun b => b.boardGroupId = some groupId).map (·.id) :=
    List.mem_map_of_mem (List.mem_filter.mpr ⟨hboard, decide_eq_true hgroup⟩)
  have hany : ((db.boards.rows.filter fun b => b.boardGroupId = some groupId).map (·.id)).any
      (· ∈ listAccessibleBoardIds db.access member false) = true :=
    List.any_eq_true.mpr ⟨board.id, hmem, decide_eq_true (mem_listAccessible hboard hread)⟩
  refine bind_eq_ok.mpr ⟨group, orFail_eq_ok.mpr hfound, bind_eq_ok.mpr ⟨(), require_eq_ok.mpr horganization, ?_⟩⟩
  split
  · rfl
  · dsimp only
    rw [if_neg (List.ne_nil_of_mem hmem)]
    exact bind_eq_ok.mpr ⟨(), require_eq_ok.mpr hany, rfl⟩

theorem getGroupSnapshot_eq_ok {snapshot : BoardGroupSnapshot}
    (h : getGroupSnapshot nameLe db member groupId query = .ok snapshot) :
    ∃ group, db.groups.get? groupId = some group ∧ group.organizationId = member.organizationId := by
  obtain ⟨group, hgroup, -⟩ := bind_eq_ok.mp h
  exact ⟨group, requireGroupAccess_eq_ok hgroup⟩

theorem getBoardGroupSnapshot_eq_ok {userId : Uuid} {snapshot : BoardGroupSnapshot}
    (hboard : db.boards.get? board.id = some board) (hgroup : board.boardGroupId = some groupId)
    (hfound : db.groups.get? groupId = some group)
    (h : getBoardGroupSnapshot nameLe db (.user userId) board.id true query = .ok snapshot) :
    snapshot = buildGroupSnapshot nameLe db group none query := by
  obtain ⟨_, -, h⟩ := bind_eq_ok.mp h
  obtain ⟨found, hget, h⟩ := bind_eq_ok.mp h
  rw [orFail_eq_ok, hboard] at hget
  obtain rfl := Option.some.inj hget
  dsimp only at h
  obtain ⟨_, -, h⟩ := bind_eq_ok.mp h
  rw [← pure_eq_ok.mp h, buildBoardGroupSnapshot, hgroup, Option.bind_some, hfound]
  rfl

theorem readsWholeGroup_of_agree (hboard : db.boards.get? board.id = some board)
    (hgroup : board.boardGroupId = some groupId) (h : SnapshotsAgree nameLe db member board groupId query) :
    ReadsWholeGroup db member groupId := by
  obtain ⟨byGroup, byBoard, hbyGroup, hbyBoard, -, hreads⟩ := h
  obtain ⟨group, hfound, horganization⟩ := getGroupSnapshot_eq_ok hbyGroup
  obtain rfl : group.id = groupId := Table.key_of_get? hfound
  refine ⟨by rw [hfound]; exact decide_eq_true horganization, fun other hother honGroup => ?_⟩
  have hmem : other ∈ boardsForGroup nameLe db group.id none := mem_boardsForGroup.mpr ⟨hother, honGroup, nofun⟩
  obtain ⟨item, hitem, rfl⟩ : ∃ item ∈ (buildGroupSnapshot nameLe db group none query).boards, item.board = other :=
    mem_buildGroupSnapshot.mpr hmem
  rw [getBoardGroupSnapshot_eq_ok hboard hgroup hfound hbyBoard] at hreads
  exact hreads item (List.mem_append_right _ hitem)

/-- **The two snapshots agree**, on boards the member may read, when and only when the member may read every board of
the group. -/
theorem snapshotsAgree_iff
    (hmember : getMember db.access member.userId member.organizationId = some member)
    (hboard : db.boards.get? board.id = some board) (hgroup : board.boardGroupId = some groupId)
    (hread : hasBoardAccess db.access member board.toBoard false = true)
    (hlimit : 0 ≤ query.perBoardTaskLimit ∧ query.perBoardTaskLimit ≤ 100) :
    SnapshotsAgree nameLe db member board groupId query ↔ ReadsWholeGroup db member groupId := by
  refine ⟨readsWholeGroup_of_agree hboard hgroup, fun hwhole => ?_⟩
  obtain ⟨hgroups, hreads⟩ := hwhole
  obtain ⟨group, hfound, horganization⟩ : ∃ group, db.groups.get? groupId = some group ∧
      group.organizationId = member.organizationId := by
    simpa only [Option.any_eq_true, decide_eq_true_eq] using hgroups
  obtain rfl : group.id = groupId := Table.key_of_get? hfound
  have hshown : ∀ item ∈ (buildGroupSnapshot nameLe db group none query).boards,
      item.board ∈ db.boards ∧ hasBoardAccess db.access member item.board.toBoard false = true := by
    intro item hitem
    obtain ⟨hmem, hon, -⟩ := mem_boardsForGroup.mp (mem_buildGroupSnapshot.mp ⟨item, hitem, rfl⟩)
    exact ⟨hmem, hreads item.board hmem hon⟩
  have hbyGroup : getGroupSnapshot nameLe db member group.id query =
      .ok (buildGroupSnapshot nameLe db group none query) := by
    have hkept : ((buildGroupSnapshot nameLe db group none query).boards.filter fun item =>
        item.board.id ∈ listAccessibleBoardIds db.access member false) =
          (buildGroupSnapshot nameLe db group none query).boards :=
      List.filter_eq_self.mpr fun item hitem =>
        decide_eq_true (mem_listAccessible (hshown item hitem).1 (hshown item hitem).2)
    have haccess := requireGroupAccess_of_board hfound horganization (Table.mem_of_get? hboard) hgroup hread
    refine bind_eq_ok.mpr ⟨group, haccess, bind_eq_ok.mpr ⟨(), require_eq_ok.mpr hlimit.1, ?_⟩⟩
    dsimp only
    split
    · rfl
    · rw [hkept]
      rfl
  have hbyBoard : getBoardGroupSnapshot nameLe db (.user member.userId) board.id true query =
      .ok (buildGroupSnapshot nameLe db group none query) := by
    have haccess : requireBoardAccess db.access member.userId board.toBoard false = .ok () := by
      rw [requireBoardAccess, organizationId_of_hasBoardAccess hread]
      exact bind_eq_ok.mpr ⟨member, orFail_eq_ok.mpr hmember, require_eq_ok.mpr hread⟩
    have hbuilt : buildBoardGroupSnapshot nameLe db board true query =
        buildGroupSnapshot nameLe db group none query := by
      rw [buildBoardGroupSnapshot, hgroup, Option.bind_some, hfound]
      rfl
    refine bind_eq_ok.mpr ⟨(), require_eq_ok.mpr hlimit, bind_eq_ok.mpr ⟨board, orFail_eq_ok.mpr hboard, ?_⟩⟩
    dsimp only
    rw [haccess, hbuilt]
    rfl
  refine ⟨_, _, hbyGroup, hbyBoard, fun boardId => Iff.rfl, fun item hitem => ?_⟩
  exact (List.mem_append.mp hitem).elim (fun h => (hshown item h).2) fun h => (hshown item h).2

end Agreement

namespace Sample

def grouped (rows : Table OrganizationBoardAccess) : GroupDb where
  members := ⟨[reader], Table.nodup_one reader⟩
  boardAccess := rows
  groups := ⟨[{ id := 1, organizationId := 1, name := "Group" }], by decide⟩
  boards := ⟨[{ id := 1, organizationId := 1, name := "First", boardGroupId := some 1 },
    { id := 2, organizationId := 1, name := "Second", boardGroupId := some 1 }], by decide⟩

def groupedBoard : GroupBoard := { id := 1, organizationId := 1, name := "First", boardGroupId := some 1 }

def firstRow : Table OrganizationBoardAccess :=
  ⟨[{ organizationMemberId := 2, boardId := 1, canRead := true, canWrite := false }], List.nodup_singleton _⟩

def bothRows : Table OrganizationBoardAccess :=
  ⟨[{ organizationMemberId := 2, boardId := 1, canRead := true, canWrite := false },
    { organizationMemberId := 2, boardId := 2, canRead := true, canWrite := false }], by decide⟩

end Sample

theorem snapshotsAgree_both :
    SnapshotsAgree (fun _ _ => true) (Sample.grouped Sample.bothRows) Sample.reader Sample.groupedBoard 1 {} :=
  (snapshotsAgree_iff rfl rfl rfl (by decide) (by decide)).mpr (by decide)

/-- A member with a row for one board of a group is shown the other one. -/
theorem not_snapshotsAgree :
    ¬ ∀ (nameLe : String → String → Bool) (db : GroupDb) (member : OrganizationMember) (board : GroupBoard)
      (groupId : Uuid) (query : SnapshotQuery), getMember db.access member.userId member.organizationId = some member →
      db.boards.get? board.id = some board → board.boardGroupId = some groupId →
      hasBoardAccess db.access member board.toBoard false = true →
      0 ≤ query.perBoardTaskLimit ∧ query.perBoardTaskLimit ≤ 100 →
      SnapshotsAgree nameLe db member board groupId query := by
  intro h
  have hagree := h (fun _ _ => true) (Sample.grouped Sample.firstRow) Sample.reader Sample.groupedBoard 1 {}
    rfl rfl rfl (by decide) (by decide)
  exact absurd (readsWholeGroup_of_agree rfl rfl hagree) (by decide)

end SiloForge
