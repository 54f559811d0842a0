import SiloForge.Organizations.Access

/-!
# The boards of a member

Lists of boards are cut down to those a member may see or change, by a list of ids or by a predicate of the query.
Both ask for the member's flags and rows in a way of their own.

* `listAccessibleBoardIds` : the list of ids;
* `boardAccessFilter` : the predicate;
* `boardAccess_agrees` : both hold the boards of the member's organization that `hasBoardAccess` admits.
-/

namespace SiloForge

open Lib

def seesAllBoards (member : OrganizationMember) (write : Bool) : Bool :=
  (write && memberAllBoardsWrite member) || (!write && memberAllBoardsRead member)

/-- Whether a row is selected for the mode. -/
def OrganizationBoardAccess.selects (access : OrganizationBoardAccess) (write : Bool) : Bool :=
  if write then access.canWrite else access.canRead || access.canWrite

def accessBoardIds (db : Db) (member : OrganizationMember) (write : Bool) : List Uuid :=
  (db.boardAccess.rows.filter fun a => a.organizationMemberId = member.id ∧ a.selects write = true).map (·.boardId)

def listAccessibleBoardIds (db : Db) (member : OrganizationMember) (write : Bool) : List Uuid :=
  if seesAllBoards member write then
    (db.boards.rows.filter fun b => b.organizationId = member.organizationId).map (·.id)
  else accessBoardIds db member write

def boardAccessFilter (db : Db) (member : OrganizationMember) (write : Bool) (board : Board) : Bool :=
  if write && memberAllBoardsWrite member then board.organizationId = member.organizationId
  else if !write && memberAllBoardsRead member then board.organizationId = member.organizationId
  else board.id ∈ accessBoardIds db member write

/-! ## Agreement -/

variable {db : Db} {member : OrganizationMember} {board : Board} {write : Bool}

theorem mem_accessBoardIds : board.id ∈ accessBoardIds db member write ↔
    ∃ access, db.boardAccess.get? (member.id, board.id) = some access ∧ access.selects write = true := by
  unfold accessBoardIds
  rw [List.mem_map]
  constructor
  · rintro ⟨access, haccess, hboard⟩
    obtain ⟨hmem, hselected⟩ := List.mem_filter.mp haccess
    obtain ⟨hmember, hselects⟩ := of_decide_eq_true hselected
    exact ⟨access, Table.get?_eq_some.mpr ⟨hmem, Prod.ext hmember hboard⟩, hselects⟩
  · rintro ⟨access, hget, hselects⟩
    obtain ⟨hmem, hkey⟩ := Table.get?_eq_some.mp hget
    have hmember : access.organizationMemberId = member.id := congrArg Prod.fst hkey
    exact ⟨access, List.mem_filter.mpr ⟨hmem, decide_eq_true ⟨hmember, hselects⟩⟩, congrArg Prod.snd hkey⟩

theorem hasBoardAccess_iff (horg : board.organizationId = member.organizationId) :
    hasBoardAccess db member board write = true ↔
      seesAllBoards member write = true ∨ board.id ∈ accessBoardIds db member write := by
  rw [mem_accessBoardIds, hasBoardAccess, if_neg (not_not.mpr horg.symm), seesAllBoards, Bool.or_eq_true]
  by_cases hwrite : (write && memberAllBoardsWrite member) = true
  · simp only [hwrite, if_true, true_or]
  · by_cases hread : (!write && memberAllBoardsRead member) = true
    · simp only [hwrite, hread, if_true, Bool.false_eq_true, if_false, or_true, true_or]
    · simp only [hwrite, hread, Bool.false_eq_true, if_false, false_or]
      cases hget : db.boardAccess.get? (member.id, board.id) with
      | none => simp
      | some access => simp [OrganizationBoardAccess.selects]

/-- **The three deciders agree** on the boards of a member's organization. -/
theorem boardAccess_agrees (hboard : board ∈ db.boards) (horg : board.organizationId = member.organizationId) :
    (hasBoardAccess db member board write = true ↔ board.id ∈ listAccessibleBoardIds db member write) ∧
      (hasBoardAccess db member board write = true ↔ boardAccessFilter db member write board = true) := by
  rw [hasBoardAccess_iff horg]
  constructor
  · unfold listAccessibleBoardIds
    by_cases hall : seesAllBoards member write = true
    · rw [if_pos hall]
      have hmem : board.id ∈ (db.boards.rows.filter fun b => b.organizationId = member.organizationId).map (·.id) :=
        List.mem_map_of_mem (List.mem_filter.mpr ⟨hboard, decide_eq_true horg⟩)
      exact iff_of_true (.inl hall) hmem
    · rw [if_neg hall]
      exact or_iff_right hall
  · unfold boardAccessFilter seesAllBoards
    rw [Bool.or_eq_true]
    by_cases hwrite : (write && memberAllBoardsWrite member) = true
    · rw [if_pos hwrite]
      exact iff_of_true (.inl (.inl hwrite)) (decide_eq_true horg)
    · by_cases hread : (!write && memberAllBoardsRead member) = true
      · rw [if_neg hwrite, if_pos hread]
        exact iff_of_true (.inl (.inr hread)) (decide_eq_true horg)
      · rw [if_neg hwrite, if_neg hread, decide_eq_true_iff]
        exact or_iff_right (not_or.mpr ⟨hwrite, hread⟩)

namespace Sample

def reader : OrganizationMember := { id := 2, organizationId := 1, userId := 2 }

def readerBoard : Board := { id := 1, organizationId := 1 }

def readerDb : Db where
  boards := ⟨[readerBoard, { id := 2, organizationId := 1 }], by decide⟩
  members := ⟨[reader], by decide⟩
  boardAccess := ⟨[{ organizationMemberId := 2, boardId := 1, canRead := true, canWrite := false }], by decide⟩

end Sample

theorem boardAccess_agrees_reader :
    (hasBoardAccess Sample.readerDb Sample.reader Sample.readerBoard false = true ↔
        Sample.readerBoard.id ∈ listAccessibleBoardIds Sample.readerDb Sample.reader false) ∧
      (hasBoardAccess Sample.readerDb Sample.reader Sample.readerBoard false = true ↔
        boardAccessFilter Sample.readerDb Sample.reader false Sample.readerBoard = true) :=
  boardAccess_agrees (List.mem_cons_self ..) rfl

end SiloForge
