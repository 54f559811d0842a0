import SiloForge.Activity.Log
import SiloForge.Lib.Machine

/-!
# The streams of board memory

The memory of a board and that of a group of boards are streamed alike: a poll reads the entries that are not older than
the latest one emitted and emits them all, since no ids are kept.

* `fetchMemoryEvents`, `memoryStreamStep` : inserted entries and the polls of one stream, in any order;
* `EachOnce` : what the latest poll could read was emitted, each entry once;
* `FirstFind` : no poll comes after one that found an entry;
* `eachOnce_iff` : a run emits each entry once exactly when its polls are such.
-/

namespace SiloForge

open Lib

/-! ## Entries -/

structure MemoryColumns (ρ : Type) where
  owner : ρ → Uuid
  content : ρ → String
  isChat : ρ → Bool
  createdAt : ρ → Time

def BoardMemory.columns : MemoryColumns BoardMemory where
  owner := BoardMemory.boardId
  content := BoardMemory.content
  isChat := BoardMemory.isChat
  createdAt := BoardMemory.createdAt

def BoardGroupMemory.columns : MemoryColumns BoardGroupMemory where
  owner := BoardGroupMemory.boardGroupId
  content := BoardGroupMemory.content
  isChat := BoardGroupMemory.isChat
  createdAt := BoardGroupMemory.createdAt

/-- `trim(text)` of the database, which takes blanks away and no other white space. -/
def sqlTrim (text : String) : List Char := (text.toList.dropWhile (· = ' ')).rdropWhile (· = ' ')

structure MemoryQuery where
  owner : Uuid
  isChat : Option Bool := none
  since : Time

variable {ρ : Type} [Keyed ρ Uuid]

def MemoryQuery.matches (query : MemoryQuery) (columns : MemoryColumns ρ) (memory : ρ) : Bool :=
  columns.owner memory = query.owner && 0 < (sqlTrim (columns.content memory)).length &&
    query.isChat.all fun isChat => columns.isChat memory = isChat

/-- The order of the answer; the database may order rows of one time as it likes. -/
def memoriesLe (columns : MemoryColumns ρ) (rank : Uuid → Nat) (a b : ρ) : Bool :=
  columns.createdAt a < columns.createdAt b ∨
    (columns.createdAt a = columns.createdAt b ∧ rank (key a) ≤ rank (key b))

def fetchMemoryEvents (columns : MemoryColumns ρ) (rank : Uuid → Nat) (query : MemoryQuery) (memories : Table ρ)
    (since : Time) : List ρ :=
  (memories.rows.filter fun m => query.matches columns m && since ≤ columns.createdAt m).mergeSort
    (memoriesLe columns rank)

/-- What a stream is asked for: the entries that match, from its start on. -/
def MemoryQuery.wants (query : MemoryQuery) (columns : MemoryColumns ρ) (memory : ρ) : Bool :=
  query.matches columns memory && query.since ≤ columns.createdAt memory

/-! ## Insertions and polls -/

/-- The entries, those the latest poll found in the table, and the stream. -/
structure MemoryStreamState (ρ : Type) [Keyed ρ Uuid] where
  memories : Table ρ := ∅
  polled : Table ρ := ∅
  stream : Cursor ρ Time

/-- The event generator when it starts. -/
def MemoryStreamState.opened (memories : Table ρ) (query : MemoryQuery) : MemoryStreamState ρ where
  memories := memories
  stream := ⟨query.since, []⟩

inductive MemoryStreamAction (ρ : Type) where
  | insert (memory : ρ)
  | poll (rank : Uuid → Nat)

def memoryStreamStep (columns : MemoryColumns ρ) (query : MemoryQuery) (s : MemoryStreamState ρ) :
    MemoryStreamAction ρ → MemoryStreamState ρ
  | .insert memory => { s with memories := (s.memories.insert? memory).getD s.memories }
  | .poll rank =>
    { s with
      polled := s.memories
      stream := s.stream.takeAll columns.createdAt (fetchMemoryEvents columns rank query s.memories s.stream.lastSeen) }

def memoryStreamMachine (columns : MemoryColumns ρ) (query : MemoryQuery) :
    Machine (MemoryStreamState ρ) (MemoryStreamAction ρ) where
  commits s a := [memoryStreamStep columns query s a]

def streamBoardMemory : MemoryQuery → Machine (MemoryStreamState BoardMemory) (MemoryStreamAction BoardMemory) :=
  memoryStreamMachine BoardMemory.columns

def streamBoardGroupMemory :
    MemoryQuery → Machine (MemoryStreamState BoardGroupMemory) (MemoryStreamAction BoardGroupMemory) :=
  memoryStreamMachine BoardGroupMemory.columns

/-! ## Each entry once -/

/-- What the latest poll could read was emitted once, and nothing else. -/
structure EachOnce [DecidableEq ρ] (columns : MemoryColumns ρ) (query : MemoryQuery) (s : MemoryStreamState ρ) :
    Prop where
  complete : ∀ memory ∈ s.polled, query.wants columns memory → s.stream.out.count memory = 1
  once : ∀ memory, s.stream.out.count memory ≤ 1
  own : ∀ memory ∈ s.stream.out, memory ∈ s.memories ∧ query.wants columns memory

/-- No poll comes after one that found an entry. -/
def FirstFind (columns : MemoryColumns ρ) (query : MemoryQuery) (s : MemoryStreamState ρ) :
    MemoryStreamAction ρ → Prop
  | .insert _ => True
  | .poll _ => ∀ memory ∈ s.polled.rows, query.wants columns memory = false

instance (columns : MemoryColumns ρ) (query : MemoryQuery) (s : MemoryStreamState ρ) :
    ∀ a, Decidable (FirstFind columns query s a)
  | .insert _ => .isTrue trivial
  | .poll _ => inferInstanceAs (Decidable (∀ memory ∈ s.polled.rows, _))

/-- The stream has emitted what its latest poll found, and its cursor is that of an entry. -/
structure MemoryStreamInv (columns : MemoryColumns ρ) (query : MemoryQuery) (s : MemoryStreamState ρ) : Prop where
  since : ∀ memory ∈ s.polled, memory ∈ s.memories
  emitted : s.stream.out.Perm (s.polled.rows.filter (query.wants columns))
  lastSeen : s.stream.lastSeen = query.since ∨ ∃ memory ∈ s.stream.out, columns.createdAt memory = s.stream.lastSeen

section Runs
variable {columns : MemoryColumns ρ} {query : MemoryQuery} {s : MemoryStreamState ρ}

theorem memoryStreamInv_opened (memories : Table ρ) : MemoryStreamInv columns query (.opened memories query) where
  since _ h := absurd h (Table.not_mem_empty _)
  emitted := List.Perm.nil
  lastSeen := .inl rfl

theorem mem_insert (memory : ρ) : ∀ m ∈ s.memories, m ∈ (s.memories.insert? memory).getD s.memories := by
  intro m hm
  cases h : s.memories.insert? memory with
  | none => exact hm
  | some memories => exact (Table.mem_insert? h).mpr (.inl hm)

/-- At its start a stream is sent what it is asked for. -/
theorem fetch_since {rank : Uuid → Nat} (memories : Table ρ) :
    (fetchMemoryEvents columns rank query memories query.since).Perm (memories.rows.filter (query.wants columns)) :=
  List.mergeSort_perm _ _

theorem MemoryStreamInv.lastSeen_of_nil (h : MemoryStreamInv columns query s) (hnone : s.stream.out = []) :
    s.stream.lastSeen = query.since := by
  rcases h.lastSeen with hstart | ⟨memory, hmem, -⟩
  · exact hstart
  · rw [hnone] at hmem
    exact absurd hmem List.not_mem_nil

/-- **One step**: the first find is emitted whole. -/
theorem MemoryStreamInv.step (h : MemoryStreamInv columns query s) {a : MemoryStreamAction ρ}
    (hfirst : FirstFind columns query s a) : MemoryStreamInv columns query (memoryStreamStep columns query s a) := by
  cases a with
  | insert memory => exact ⟨fun m hm => mem_insert memory m (h.since m hm), h.emitted, h.lastSeen⟩
  | poll rank =>
    have hnone : s.stream.out = [] := by
      have hempty : s.polled.rows.filter (query.wants columns) = [] :=
        List.filter_eq_nil_iff.mpr fun m hm => by rw [hfirst m hm]; decide
      exact List.perm_nil.mp (hempty ▸ h.emitted)
    have hstart : s.stream.lastSeen = query.since := h.lastSeen_of_nil hnone
    refine ⟨fun _ hm => hm, ?_, ?_⟩
    · show (s.stream.takeAll _ _).out.Perm _
      rw [Cursor.takeAll_out, hnone, List.nil_append, hstart]
      exact fetch_since s.memories
    · show (s.stream.takeAll _ _).lastSeen = _ ∨ ∃ m ∈ (s.stream.takeAll _ _).out, _ = (s.stream.takeAll _ _).lastSeen
      rw [Cursor.takeAll_out, hnone, List.nil_append]
      exact Cursor.takeAll_lastSeen.imp (fun hkept => hkept.trans hstart) id

variable [DecidableEq ρ]

theorem MemoryStreamInv.eachOnce (h : MemoryStreamInv columns query s) : EachOnce columns query s := by
  have hnodup : s.stream.out.Nodup := by
    have hrows : s.polled.rows.Nodup := List.Nodup.of_map _ s.polled.nodup
    exact h.emitted.nodup_iff.mpr (hrows.filter _)
  refine ⟨fun m hm hwants => ?_, fun m => List.nodup_iff_count_le_one.mp hnodup m, fun m hm => ?_⟩
  · exact List.count_eq_one_of_mem hnodup (h.emitted.mem_iff.mpr (List.mem_filter.mpr ⟨hm, hwants⟩))
  · obtain ⟨hpolled, hwants⟩ := List.mem_filter.mp (h.emitted.mem_iff.mp hm)
    exact ⟨h.since m hpolled, hwants⟩

theorem MemoryStreamInv.again (h : MemoryStreamInv columns query s) {rank : Uuid → Nat} {found : ρ}
    (hfound : found ∈ s.polled) (hwants : query.wants columns found) :
    ¬ EachOnce columns query (memoryStreamStep columns query s (.poll rank)) := by
  intro honce
  have hout : found ∈ s.stream.out := h.emitted.mem_iff.mpr (List.mem_filter.mpr ⟨hfound, hwants⟩)
  -- an entry of the cursor's time, or one that is at the start still
  obtain ⟨m, hm, hlast⟩ : ∃ m ∈ s.stream.out, s.stream.lastSeen ≤ columns.createdAt m := by
    rcases h.lastSeen with hstart | ⟨m, hm, heq⟩
    · refine ⟨found, hout, ?_⟩
      rw [hstart]
      exact of_decide_eq_true (Bool.and_eq_true_iff.mp hwants).2
    · exact ⟨m, hm, heq.ge⟩
  obtain ⟨hpolled, hmwants⟩ := List.mem_filter.mp (h.emitted.mem_iff.mp hm)
  have hagain : m ∈ fetchMemoryEvents columns rank query s.memories s.stream.lastSeen := by
    unfold fetchMemoryEvents
    rw [List.mem_mergeSort, List.mem_filter, Bool.and_eq_true]
    exact ⟨h.since m hpolled, (Bool.and_eq_true_iff.mp hmwants).1, decide_eq_true hlast⟩
  have hcount : (s.stream.takeAll columns.createdAt
      (fetchMemoryEvents columns rank query s.memories s.stream.lastSeen)).out.count m ≤ 1 := honce.once m
  rw [Cursor.takeAll_out, List.count_append] at hcount
  have hbefore := List.count_pos_iff.mpr hm
  have hafter := List.count_pos_iff.mpr hagain
  omega

/-- A step emits each entry once exactly when it is no poll after one that found an entry. -/
theorem MemoryStreamInv.eachOnce_step_iff (h : MemoryStreamInv columns query s) {a : MemoryStreamAction ρ} :
    EachOnce columns query (memoryStreamStep columns query s a) ↔ FirstFind columns query s a := by
  constructor
  · intro honce
    cases a with
    | insert memory => trivial
    | poll rank =>
      intro m hm
      by_contra hwants
      exact h.again hm (Bool.not_eq_false _ ▸ hwants) honce
  · exact fun hfirst => (h.step hfirst).eachOnce

/-- **Over a run** of a stream, from any table. -/
theorem eachOnce_along_iff (memories : Table ρ) (actions : List (MemoryStreamAction ρ)) :
    (∀ s ∈ (memoryStreamMachine columns query).committed (.opened memories query) actions, EachOnce columns query s) ↔
      (memoryStreamMachine columns query).Along (FirstFind columns query) (.opened memories query) actions := by
  refine Machine.forall_committed_iff_along (MemoryStreamInv columns query) (fun s a hs hfirst t ht => ?_)
    (fun s a hs => ?_) (memoryStreamInv_opened memories)
  · obtain rfl := List.mem_singleton.mp ht
    exact hs.step hfirst
  · rw [← hs.eachOnce_step_iff]
    exact ⟨fun ht => ht _ (List.mem_singleton_self _), fun hstep t ht => List.mem_singleton.mp ht ▸ hstep⟩

end Runs

/-- **Both streams** emit each entry once in exactly the runs with no poll after one that found an entry. -/
theorem eachOnce_iff (query : MemoryQuery) :
    (∀ (memories : Table BoardMemory) (actions : List (MemoryStreamAction BoardMemory)),
      (∀ s ∈ (streamBoardMemory query).committed (.opened memories query) actions,
          EachOnce BoardMemory.columns query s) ↔
        (streamBoardMemory query).Along (FirstFind BoardMemory.columns query) (.opened memories query) actions) ∧
    ∀ (memories : Table BoardGroupMemory) (actions : List (MemoryStreamAction BoardGroupMemory)),
      (∀ s ∈ (streamBoardGroupMemory query).committed (.opened memories query) actions,
          EachOnce BoardGroupMemory.columns query s) ↔
        (streamBoardGroupMemory query).Along (FirstFind BoardGroupMemory.columns query) (.opened memories query)
          actions :=
  ⟨eachOnce_along_iff, eachOnce_along_iff⟩

def sharedNote : BoardMemory := { id := 1, boardId := 7, content := "Ship on Friday", createdAt := 20 }

/-- The latest entry is emitted again by the next poll, which finds nothing new. -/
theorem not_eachOnce : ¬ ∀ (query : MemoryQuery) (memories : Table BoardMemory)
    (actions : List (MemoryStreamAction BoardMemory)),
    ∀ s ∈ (streamBoardMemory query).committed (.opened memories query) actions,
      EachOnce BoardMemory.columns query s := by
  intro h
  have htwice : ∃ s ∈ (streamBoardMemory { owner := 7, since := 10 }).committed
      (.opened ∅ { owner := 7, since := 10 }) [.insert sharedNote, .poll fun _ => 0, .poll fun _ => 0],
      s.stream.out.count sharedNote = 2 := by
    decide +kernel
  obtain ⟨s, hs, hcount⟩ := htwice
  have honce := (h _ ∅ _ s hs).once sharedNote
  rw [hcount] at honce
  exact absurd honce (by decide)

end SiloForge
