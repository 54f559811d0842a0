import Mathlib.Data.List.Pairwise
import SiloForge.Core.Json
import SiloForge.Lib.Sorting

/-!
# The ranking of silos for dispatch

The silos that can run a task are ranked by their health and the work that they have. A score is made up for each: an
offset for its class, and ten for each of its runs.

* `buildSiloHealthModel`, `buildSiloDispatchCandidate` : the health of a silo, and how it fits a task;
* `dispatchCandidates` : the candidates for a task, in their order;
* `classes_iff`, `busy_sorted`, `anyOrder_iff` : the classes, the busy silos, and the order of the list;
* `respectsClasses_iff` : when the ranking respects the classes.
-/

namespace SiloForge.Silos

/-! ## Health -/

inductive SiloStatus where
  | draft | provisioning | active | paused | archived
  deriving DecidableEq

structure SiloSummary where
  slug : String
  name : String
  status : SiloStatus
  enableSymphony : Bool
  activeRunCount : Nat
  blockedRunCount : Nat
  failedRunCount : Nat
  deriving DecidableEq

inductive Tone where
  | success | warning | danger | neutral
  deriving DecidableEq

inductive SiloHealthKey where
  | healthy | busy | degraded | blocked | needsSetup
  deriving DecidableEq

structure SiloHealthModel where
  key : SiloHealthKey
  label : String
  tone : Tone
  guidance : String
  deriving DecidableEq

def buildSiloHealthModel (silo : SiloSummary) : SiloHealthModel :=
  if silo.status ≠ .active then
    { key := .needsSetup, label := "Needs setup", tone := .warning
      guidance := "This silo is not yet in a steady operating state. Finish setup before trusting it with more work." }
  else if silo.blockedRunCount > 0 then
    { key := .blocked, label := "Blocked", tone := .danger
      guidance := "Blocked runtime work is present. Clear the blockage before dispatching more load here." }
  else if silo.failedRunCount > 0 then
    { key := .degraded, label := "Degraded", tone := .warning
      guidance := "Recent runtime failures suggest this silo needs investigation before taking sensitive work." }
  else if silo.activeRunCount > 0 then
    { key := .busy, label := "Busy", tone := .neutral
      guidance := "This silo is healthy, but it is already carrying active runtime work." }
  else
    { key := .healthy, label := "Healthy", tone := .success
      guidance := "Healthy, idle, and ready to accept more runtime work." }

/-! ## Candidates -/

structure DispatchReason where
  label : String
  tone : Tone
  deriving DecidableEq

structure TaskDemand where
  status : String
  priority : String
  isBlocked : Option Bool := none
  approvalsPendingCount : Option Nat := none

structure SiloDispatchCandidate where
  silo : SiloSummary
  health : SiloHealthModel
  readinessLabel : String
  tone : Tone
  guidance : String
  reasons : List DispatchReason
  score : Nat
  deriving DecidableEq

def TaskDemand.needsUrgentAttention (task : TaskDemand) : Bool :=
  task.approvalsPendingCount.getD 0 > 0 || task.isBlocked.getD false || task.priority = "high"

def readyReasons (silo : SiloSummary) (isBusy : Bool) (task : Option TaskDemand) : List DispatchReason :=
  let given (holds : Bool) (label : String) (tone : Tone) : List DispatchReason := if holds then [{ label, tone }] else []
  given silo.enableSymphony "Symphony enabled" .success ++
    given (silo.status = .active) "Healthy runtime" .success ++
    given (!isBusy) "Idle capacity" .success ++
    given (task.any fun t => t.priority = "high") "Fits urgent work" .success ++
    given (task.any fun t => t.approvalsPendingCount.getD 0 > 0) "Fast approval follow-up" .success ++
    given (task.any fun t => t.status = "in_progress" || t.status = "review") "Good for active follow-up" .neutral

def buildSiloDispatchCandidate (silo : SiloSummary) (task : Option TaskDemand) : SiloDispatchCandidate :=
  let health := buildSiloHealthModel silo
  let hasPressure := health.key = .blocked ∨ health.key = .degraded
  let isBusy := health.key = .busy
  let taskNeedsUrgentAttention := task.any TaskDemand.needsUrgentAttention
  if hasPressure then
    { silo, health, readinessLabel := "Needs attention", tone := .danger, guidance := health.guidance
      reasons :=
        (if health.key = .blocked then ⟨"Blocked runs present", .danger⟩ else ⟨"Recent failures present", .warning⟩) ::
          if taskNeedsUrgentAttention then [⟨"Poor fit for urgent follow-up", .warning⟩] else []
      score := 300 + silo.blockedRunCount * 10 + silo.failedRunCount * 10 }
  else if silo.status ≠ .active then
    { silo, health, tone := .warning, guidance := health.guidance
      readinessLabel := if silo.status = .provisioning then "Applying" else "Needs setup"
      reasons :=
        ⟨if silo.status = .provisioning then "Runtime still applying" else "Needs setup first", .warning⟩ ::
          if taskNeedsUrgentAttention then [⟨"Weak fit for urgent work", .warning⟩] else []
      score := 200 }
  else if isBusy then
    { silo, health, readinessLabel := "Available but busy", tone := if taskNeedsUrgentAttention then .warning else .neutral
      guidance :=
        if taskNeedsUrgentAttention then
          "This silo can run work, but it already has active load and may not be ideal for urgent follow-up."
        else "This silo is healthy but already carrying active work."
      reasons :=
        [⟨"Healthy runtime", .success⟩, ⟨"Active load " ++ toString silo.activeRunCount, .warning⟩,
          if taskNeedsUrgentAttention then ⟨"Busy for urgent demand", .warning⟩ else ⟨"Still available", .neutral⟩]
      score := 100 + silo.activeRunCount * 10 }
  else
    { silo, health, readinessLabel := "Ready now", tone := .success
      guidance := "Healthy, idle, and ready to accept a new runtime run."
      reasons := readyReasons silo isBusy task
      score := 0 }

/-- `localeCompare`, a consistent comparison. -/
structure Collation where
  localeCompare : String → String → Ordering
  consistent : Std.TransCmp localeCompare

/-- The comparison of two candidates, by their scores, and by their names. -/
def compareCandidates (collation : Collation) (left right : SiloDispatchCandidate) : Ordering :=
  (compare left.score right.score).then (collation.localeCompare left.silo.name right.silo.name)

/-- The candidates of `buildTaskDispatchViewModel`. -/
def dispatchCandidates (collation : Collation) (silos : List SiloSummary) (task : Option TaskDemand) :
    List SiloDispatchCandidate :=
  let symphonyEnabledSilos := silos.filter SiloSummary.enableSymphony
  (symphonyEnabledSilos.map fun silo => buildSiloDispatchCandidate silo task).insertionSort fun left right =>
    (compareCandidates collation left right).isLE

/-! ## Load -/

/-- The classes in their order: healthy and idle, busy, not active, under pressure. -/
def dispatchClass (silo : SiloSummary) : Nat :=
  match (buildSiloHealthModel silo).key with
  | .healthy => 0
  | .busy => 1
  | .needsSetup => 2
  | .blocked | .degraded => 3

/-- The load of a silo: ten for each class, and one for each run that counts. -/
def load (silo : SiloSummary) : Nat :=
  match (buildSiloHealthModel silo).key with
  | .healthy => 0
  | .busy => 10 + silo.activeRunCount
  | .needsSetup => 20
  | .blocked | .degraded => 30 + silo.blockedRunCount + silo.failedRunCount

section Load
variable {silo : SiloSummary}

theorem health_cases (silo : SiloSummary) :
    silo.status ≠ .active ∧ (buildSiloHealthModel silo).key = .needsSetup ∨
    silo.status = .active ∧ 0 < silo.blockedRunCount ∧ (buildSiloHealthModel silo).key = .blocked ∨
    silo.status = .active ∧ 0 < silo.failedRunCount ∧ (buildSiloHealthModel silo).key = .degraded ∨
    silo.status = .active ∧ 0 < silo.activeRunCount ∧ (buildSiloHealthModel silo).key = .busy ∨
    silo.status = .active ∧ (buildSiloHealthModel silo).key = .healthy := by
  unfold buildSiloHealthModel
  by_cases hstatus : silo.status = .active
  · rw [if_neg (not_not_intro hstatus)]
    by_cases hblocked : silo.blockedRunCount > 0
    · rw [if_pos hblocked]
      exact .inr (.inl ⟨hstatus, hblocked, rfl⟩)
    rw [if_neg hblocked]
    by_cases hfailed : silo.failedRunCount > 0
    · rw [if_pos hfailed]
      exact .inr (.inr (.inl ⟨hstatus, hfailed, rfl⟩))
    rw [if_neg hfailed]
    by_cases hactive : silo.activeRunCount > 0
    · rw [if_pos hactive]
      exact .inr (.inr (.inr (.inl ⟨hstatus, hactive, rfl⟩)))
    · rw [if_neg hactive]
      exact .inr (.inr (.inr (.inr ⟨hstatus, rfl⟩)))
  · rw [if_pos hstatus]
    exact .inl ⟨hstatus, rfl⟩

@[simp] theorem buildSiloDispatchCandidate_silo (silo : SiloSummary) (task : Option TaskDemand) :
    (buildSiloDispatchCandidate silo task).silo = silo := by
  unfold buildSiloDispatchCandidate
  dsimp only
  split
  · rfl
  split
  · rfl
  split <;> rfl

/-- **The score of a candidate** is ten times its load. -/
theorem score_eq (silo : SiloSummary) (task : Option TaskDemand) :
    (buildSiloDispatchCandidate silo task).score = 10 * load silo := by
  unfold buildSiloDispatchCandidate load
  dsimp only
  rcases health_cases silo with
    ⟨hstatus, hkey⟩ | ⟨hstatus, -, hkey⟩ | ⟨hstatus, -, hkey⟩ | ⟨hstatus, -, hkey⟩ | ⟨hstatus, hkey⟩
  · rw [hkey, if_neg (by decide), if_pos hstatus]
    rfl
  · rw [hkey, if_pos (by decide)]
    dsimp only
    omega
  · rw [hkey, if_pos (by decide)]
    dsimp only
    omega
  · rw [hkey, if_neg (by decide), if_neg (not_not_intro hstatus), if_pos rfl]
    dsimp only
    omega
  · rw [hkey, if_neg (by decide), if_neg (not_not_intro hstatus), if_neg (by decide)]
    rfl

end Load

/-! ## The order -/

section Order
variable {collation : Collation} {x y z : SiloSummary} {task : Option TaskDemand}

/-- A silo is ahead of another one: it has less load, or as much and an earlier name. -/
def Ahead (collation : Collation) (x y : SiloSummary) : Prop :=
  load x < load y ∨ load x = load y ∧ collation.localeCompare x.name y.name = .lt

/-- Two silos are level: neither their load nor their names tell them apart. -/
def Level (collation : Collation) (x y : SiloSummary) : Prop :=
  load x = load y ∧ collation.localeCompare x.name y.name = .eq

theorem Level.symm (h : Level collation x y) : Level collation y x := by
  have := collation.consistent
  exact ⟨h.1.symm, Std.OrientedCmp.eq_symm h.2⟩

theorem not_level_of_ahead (h : Ahead collation x y) : ¬Level collation x y := by
  rintro ⟨hload, hname⟩
  rcases h with hlt | ⟨-, hlt⟩
  · exact absurd hload hlt.ne
  · rw [hname] at hlt
    cases hlt

theorem not_ahead_of_ahead (h : Ahead collation x y) : ¬Ahead collation y x := by
  have := collation.consistent
  rintro (hlt | ⟨hload, hname⟩)
  · rcases h with hlt' | ⟨hload, -⟩
    · exact absurd hlt hlt'.asymm
    · exact absurd hload hlt.ne'
  · rcases h with hlt' | ⟨-, hname'⟩
    · exact absurd hload hlt'.ne'
    · exact Std.OrientedCmp.not_lt_of_lt hname hname'

/-- **The comparison of two candidates** is by load and by name. -/
theorem compareCandidates_isLE_iff :
    (compareCandidates collation (buildSiloDispatchCandidate x task) (buildSiloDispatchCandidate y task)).isLE = true ↔
      Ahead collation x y ∨ Level collation x y := by
  unfold compareCandidates Ahead Level
  rw [score_eq, score_eq, buildSiloDispatchCandidate_silo, buildSiloDispatchCandidate_silo]
  rcases Nat.lt_trichotomy (load x) (load y) with hlt | heq | hgt
  · rw [Nat.compare_eq_lt.mpr (by omega)]
    exact iff_of_true rfl (.inl (.inl hlt))
  · rw [heq, Nat.compare_eq_eq.mpr rfl]
    cases hname : collation.localeCompare x.name y.name with
    | lt => exact iff_of_true rfl (.inl (.inr ⟨rfl, rfl⟩))
    | eq => exact iff_of_true rfl (.inr ⟨rfl, rfl⟩)
    | gt => exact iff_of_false Bool.noConfusion (by simp)
  · rw [Nat.compare_eq_gt.mpr (by omega)]
    refine iff_of_false Bool.noConfusion ?_
    omega

theorem ahead_of_not_isLE (h : ¬(Ahead collation x y ∨ Level collation x y)) : Ahead collation y x := by
  have := collation.consistent
  unfold Ahead Level at h
  unfold Ahead
  rcases Nat.lt_trichotomy (load x) (load y) with hlt | heq | hgt
  · exact absurd (.inl (.inl hlt)) h
  · refine .inr ⟨heq.symm, ?_⟩
    cases hname : collation.localeCompare x.name y.name with
    | lt => exact absurd (.inl (.inr ⟨heq, hname⟩)) h
    | eq => exact absurd (.inr ⟨heq, hname⟩) h
    | gt => exact Std.OrientedCmp.lt_of_gt hname
  · exact .inl hgt

instance (collation : Collation) : Std.TransCmp (compareCandidates collation) := by
  have := collation.consistent
  have hscore : Std.TransCmp fun left right : SiloDispatchCandidate => compare left.score right.score :=
    { eq_swap := Std.OrientedCmp.eq_swap, isLE_trans := Std.TransCmp.isLE_trans }
  have hname : Std.TransCmp fun left right : SiloDispatchCandidate =>
      collation.localeCompare left.silo.name right.silo.name :=
    { eq_swap := Std.OrientedCmp.eq_swap, isLE_trans := Std.TransCmp.isLE_trans }
  exact inferInstanceAs (Std.TransCmp (compareLex _ _))

instance (collation : Collation) : Std.Total fun left right : SiloDispatchCandidate =>
    (compareCandidates collation left right).isLE = true := by
  refine ⟨fun left right => ?_⟩
  cases h : compareCandidates collation left right with
  | lt => exact .inl rfl
  | eq => exact .inl rfl
  | gt => exact .inr (by rw [Std.OrientedCmp.lt_of_gt h]; rfl)

instance (collation : Collation) : IsTrans SiloDispatchCandidate fun left right =>
    (compareCandidates collation left right).isLE = true :=
  ⟨fun _ _ _ hxy hyz => Std.TransCmp.isLE_trans hxy hyz⟩

/-- **The candidates, two by two**, are the silos that can run the task, the one ahead first. -/
theorem pairwise_dispatchCandidates_iff {R : SiloSummary → SiloSummary → Prop} (silos : List SiloSummary) :
    (dispatchCandidates collation silos task).Pairwise (fun left right => R left.silo right.silo) ↔
      (silos.filter SiloSummary.enableSymphony).Pairwise fun x y =>
        (Ahead collation x y ∨ Level collation x y → R x y) ∧ (Ahead collation y x → R y x) := by
  unfold dispatchCandidates
  dsimp only
  rw [Lib.pairwise_insertionSort_iff, List.pairwise_map]
  refine List.Pairwise.iff fun x y => ?_
  rw [buildSiloDispatchCandidate_silo, buildSiloDispatchCandidate_silo]
  by_cases hle : Ahead collation x y ∨ Level collation x y
  · rw [if_pos (compareCandidates_isLE_iff.mpr hle)]
    refine ⟨fun h => ⟨fun _ => h, fun hyx => ?_⟩, fun h => h.1 hle⟩
    rcases hle with hxy | hlevel
    · exact absurd hyx (not_ahead_of_ahead hxy)
    · exact absurd hlevel.symm (not_level_of_ahead hyx)
  · rw [if_neg (mt compareCandidates_isLE_iff.mp hle)]
    exact ⟨fun h => ⟨fun hxy => absurd hxy hle, fun _ => h⟩, fun h => h.2 (ahead_of_not_isLE hle)⟩

end Order

/-! ## Classes -/

section Classes
variable {collation : Collation} {x y : SiloSummary} {task : Option TaskDemand}

/-- **The ranking respects the classes**: idle silos, then busy ones, those that are not active,
those under pressure; among busy silos the ones with fewer runs are first, and the order of the list
does not matter. -/
structure RespectsClasses (collation : Collation) (silos : List SiloSummary) (task : Option TaskDemand) : Prop where
  classes : (dispatchCandidates collation silos task).Pairwise fun left right =>
    dispatchClass left.silo ≤ dispatchClass right.silo
  busy : (dispatchCandidates collation silos task).Pairwise fun left right =>
    (buildSiloHealthModel left.silo).key = .busy → (buildSiloHealthModel right.silo).key = .busy →
      left.silo.activeRunCount ≤ right.silo.activeRunCount
  anyOrder : (silos.map (·.name)).Nodup → ∀ silos', silos'.Perm silos →
    dispatchCandidates collation silos' task = dispatchCandidates collation silos task

/-- The busy silos are ahead of the ones that are not active or under pressure, or level with them and before them. -/
def BusyAhead (collation : Collation) (silos : List SiloSummary) : Prop :=
  (silos.filter SiloSummary.enableSymphony).Pairwise fun x y =>
    (dispatchClass x = 1 → 1 < dispatchClass y → Ahead collation x y ∨ Level collation x y) ∧
      (dispatchClass y = 1 → 1 < dispatchClass x → Ahead collation y x)

/-- Silos with distinct names are not level. -/
def ToldApart (collation : Collation) (silos : List SiloSummary) : Prop :=
  (silos.map (·.name)).Nodup → (silos.filter SiloSummary.enableSymphony).Pairwise fun x y => ¬Level collation x y

theorem load_lt_of_class_lt (h : dispatchClass x < dispatchClass y) :
    load x < load y ∨ dispatchClass x = 1 ∧ 1 < dispatchClass y := by
  unfold dispatchClass at h ⊢
  unfold load
  rcases health_cases x with ⟨-, hx⟩ | ⟨-, hx0, hx⟩ | ⟨-, hx0, hx⟩ | ⟨-, hx0, hx⟩ | ⟨-, hx⟩ <;>
    rcases health_cases y with ⟨-, hy⟩ | ⟨-, hy0, hy⟩ | ⟨-, hy0, hy⟩ | ⟨-, hy0, hy⟩ | ⟨-, hy⟩ <;>
    rw [hx, hy] at h ⊢ <;> dsimp only at h ⊢ <;> omega

theorem not_isLE_of_ahead (h : Ahead collation y x) : ¬(Ahead collation x y ∨ Level collation x y) := by
  rintro (hxy | hlevel)
  · exact not_ahead_of_ahead h hxy
  · exact not_level_of_ahead h hlevel.symm

/-- **The classes are kept** exactly if the busy silos are ahead. -/
theorem classes_iff (silos : List SiloSummary) :
    (dispatchCandidates collation silos task).Pairwise (fun left right =>
      dispatchClass left.silo ≤ dispatchClass right.silo) ↔ BusyAhead collation silos := by
  rw [pairwise_dispatchCandidates_iff (R := fun x y => dispatchClass x ≤ dispatchClass y)]
  refine List.Pairwise.iff fun x y => ⟨fun h => ⟨fun hx hy => ?_, fun hy hx => ?_⟩, fun h => ⟨fun hle => ?_, fun hyx => ?_⟩⟩
  · by_contra hn
    have hclass := h.2 (ahead_of_not_isLE hn)
    omega
  · by_contra hn
    have hle : Ahead collation x y ∨ Level collation x y := by
      by_contra hle
      exact hn (ahead_of_not_isLE hle)
    have hclass := h.1 hle
    omega
  · by_contra hclass
    rcases load_lt_of_class_lt (Nat.lt_of_not_le hclass) with hload | ⟨hy, hx⟩
    · exact not_isLE_of_ahead (.inl hload) hle
    · exact not_isLE_of_ahead (h.2 hy hx) hle
  · by_contra hclass
    rcases load_lt_of_class_lt (Nat.lt_of_not_le hclass) with hload | ⟨hx, hy⟩
    · exact not_ahead_of_ahead hyx (.inl hload)
    · exact not_isLE_of_ahead hyx (h.1 hx hy)

theorem load_of_busy (h : (buildSiloHealthModel x).key = .busy) : load x = 10 + x.activeRunCount := by
  unfold load
  rw [h]

theorem busy_sorted (silos : List SiloSummary) :
    (dispatchCandidates collation silos task).Pairwise fun left right =>
      (buildSiloHealthModel left.silo).key = .busy → (buildSiloHealthModel right.silo).key = .busy →
        left.silo.activeRunCount ≤ right.silo.activeRunCount := by
  refine (pairwise_dispatchCandidates_iff (R := fun x y => (buildSiloHealthModel x).key = .busy →
    (buildSiloHealthModel y).key = .busy → x.activeRunCount ≤ y.activeRunCount) silos).mpr
      (List.pairwise_of_forall fun x y => ⟨fun hle hx hy => ?_, fun hyx hy hx => ?_⟩)
  · have hload : load x ≤ load y := by
      rcases hle with (hlt | ⟨heq, -⟩) | ⟨heq, -⟩
      · exact hlt.le
      · exact heq.le
      · exact heq.le
    rw [load_of_busy hx, load_of_busy hy] at hload
    omega
  · have hload : load y ≤ load x := by
      rcases hyx with hlt | ⟨heq, -⟩
      · exact hlt.le
      · exact heq.le
    rw [load_of_busy hx, load_of_busy hy] at hload
    omega

variable {silos : List SiloSummary}

theorem dispatchCandidates_eq_of_perm {silos' : List SiloSummary} (h : silos'.Perm silos)
    (hapart : (silos.filter SiloSummary.enableSymphony).Pairwise fun x y => ¬Level collation x y) :
    dispatchCandidates collation silos' task = dispatchCandidates collation silos task := by
  have hperm := (h.filter SiloSummary.enableSymphony).map fun silo => buildSiloDispatchCandidate silo task
  refine (Lib.insertionSort_eq_of_perm hperm.symm fun a ha b hb hab hba => ?_).symm
  obtain ⟨x, hx, rfl⟩ := List.mem_map.mp ha
  obtain ⟨y, hy, rfl⟩ := List.mem_map.mp hb
  by_contra hne
  have hxy : x ≠ y := fun he => hne (congrArg (buildSiloDispatchCandidate · task) he)
  have hsymm : Std.Symm fun x y => ¬Level collation x y := ⟨fun _ _ hnot hlevel => hnot hlevel.symm⟩
  have hnot := hapart.forall hx hy hxy
  rcases compareCandidates_isLE_iff.mp hab with hahead | hlevel
  · exact not_isLE_of_ahead hahead (compareCandidates_isLE_iff.mp hba)
  · exact hnot hlevel

variable (task) in
theorem sublist_dispatchCandidates (hlevel : Level collation x y)
    (h : [x, y].Sublist (silos.filter SiloSummary.enableSymphony)) :
    [buildSiloDispatchCandidate x task, buildSiloDispatchCandidate y task].Sublist
      (dispatchCandidates collation silos task) :=
  List.pair_sublist_insertionSort (compareCandidates_isLE_iff.mpr (.inr hlevel))
    (h.map fun silo => buildSiloDispatchCandidate silo task)

theorem nodup_dispatchCandidates (h : (silos.map (·.name)).Nodup) :
    (dispatchCandidates collation silos task).Nodup := by
  have hinjective : Function.Injective fun silo => buildSiloDispatchCandidate silo task := fun x y he => by
    have hsilo := congrArg SiloDispatchCandidate.silo he
    rwa [buildSiloDispatchCandidate_silo, buildSiloDispatchCandidate_silo] at hsilo
  have hnodup : ((silos.filter SiloSummary.enableSymphony).map fun silo => buildSiloDispatchCandidate silo task).Nodup :=
    ((List.Nodup.of_map _ h).filter _).map hinjective
  exact (List.perm_insertionSort _ _).nodup_iff.mpr hnodup

/-- **The order of the list does not matter** for silos with distinct names exactly if they are told apart. -/
theorem anyOrder_iff (silos : List SiloSummary) :
    ((silos.map (·.name)).Nodup → ∀ silos', silos'.Perm silos →
      dispatchCandidates collation silos' task = dispatchCandidates collation silos task) ↔ ToldApart collation silos := by
  refine forall_congr' fun hnames => ⟨fun h => ?_, fun hapart silos' hperm => dispatchCandidates_eq_of_perm hperm hapart⟩
  -- two level silos are the other way round when the list is
  refine List.pairwise_iff_forall_sublist.mpr fun {x y} hxy hlevel => ?_
  have hreverse := h silos.reverse (List.reverse_perm silos)
  have hyx : [y, x].Sublist (silos.reverse.filter SiloSummary.enableSymphony) := by
    rw [List.filter_reverse]
    exact List.reverse_sublist.mpr hxy
  have hback := sublist_dispatchCandidates task hlevel.symm hyx
  rw [hreverse] at hback
  exact Lib.not_sublist_swap (nodup_dispatchCandidates hnames) (sublist_dispatchCandidates task hlevel hxy) hback

end Classes

/-- **The ranking respects the classes** exactly if the busy silos are ahead of those of the later classes, and silos with
distinct names are told apart. -/
theorem respectsClasses_iff (collation : Collation) (silos : List SiloSummary) (task : Option TaskDemand) :
    RespectsClasses collation silos task ↔ BusyAhead collation silos ∧ ToldApart collation silos :=
  ⟨fun h => ⟨(classes_iff silos).mp h.classes, (anyOrder_iff silos).mp h.anyOrder⟩,
    fun h => ⟨(classes_iff silos).mpr h.1, busy_sorted silos, (anyOrder_iff silos).mpr h.2⟩⟩

namespace Sample

def letterOrder : Collation where
  localeCompare := compare
  consistent := inferInstance

/-- A silo with eleven runs, and one that is being set up. -/
def crewAndDraft : List SiloSummary :=
  [{ slug := "crew", name := "Crew", status := .active, enableSymphony := true, activeRunCount := 11, blockedRunCount := 0
     failedRunCount := 0 },
   { slug := "draft", name := "Draft", status := .provisioning, enableSymphony := true, activeRunCount := 0
     blockedRunCount := 0, failedRunCount := 0 }]

end Sample

/-- **Eleven runs** put a busy silo behind one that cannot run anything. -/
theorem not_respectsClasses_crewAndDraft : ¬RespectsClasses Sample.letterOrder Sample.crewAndDraft none := by
  intro h
  have hahead := (classes_iff _).mp h.classes
  have hpair := (List.pairwise_pair.mp hahead).1 rfl (by decide)
  rcases hpair with (hlt | ⟨heq, -⟩) | ⟨heq, -⟩
  · exact absurd hlt (by decide)
  · exact absurd heq (by decide)
  · exact absurd heq (by decide)

end SiloForge.Silos
