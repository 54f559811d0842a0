import Mathlib.Algebra.BigOperators.Ring.Finset
import SiloForge.Core.Json
import SiloForge.Lib.Calendar
import SiloForge.Lib.Marks

/-!
# The buckets of the dashboard

A series of the dashboard has a point for each hour, day, week or month of its range. The rows are put into buckets by the
database, with its own truncation of their times, and the points are made here.

* `bucketStart`, `nextBucket`, `buildBuckets` : the buckets of a range, `seriesFromMapping`, `queryThroughput` : a series;
* `IsBoundary`, `bucketStart_spec`, `nextBucket_spec` : where buckets begin, and what the two functions do;
* `lastBucket`, `exists_nextBucket`, `not_nextBucket_lastBucket` : the calendar comes to an end;
* `buildBuckets_partition` : the buckets partition the range.
-/

namespace SiloForge

open Lib.Calendar Lib.Marks

inductive DashboardBucketKey where
  | hour | day | week | month
  deriving DecidableEq

inductive DashboardRangeKey where
  | hours24 | days3 | days7 | days14 | month1 | months3 | months6 | year1
  deriving DecidableEq

/-- `RangeSpec`, from `start` to `stop`, with its duration in days. -/
structure RangeSpec where
  key : DashboardRangeKey
  start : DateTime
  stop : DateTime
  bucket : DashboardBucketKey
  duration : Nat

/-- What is raised for a date that there is not. -/
inductive CalendarError where
  | overflow
  | value
  deriving DecidableEq

def CalendarError.orOverflow {α : Type} (value : Option α) : Except CalendarError α :=
  match value with
  | some a => .ok a
  | none => .error .overflow

/-! ## Buckets -/

def bucketStart (value : DateTime) : DashboardBucketKey → Except CalendarError DateTime
  | .month => .ok { date := value.date.monthStart }
  | .week => (CalendarError.orOverflow (value.date.subDays value.date.weekday)).map fun date => { date }
  | .day => .ok { date := value.date }
  | .hour => .ok { date := value.date, clock := { hour := value.clock.hour } }

def nextBucket (cursor : DateTime) : DashboardBucketKey → Except CalendarError DateTime
  | .hour =>
    if h : cursor.clock.hour.val + 1 < 24 then .ok { cursor with clock := { cursor.clock with hour := ⟨_, h⟩ } }
    else (CalendarError.orOverflow cursor.date.tomorrow).map fun date => { date, clock := { cursor.clock with hour := 0 } }
  | .day => (CalendarError.orOverflow (cursor.date.addDays 1)).map fun date => { cursor with date }
  | .week => (CalendarError.orOverflow (cursor.date.addDays 7)).map fun date => { cursor with date }
  | .month =>
    let year := if cursor.date.month + 1 > 12 then cursor.date.year + 1 else cursor.date.year
    let month := if cursor.date.month + 1 > 12 then 1 else cursor.date.month + 1
    if h : IsDate year month 1 then .ok { cursor with date := ⟨year, month, 1, h⟩ } else .error .value

theorem CalendarError.map_orOverflow {α β : Type} {f : α → β} {value : Option α} {b : β}
    (h : (orOverflow value).map f = .ok b) : ∃ a, value = some a ∧ b = f a := by
  cases value with
  | none => cases h
  | some a => exact ⟨a, rfl, (Except.ok.inj h).symm⟩

section Next
variable {cursor next : DateTime}

theorem nextBucket_hour (h : nextBucket cursor .hour = .ok next) :
    next.hours = cursor.hours + 1 ∧
      next.clock = ⟨next.clock.hour, cursor.clock.minute, cursor.clock.second, cursor.clock.microsecond⟩ := by
  unfold nextBucket at h
  dsimp only at h
  split at h
  · obtain rfl := Except.ok.inj h
    exact ⟨rfl, rfl⟩
  · obtain ⟨date, hdate, rfl⟩ := CalendarError.map_orOverflow h
    refine ⟨?_, rfl⟩
    have hordinal := Date.toOrdinal_of_tomorrow hdate
    unfold DateTime.hours
    dsimp only
    rw [hordinal]
    omega

theorem nextBucket_day (h : nextBucket cursor .day = .ok next) :
    next.clock = cursor.clock ∧ next.date.toOrdinal = cursor.date.toOrdinal + 1 := by
  unfold nextBucket at h
  dsimp only at h
  obtain ⟨date, hdate, rfl⟩ := CalendarError.map_orOverflow h
  exact ⟨rfl, Date.toOrdinal_of_addDays hdate⟩

theorem nextBucket_week (h : nextBucket cursor .week = .ok next) :
    next.clock = cursor.clock ∧ next.date.toOrdinal = cursor.date.toOrdinal + 7 := by
  unfold nextBucket at h
  dsimp only at h
  obtain ⟨date, hdate, rfl⟩ := CalendarError.map_orOverflow h
  exact ⟨rfl, Date.toOrdinal_of_addDays hdate⟩

theorem nextBucket_month (h : nextBucket cursor .month = .ok next) : next.clock = cursor.clock ∧ next.date.day = 1 ∧
    (cursor.date.month = 12 ∧ next.date.year = cursor.date.year + 1 ∧ next.date.month = 1 ∨
      next.date.year = cursor.date.year ∧ next.date.month = cursor.date.month + 1) := by
  have hmonth := cursor.date.valid.2.1.2
  unfold nextBucket at h
  dsimp only at h
  split at h
  · split at h
    · obtain rfl := Except.ok.inj h
      exact ⟨rfl, rfl, .inl ⟨by omega, rfl, rfl⟩⟩
    · cases h
  · split at h
    · obtain rfl := Except.ok.inj h
      exact ⟨rfl, rfl, .inr ⟨rfl, rfl⟩⟩
    · cases h

theorem hours_lt_nextBucket {bucket : DashboardBucketKey} (h : nextBucket cursor bucket = .ok next) :
    cursor.hours < next.hours := by
  have hday : cursor.date.toOrdinal < next.date.toOrdinal → cursor.hours < next.hours := by
    intro hlt
    unfold DateTime.hours
    omega
  cases bucket with
  | hour =>
    rw [(nextBucket_hour h).1]
    exact Nat.lt_succ_self _
  | day =>
    have hordinal := (nextBucket_day h).2
    exact hday (by omega)
  | week =>
    have hordinal := (nextBucket_week h).2
    exact hday (by omega)
  | month =>
    obtain ⟨-, -, hnext⟩ := nextBucket_month h
    refine hday (Date.toOrdinal_lt ?_)
    unfold Date.Before
    omega

end Next

/-- The loop of `_build_buckets`. -/
def buildFrom (stop : DateTime) (bucket : DashboardBucketKey) (cursor : DateTime) : Except CalendarError (List DateTime) :=
  if cursor ≤ stop then
    match _hnext : nextBucket cursor bucket with
    | .error e => .error e
    | .ok next => (buildFrom stop bucket next).map (cursor :: ·)
  else .ok []
termination_by stop.hours + 1 - cursor.hours
decreasing_by
  rename_i hle
  have hlt := hours_lt_nextBucket _hnext
  have hle := DateTime.hours_le_of_le hle
  omega

def buildBuckets (spec : RangeSpec) : Except CalendarError (List DateTime) :=
  (bucketStart spec.start spec.bucket).bind (buildFrom spec.stop spec.bucket)

/-! ## Series -/

structure DashboardSeriesPoint where
  period : DateTime
  value : ℚ

structure DashboardRangeSeries where
  range : DashboardRangeKey
  bucket : DashboardBucketKey
  points : List DashboardSeriesPoint

def seriesFromMapping (spec : RangeSpec) (mapping : List (DateTime × ℚ)) : Except CalendarError DashboardRangeSeries :=
  (buildBuckets spec).map fun buckets =>
    { range := spec.key, bucket := spec.bucket
      points := buckets.map fun bucket => { period := bucket, value := (mapping.lookup bucket).getD 0 } }

/-- What a throughput query reads of a task. -/
structure ThroughputTask where
  status : String
  boardId : Option Uuid
  updatedAt : DateTime

/-- The rows of `_query_throughput`. -/
def throughputRows (spec : RangeSpec) (boardIds : List Uuid) (tasks : List ThroughputTask) : List ThroughputTask :=
  tasks.filter fun task => task.status = "done" ∧ spec.start ≤ task.updatedAt ∧ task.updatedAt ≤ spec.stop ∧
    ∃ boardId ∈ boardIds, task.boardId = some boardId

/-- The rows counted by the bucket that the database puts them into. -/
def countByBucket (dateTrunc : DateTime → DateTime) (rows : List ThroughputTask) : List (DateTime × Nat) :=
  let buckets := rows.map fun task => dateTrunc task.updatedAt
  (buckets.dedup.insertionSort (· ≤ ·)).map fun bucket => (bucket, buckets.count bucket)

/-- `_query_throughput`, where the database truncates times as it does. -/
def queryThroughput (dateTrunc : DashboardBucketKey → DateTime → DateTime) (spec : RangeSpec) (boardIds : List Uuid)
    (tasks : List ThroughputTask) : Except CalendarError DashboardRangeSeries :=
  if boardIds = [] then seriesFromMapping spec []
  else
    let results := countByBucket (dateTrunc spec.bucket) (throughputRows spec boardIds tasks)
    seriesFromMapping spec (results.map fun row => (row.1, (row.2 : ℚ)))

/-! ## Where buckets begin -/

/-- A bucket begins at the time: what is finer than it is zero, or one for the day of a month, and a week begins on Monday. -/
def IsBoundary : DashboardBucketKey → DateTime → Prop
  | .hour, t => t.clock = { hour := t.clock.hour }
  | .day, t => t.clock = {}
  | .week, t => t.clock = {} ∧ t.date.weekday = 0
  | .month, t => t.clock = {} ∧ t.date.day = 1

section Boundaries
variable {bucket : DashboardBucketKey} {c n t : DateTime}

theorem inHour_of_hour (h : t.clock = { hour := t.clock.hour }) : t.clock.inHour = 0 := by
  rw [h]
  rfl

theorem inHour_of_midnight (h : t.clock = {}) : t.clock.inHour = 0 := by
  rw [h]
  rfl

theorem hours_of_midnight (h : t.clock = {}) : t.hours = t.date.toOrdinal * 24 := by
  unfold DateTime.hours
  rw [h]
  rfl

theorem toOrdinal_le_of_le (h : c ≤ t) : c.date.toOrdinal ≤ t.date.toOrdinal := by
  have hle := DateTime.hours_le_of_le h
  unfold DateTime.hours at hle
  omega

theorem le_of_midnight (hc : c.clock = {}) : c ≤ t ↔ c.date.toOrdinal ≤ t.date.toOrdinal := by
  refine ⟨toOrdinal_le_of_le, fun hle => ?_⟩
  rw [DateTime.le_iff_of_inHour (inHour_of_midnight hc), hours_of_midnight hc]
  unfold DateTime.hours
  omega

theorem lt_of_midnight (hc : c.clock = {}) (ht : t.clock = {}) : c < t ↔ c.date.toOrdinal < t.date.toOrdinal := by
  rw [DateTime.lt_iff_of_inHour (inHour_of_midnight hc) (inHour_of_midnight ht), hours_of_midnight hc,
    hours_of_midnight ht]
  omega

/-- **The bucket of a time** begins at the last boundary up to it. -/
theorem bucketStart_spec (t : DateTime) (bucket : DashboardBucketKey) :
    ∃ m, bucketStart t bucket = .ok m ∧ IsFloor (IsBoundary bucket) t m := by
  cases bucket with
  | hour =>
    refine ⟨_, rfl, ⟨rfl, (DateTime.le_iff_of_inHour rfl).mpr le_rfl⟩, fun m hm => ?_⟩
    obtain ⟨hboundary, hle⟩ := hm
    have hle := DateTime.hours_le_of_le hle
    exact (DateTime.le_iff_of_inHour (inHour_of_hour hboundary)).mpr hle
  | day =>
    refine ⟨_, rfl, ⟨rfl, (le_of_midnight rfl).mpr (Nat.le_refl _)⟩, fun m hm => ?_⟩
    obtain ⟨hmidnight, hle⟩ := hm
    have hle := toOrdinal_le_of_le hle
    exact (le_of_midnight hmidnight).mpr hle
  | week =>
    have hweekday : t.date.weekday < t.date.toOrdinal := by
      have hpos := t.date.toOrdinal_pos
      unfold Date.weekday
      omega
    obtain ⟨date, hdate⟩ := Date.exists_subDays hweekday
    have hordinal := Date.toOrdinal_of_subDays hdate
    refine ⟨{ date }, ?_, ⟨⟨rfl, ?_⟩, (le_of_midnight rfl).mpr (by dsimp only; omega)⟩, fun m hm => ?_⟩
    · unfold bucketStart
      dsimp only
      rw [hdate]
      rfl
    · unfold Date.weekday at hordinal ⊢
      dsimp only
      omega
    · obtain ⟨⟨hmidnight, hmonday⟩, hle⟩ := hm
      refine (le_of_midnight hmidnight).mpr ?_
      have hle := toOrdinal_le_of_le hle
      unfold Date.weekday at hordinal hmonday
      dsimp only
      omega
  | month =>
    refine ⟨_, rfl, ⟨⟨rfl, rfl⟩, (le_of_midnight rfl).mpr ?_⟩, fun m hm => ?_⟩
    · unfold Date.toOrdinal Date.monthStart
      exact Nat.add_le_add_left t.date.valid.2.2.1 _
    · obtain ⟨⟨hmidnight, hfirst⟩, hle⟩ := hm
      refine (le_of_midnight hmidnight).mpr (Nat.le_of_not_lt fun hlt => ?_)
      have hbefore : t.date.monthStart.Before m.date := Date.before_iff.mpr hlt
      have hnot : ¬t.date.Before m.date := fun hb =>
        absurd (toOrdinal_le_of_le hle) (Nat.not_le.mpr (Date.toOrdinal_lt hb))
      unfold Date.Before at hbefore hnot
      unfold Date.monthStart at hbefore
      dsimp only at hbefore
      omega

/-- **The bucket after another one** begins at the next boundary. -/
theorem nextBucket_spec (hc : IsBoundary bucket c) (h : nextBucket c bucket = .ok n) : IsNext (IsBoundary bucket) c n := by
  have hhours := hours_lt_nextBucket h
  have hlt : c < n := DateTime.lt_def.mpr (.inl hhours)
  cases bucket with
  | hour =>
    obtain ⟨hhour, hclock⟩ := nextBucket_hour h
    have hn : n.clock = { hour := n.clock.hour } := by
      rw [hclock, show c.clock.minute = 0 from congrArg Clock.minute hc,
        show c.clock.second = 0 from congrArg Clock.second hc,
        show c.clock.microsecond = 0 from congrArg Clock.microsecond hc]
    refine ⟨⟨hn, hlt⟩, fun m hm => ?_⟩
    obtain ⟨hboundary, hcm⟩ := hm
    have hcm := (DateTime.lt_iff_of_inHour (inHour_of_hour hc) (inHour_of_hour hboundary)).mp hcm
    rw [DateTime.le_iff_of_inHour (inHour_of_hour hn), hhour]
    exact hcm
  | day =>
    obtain ⟨hclock, hordinal⟩ := nextBucket_day h
    have hn : n.clock = {} := hclock.trans hc
    refine ⟨⟨hn, hlt⟩, fun m hm => ?_⟩
    obtain ⟨hboundary, hcm⟩ := hm
    have hcm := (lt_of_midnight hc hboundary).mp hcm
    rw [le_of_midnight hn, hordinal]
    exact hcm
  | week =>
    obtain ⟨hclock, hordinal⟩ := nextBucket_week h
    obtain ⟨hmidnight, hmonday⟩ := hc
    have hn := hclock.trans hmidnight
    unfold Date.weekday at hmonday
    refine ⟨⟨⟨hn, ?_⟩, hlt⟩, fun m hm => ?_⟩
    · unfold Date.weekday
      omega
    · obtain ⟨⟨hboundary, hm⟩, hcm⟩ := hm
      have hcm := (lt_of_midnight hmidnight hboundary).mp hcm
      unfold Date.weekday at hm
      rw [le_of_midnight hn]
      omega
  | month =>
    obtain ⟨hmidnight, hfirst⟩ := hc
    obtain ⟨hclock, hn, hnext⟩ := nextBucket_month h
    have hnmidnight := hclock.trans hmidnight
    refine ⟨⟨⟨hnmidnight, hn⟩, hlt⟩, fun m hm => ?_⟩
    obtain ⟨⟨hboundary, hm⟩, hcm⟩ := hm
    refine (le_of_midnight hnmidnight).mpr (Nat.le_of_not_lt fun hlt => ?_)
    have hbefore := Date.before_iff.mpr hlt
    have hafter := Date.before_iff.mpr ((lt_of_midnight hmidnight hboundary).mp hcm)
    have hvalid := m.date.valid
    unfold IsDate at hvalid
    unfold Date.Before at hbefore hafter
    omega

def lastBucket : DashboardBucketKey → DateTime
  | .hour => { date := ⟨9999, 12, 31, by decide⟩, clock := { hour := 23 } }
  | .day => { date := ⟨9999, 12, 31, by decide⟩ }
  | .week => { date := ⟨9999, 12, 27, by decide⟩ }
  | .month => { date := ⟨9999, 12, 1, by decide⟩ }

theorem isBoundary_lastBucket (bucket : DashboardBucketKey) : IsBoundary bucket (lastBucket bucket) := by
  cases bucket with
  | hour => rfl
  | day => rfl
  | week => exact ⟨rfl, by decide⟩
  | month => exact ⟨rfl, rfl⟩

theorem not_nextBucket_lastBucket (bucket : DashboardBucketKey) (n : DateTime) :
    nextBucket (lastBucket bucket) bucket ≠ .ok n := by
  intro h
  have hmax := n.date.toOrdinal_le_maxOrdinal
  have hlast : (⟨9999, 12, 31, by decide⟩ : Date).toOrdinal = Date.maxOrdinal := by decide
  cases bucket with
  | hour =>
    have hhours : n.hours = Date.maxOrdinal * 24 + 24 := by rw [(nextBucket_hour h).1, ← hlast]; rfl
    have hhour := n.clock.hour.isLt
    unfold DateTime.hours at hhours
    omega
  | day =>
    have hordinal := (nextBucket_day h).2
    change n.date.toOrdinal = (⟨9999, 12, 31, by decide⟩ : Date).toOrdinal + 1 at hordinal
    omega
  | week =>
    have hordinal := (nextBucket_week h).2
    have hmonday : (lastBucket .week).date.toOrdinal + 4 = Date.maxOrdinal := by decide
    omega
  | month =>
    obtain ⟨-, -, hnext⟩ := nextBucket_month h
    have hvalid := n.date.valid
    have hyear : (lastBucket .month).date.year = 9999 := rfl
    have hmonth : (lastBucket .month).date.month = 12 := rfl
    unfold IsDate at hvalid
    omega

theorem le_lastBucket (hc : IsBoundary bucket c) : c ≤ lastBucket bucket := by
  refine not_lt.mp fun hlt => ?_
  have hmax := c.date.toOrdinal_le_maxOrdinal
  have hlast : (⟨9999, 12, 31, by decide⟩ : Date).toOrdinal = Date.maxOrdinal := by decide
  cases bucket with
  | hour =>
    have hlt := (DateTime.lt_iff_of_inHour (inHour_of_hour (isBoundary_lastBucket .hour)) (inHour_of_hour hc)).mp hlt
    have hlastHours : (lastBucket .hour).hours = Date.maxOrdinal * 24 + 23 := by rw [← hlast]; rfl
    have hhour := c.clock.hour.isLt
    rw [hlastHours] at hlt
    unfold DateTime.hours at hlt
    omega
  | day =>
    have hlt := (lt_of_midnight rfl hc).mp hlt
    change (⟨9999, 12, 31, by decide⟩ : Date).toOrdinal < c.date.toOrdinal at hlt
    omega
  | week =>
    obtain ⟨hmidnight, hmonday⟩ := hc
    have hlt := (lt_of_midnight rfl hmidnight).mp hlt
    have hweek : (lastBucket .week).date.toOrdinal = 3652055 := by decide
    unfold Date.weekday at hmonday
    unfold Date.maxOrdinal at hmax
    omega
  | month =>
    obtain ⟨hmidnight, hfirst⟩ := hc
    have hbefore := Date.before_iff.mpr ((lt_of_midnight rfl hmidnight).mp hlt)
    have hyear : (lastBucket .month).date.year = 9999 := rfl
    have hmonth : (lastBucket .month).date.month = 12 := rfl
    have hday : (lastBucket .month).date.day = 1 := rfl
    have hvalid := c.date.valid
    unfold IsDate at hvalid
    unfold Date.Before at hbefore
    omega

theorem exists_nextBucket (hc : IsBoundary bucket c) (h : c < lastBucket bucket) : ∃ n, nextBucket c bucket = .ok n := by
  have hlast : (⟨9999, 12, 31, by decide⟩ : Date).toOrdinal = Date.maxOrdinal := by decide
  cases bucket with
  | hour =>
    unfold nextBucket
    dsimp only
    split
    · exact ⟨_, rfl⟩
    · rename_i hhour
      have hlt := (DateTime.lt_iff_of_inHour (inHour_of_hour hc) (inHour_of_hour (isBoundary_lastBucket .hour))).mp h
      have hlastHours : (lastBucket .hour).hours = Date.maxOrdinal * 24 + 23 := by rw [← hlast]; rfl
      rw [hlastHours] at hlt
      unfold DateTime.hours at hlt
      obtain ⟨date, hdate⟩ := Date.exists_tomorrow (by omega : c.date.toOrdinal < Date.maxOrdinal)
      rw [hdate]
      exact ⟨_, rfl⟩
  | day =>
    have hlt := (lt_of_midnight hc rfl).mp h
    obtain ⟨date, hdate⟩ := Date.exists_addDays (hlast ▸ hlt : c.date.toOrdinal + 1 ≤ Date.maxOrdinal)
    unfold nextBucket
    dsimp only
    rw [hdate]
    exact ⟨_, rfl⟩
  | week =>
    obtain ⟨hmidnight, hmonday⟩ := hc
    have hlt := (lt_of_midnight hmidnight rfl).mp h
    have hweek : (lastBucket .week).date.toOrdinal = 3652055 := by decide
    have hroom : c.date.toOrdinal + 7 ≤ Date.maxOrdinal := by
      unfold Date.weekday at hmonday
      unfold Date.maxOrdinal
      omega
    obtain ⟨date, hdate⟩ := Date.exists_addDays hroom
    unfold nextBucket
    dsimp only
    rw [hdate]
    exact ⟨_, rfl⟩
  | month =>
    obtain ⟨hmidnight, hfirst⟩ := hc
    have hbefore := Date.before_iff.mpr ((lt_of_midnight hmidnight rfl).mp h)
    have hyear : (lastBucket .month).date.year = 9999 := rfl
    have hmonth : (lastBucket .month).date.month = 12 := rfl
    have hday : (lastBucket .month).date.day = 1 := rfl
    have hvalid := c.date.valid
    have hdays := Date.le_daysInMonth c.date.year (c.date.month + 1)
    have hjanuary := Date.le_daysInMonth (c.date.year + 1) 1
    unfold Date.Before at hbefore
    unfold nextBucket
    dsimp only
    split
    · rw [dif_pos (by unfold IsDate at hvalid ⊢; omega)]
      exact ⟨_, rfl⟩
    · rw [dif_pos (by unfold IsDate at hvalid ⊢; omega)]
      exact ⟨_, rfl⟩

end Boundaries

/-! ## The buckets of a range -/

section Build
variable {stop c n : DateTime} {bucket : DashboardBucketKey}

theorem buildFrom_of_lt (h : stop < c) : buildFrom stop bucket c = .ok [] := by
  rw [buildFrom, if_neg (not_le.mpr h)]

theorem buildFrom_of_ok (h : c ≤ stop) (hn : nextBucket c bucket = .ok n) :
    buildFrom stop bucket c = (buildFrom stop bucket n).map (c :: ·) := by
  rw [buildFrom, if_pos h]
  split
  · rename_i he
    rw [hn] at he
    cases he
  · rename_i n' he
    rw [hn] at he
    obtain rfl := Except.ok.inj he
    rfl

theorem buildFrom_of_error {e : CalendarError} (h : c ≤ stop) (hn : nextBucket c bucket = .error e) :
    buildFrom stop bucket c = .error e := by
  rw [buildFrom, if_pos h]
  split
  · rename_i he
    rw [hn] at he
    rw [Except.error.inj he]
  · rename_i he
    rw [hn] at he
    cases he

/-- **The loop ends with the ladder** of the buckets up to the end of the range, where the calendar has room for them. -/
theorem buildFrom_spec (hroom : stop < lastBucket bucket) (hc : IsBoundary bucket c) :
    ∃ buckets, buildFrom stop bucket c = .ok buckets ∧ Ladder (IsBoundary bucket) stop c buckets := by
  -- the hours from the cursor to the end
  induction hk : stop.hours + 1 - c.hours using Nat.strong_induction_on generalizing c with
  | _ k ih =>
    rcases lt_or_ge stop c with hlt | hle
    · exact ⟨[], buildFrom_of_lt hlt, .done hlt⟩
    · obtain ⟨n, hn⟩ := exists_nextBucket hc (hle.trans_lt hroom)
      have hnext := nextBucket_spec hc hn
      have hhours := hours_lt_nextBucket hn
      have hstop := DateTime.hours_le_of_le hle
      obtain ⟨buckets, hbuckets, hladder⟩ := ih _ (by omega) hnext.1.1 rfl
      exact ⟨c :: buckets, by rw [buildFrom_of_ok hle hn, hbuckets]; rfl, .step hc hle hnext hladder⟩

theorem buildFrom_error (hroom : lastBucket bucket ≤ stop) (hc : IsBoundary bucket c) (hle : c ≤ lastBucket bucket) :
    ∃ e, buildFrom stop bucket c = .error e := by
  induction hk : stop.hours + 1 - c.hours using Nat.strong_induction_on generalizing c with
  | _ k ih =>
    have hstop := hle.trans hroom
    cases hn : nextBucket c bucket with
    | error e => exact ⟨e, buildFrom_of_error hstop hn⟩
    | ok n =>
      have hnext := nextBucket_spec hc hn
      have hhours := hours_lt_nextBucket hn
      have hhoursStop := DateTime.hours_le_of_le hstop
      have hlt : c < lastBucket bucket := by
        refine hle.lt_of_ne fun he => ?_
        rw [he] at hn
        exact not_nextBucket_lastBucket bucket n hn
      obtain ⟨e, he⟩ := ih _ (by omega) hnext.1.1 (hnext.2 ⟨isBoundary_lastBucket bucket, hlt⟩) rfl
      exact ⟨e, by rw [buildFrom_of_ok hstop hn, he]; rfl⟩

end Build

/-! ## The partition -/

section Partition
variable {spec : RangeSpec} {buckets : List DateTime}

theorem buildBuckets_spec (hroom : spec.stop < lastBucket spec.bucket) :
    ∃ first buckets, IsFloor (IsBoundary spec.bucket) spec.start first ∧ buildBuckets spec = .ok buckets ∧
      Ladder (IsBoundary spec.bucket) spec.stop first buckets := by
  obtain ⟨first, hfirst, hfloor⟩ := bucketStart_spec spec.start spec.bucket
  obtain ⟨buckets, hbuckets, hladder⟩ := buildFrom_spec hroom hfloor.1.1
  refine ⟨first, buckets, hfloor, ?_, hladder⟩
  unfold buildBuckets
  rw [hfirst]
  exact hbuckets

/-- A time falls into a bucket: it is not before the bucket begins, and before the next one does. -/
def FallsIn (bucket : DashboardBucketKey) (t b : DateTime) : Prop :=
  b ≤ t ∧ ∀ next, nextBucket b bucket = .ok next → t < next

theorem fallsIn_iff {bucket : DashboardBucketKey} {t b : DateTime} (hb : IsBoundary bucket b) (hlt : b < lastBucket bucket) :
    FallsIn bucket t b ↔ IsFloor (IsBoundary bucket) t b := by
  obtain ⟨next, hnext⟩ := exists_nextBucket hb hlt
  rw [isFloor_iff hb (nextBucket_spec hb hnext)]
  unfold FallsIn
  refine and_congr_right fun _ => ⟨fun h => h next hnext, fun h next' hnext' => ?_⟩
  rw [hnext] at hnext'
  exact Except.ok.inj hnext' ▸ h

theorem lookup_countByBucket (dateTrunc : DateTime → DateTime) (rows : List ThroughputTask) (b : DateTime) :
    (((countByBucket dateTrunc rows).map fun row => (row.1, (row.2 : ℚ))).lookup b).getD 0 =
      ((rows.map fun task => dateTrunc task.updatedAt).count b : ℚ) := by
  unfold countByBucket
  dsimp only
  rw [List.map_map]
  by_cases hb : b ∈ rows.map fun task => dateTrunc task.updatedAt
  · have hsorted : b ∈ ((rows.map fun task => dateTrunc task.updatedAt).dedup.insertionSort (· ≤ ·)) :=
      (List.mem_insertionSort _).mpr (List.mem_dedup.mpr hb)
    rw [Function.comp_def, List.lookup_graph _ hsorted]
    rfl
  · have hnone : (((rows.map fun task => dateTrunc task.updatedAt).dedup.insertionSort (· ≤ ·)).map
        ((fun row : DateTime × Nat => (row.1, (row.2 : ℚ))) ∘ fun bucket =>
          (bucket, (rows.map fun task => dateTrunc task.updatedAt).count bucket))).lookup b = none := by
      refine List.lookup_eq_none_iff.mpr fun p hp => ?_
      obtain ⟨b', hb', rfl⟩ := List.mem_map.mp hp
      have hmem := List.mem_dedup.mp ((List.mem_insertionSort _).mp hb')
      exact bne_iff_ne.mpr fun he => hb (he ▸ hmem)
    rw [hnone, List.count_eq_zero_of_not_mem hb]
    rfl

theorem sum_queryThroughput {first : DateTime} {dateTrunc : DashboardBucketKey → DateTime → DateTime}
    (htrunc : ∀ bucket t, IsFloor (IsBoundary bucket) t (dateTrunc bucket t)) (boardIds : List Uuid)
    (tasks : List ThroughputTask) (hfloor : IsFloor (IsBoundary spec.bucket) spec.start first)
    (hbuckets : buildBuckets spec = .ok buckets) (hladder : Ladder (IsBoundary spec.bucket) spec.stop first buckets) :
    ∃ series, queryThroughput dateTrunc spec boardIds tasks = .ok series ∧ series.points.map (·.period) = buckets ∧
      (series.points.map (·.value)).sum = (throughputRows spec boardIds tasks).length := by
  have hseries : ∀ mapping, seriesFromMapping spec mapping = .ok
      { range := spec.key, bucket := spec.bucket
        points := buckets.map fun bucket => { period := bucket, value := (mapping.lookup bucket).getD 0 } } := by
    intro mapping
    unfold seriesFromMapping
    rw [hbuckets]
    rfl
  have hperiods : ∀ value : DateTime → ℚ,
      (buckets.map fun bucket => ({ period := bucket, value := value bucket } : DashboardSeriesPoint)).map (·.period) =
        buckets := by
    intro value
    rw [List.map_map]
    exact List.map_id _
  unfold queryThroughput
  by_cases hempty : boardIds = []
  · rw [if_pos hempty]
    refine ⟨_, hseries [], hperiods _, ?_⟩
    have hnone : throughputRows spec boardIds tasks = [] := by
      unfold throughputRows
      refine List.filter_eq_nil_iff.mpr fun task _ h => ?_
      obtain ⟨-, -, -, boardId, hmem, -⟩ := of_decide_eq_true h
      exact absurd (hempty ▸ hmem) List.not_mem_nil
    rw [hnone, List.map_map]
    exact List.sum_eq_zero fun value hvalue => by
      obtain ⟨_, _, rfl⟩ := List.mem_map.mp hvalue
      rfl
  · rw [if_neg hempty]
    refine ⟨_, hseries _, hperiods _, ?_⟩
    have hplaces : ∀ task ∈ throughputRows spec boardIds tasks, dateTrunc spec.bucket task.updatedAt ∈ buckets := by
      intro task htask
      obtain ⟨-, hstart, hstop, -⟩ := of_decide_eq_true (List.mem_filter.mp htask).2
      exact hladder.floor_mem hfloor (htrunc _ _) hstart hstop
    have hsum := sum_counts (fun task : ThroughputTask => dateTrunc spec.bucket task.updatedAt) _
      (hladder.pairwise.imp fun h => h.ne) hplaces
    rw [← hsum, Nat.cast_list_sum, List.map_map, List.map_map]
    congr 1
    exact List.map_congr_left fun b _ => lookup_countByBucket _ _ b

/-- **The buckets partition the range**, in order, where it ends before the last bucket of the
calendar: each time falls in the one it is truncated to, and a series adds up to the rows that are
counted. Any other range has no buckets. -/
theorem buildBuckets_partition (spec : RangeSpec) (dateTrunc : DashboardBucketKey → DateTime → DateTime)
    (htrunc : ∀ bucket t, IsFloor (IsBoundary bucket) t (dateTrunc bucket t)) :
    (spec.stop < lastBucket spec.bucket → ∃ buckets, buildBuckets spec = .ok buckets ∧ buckets.Pairwise (· < ·) ∧
      (∀ t, spec.start ≤ t → t ≤ spec.stop → dateTrunc spec.bucket t ∈ buckets ∧
        ∀ b ∈ buckets, FallsIn spec.bucket t b ↔ b = dateTrunc spec.bucket t) ∧
      ∀ boardIds tasks, ∃ series, queryThroughput dateTrunc spec boardIds tasks = .ok series ∧
        series.points.map (·.period) = buckets ∧
        (series.points.map (·.value)).sum = (throughputRows spec boardIds tasks).length) ∧
    (lastBucket spec.bucket ≤ spec.stop → ∃ e, buildBuckets spec = .error e) := by
  constructor
  · intro hroom
    obtain ⟨first, buckets, hfloor, hbuckets, hladder⟩ := buildBuckets_spec hroom
    refine ⟨buckets, hbuckets, hladder.pairwise, fun t hstart hstop => ⟨?_, fun b hb => ?_⟩, fun boardIds tasks => ?_⟩
    · exact hladder.floor_mem hfloor (htrunc _ t) hstart hstop
    · obtain ⟨hboundary, -, hle⟩ := hladder.mem_iff.mp hb
      rw [fallsIn_iff hboundary (hle.trans_lt hroom)]
      exact ⟨fun h => h.unique (htrunc _ t), fun h => h ▸ htrunc _ t⟩
    · exact sum_queryThroughput htrunc boardIds tasks hfloor hbuckets hladder
  · intro hroom
    obtain ⟨first, hfirst, hfloor⟩ := bucketStart_spec spec.start spec.bucket
    obtain ⟨e, he⟩ := buildFrom_error hroom hfloor.1.1 (le_lastBucket hfloor.1.1)
    refine ⟨e, ?_⟩
    unfold buildBuckets
    rw [hfirst]
    exact he

end Partition

namespace Sample

/-- The last boundary up to a time. -/
def truncate (bucket : DashboardBucketKey) (t : DateTime) : DateTime := (bucketStart t bucket).toOption.getD t

def overNewYear : RangeSpec where
  key := .months3
  start := { date := ⟨2025, 12, 24, by decide⟩, clock := { hour := 10 } }
  stop := { date := ⟨2026, 1, 2, by decide⟩ }
  bucket := .week
  duration := 90

def lastHour : RangeSpec where
  key := .hours24
  start := lastBucket .hour
  stop := lastBucket .hour
  bucket := .hour
  duration := 1

end Sample

theorem isFloor_truncate (bucket : DashboardBucketKey) (t : DateTime) :
    IsFloor (IsBoundary bucket) t (Sample.truncate bucket t) := by
  obtain ⟨m, hm, hfloor⟩ := bucketStart_spec t bucket
  unfold Sample.truncate
  rw [hm]
  exact hfloor

/-- A task done on New Year's Day counts. -/
theorem buildBuckets_partition_example : ∃ buckets series, buildBuckets Sample.overNewYear = .ok buckets ∧
    Sample.truncate .week { date := ⟨2026, 1, 1, by decide⟩ } ∈ buckets ∧
    queryThroughput Sample.truncate Sample.overNewYear [1]
      [{ status := "done", boardId := some 1, updatedAt := { date := ⟨2026, 1, 1, by decide⟩ } }] = .ok series ∧
    (series.points.map (·.value)).sum = 1 := by
  have hroom : Sample.overNewYear.stop < lastBucket Sample.overNewYear.bucket := by decide
  obtain ⟨buckets, hbuckets, -, hfalls, hseries⟩ :=
    (buildBuckets_partition Sample.overNewYear Sample.truncate isFloor_truncate).1 hroom
  obtain ⟨series, hrun, -, hsum⟩ := hseries [1]
    [{ status := "done", boardId := some 1, updatedAt := { date := ⟨2026, 1, 1, by decide⟩ } }]
  refine ⟨buckets, series, hbuckets, (hfalls _ (by decide) (by decide)).1, hrun, hsum.trans ?_⟩
  rfl

/-- **The last hour of the calendar** has no bucket after it, and the loop raises. -/
theorem not_buildBuckets_partition :
    ¬ ∀ spec : RangeSpec, spec.start ≤ spec.stop → ∃ buckets, buildBuckets spec = .ok buckets := by
  intro h
  obtain ⟨buckets, hbuckets⟩ := h Sample.lastHour le_rfl
  obtain ⟨e, he⟩ : ∃ e, buildFrom (lastBucket .hour) .hour (lastBucket .hour) = .error e :=
    buildFrom_error le_rfl (isBoundary_lastBucket .hour) le_rfl
  have hraised : buildBuckets Sample.lastHour = .error e := he
  rw [hraised] at hbuckets
  cases hbuckets

end SiloForge
