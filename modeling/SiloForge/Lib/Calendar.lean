import Mathlib.Data.Prod.Lex
import Mathlib.Tactic.Ring

/-!
# Dates and times of the Gregorian calendar

A date is a year, a month and a day that there is, from the first of January of the year 1 to the end of the year 9999. Dates
and times are ordered as they follow each other.

* `Date`, `Date.toOrdinal` : dates, and their places in the calendar, `toOrdinal_lt` : which go up with year, month and day;
* `Date.tomorrow`, `Date.yesterday`, `Date.addDays`, `Date.subDays` : dates some days later or earlier, where there are any;
* `Clock`, `DateTime` : times of a day, and instants, `DateTime.hours` : in hours.
-/

namespace Lib.Calendar

def isLeap (year : Nat) : Bool := year % 4 = 0 ∧ (year % 100 ≠ 0 ∨ year % 400 = 0)

def daysInMonth (year : Nat) : Nat → Nat
  | 2 => if isLeap year then 29 else 28
  | 4 | 6 | 9 | 11 => 30
  | _ => 31

def daysInYear (year : Nat) : Nat := if isLeap year then 366 else 365

def daysBeforeYear (year : Nat) : Nat :=
  let y := year - 1
  y * 365 + y / 4 - y / 100 + y / 400

def daysBeforeMonth (year : Nat) : Nat → Nat
  | 0 | 1 => 0
  | month + 2 => daysBeforeMonth year (month + 1) + daysInMonth year (month + 1)

theorem daysBeforeMonth_succ (year : Nat) {month : Nat} (h : 1 ≤ month) :
    daysBeforeMonth year (month + 1) = daysBeforeMonth year month + daysInMonth year month := by
  obtain ⟨m, rfl⟩ : ∃ m, month = m + 1 := ⟨month - 1, by omega⟩
  rfl

theorem daysBeforeMonth_mono (year : Nat) : Monotone (daysBeforeMonth year) := by
  refine monotone_nat_of_le_succ fun month => ?_
  cases month with
  | zero => exact Nat.le_refl _
  | succ m => exact Nat.le_add_right _ _

theorem daysBeforeMonth_thirteen (year : Nat) : daysBeforeMonth year 13 = daysInYear year := by
  have hfebruary : daysInMonth year 2 + 337 = daysInYear year := by
    unfold daysInMonth daysInYear
    cases isLeap year <;> rfl
  rw [← hfebruary]
  simp only [daysBeforeMonth, daysInMonth]
  omega

theorem isLeap_iff (year : Nat) : isLeap year = true ↔ 4 ∣ year ∧ (¬100 ∣ year ∨ 400 ∣ year) := by
  unfold isLeap
  rw [decide_eq_true_iff, Nat.dvd_iff_mod_eq_zero, Nat.dvd_iff_mod_eq_zero, Nat.dvd_iff_mod_eq_zero]

theorem daysBeforeYear_succ {year : Nat} (h : 1 ≤ year) :
    daysBeforeYear (year + 1) = daysBeforeYear year + daysInYear year := by
  obtain ⟨y, rfl⟩ : ∃ y, year = y + 1 := ⟨year - 1, by omega⟩
  have hhundred : y / 100 ≤ y / 4 := Nat.div_le_div_left (by decide) (by decide)
  have hfour : 100 ∣ y + 1 → 4 ∣ y + 1 := Nat.dvd_trans ⟨25, rfl⟩
  have hfourhundred : 400 ∣ y + 1 → 100 ∣ y + 1 := Nat.dvd_trans ⟨4, rfl⟩
  have hleap := isLeap_iff (y + 1)
  unfold daysBeforeYear daysInYear
  dsimp only
  rw [Nat.add_sub_cancel, Nat.add_sub_cancel, Nat.succ_div, Nat.succ_div, Nat.succ_div]
  generalize y / 4 = a, y / 100 = b, y / 400 = c at *
  by_cases h4 : 4 ∣ y + 1
  · by_cases h100 : 100 ∣ y + 1
    · by_cases h400 : 400 ∣ y + 1
      · rw [if_pos h4, if_pos h100, if_pos h400, if_pos (hleap.mpr ⟨h4, .inr h400⟩)]
        omega
      · rw [if_pos h4, if_pos h100, if_neg h400, if_neg fun hl => (hleap.mp hl).2.elim (· h100) h400]
        omega
    · rw [if_pos h4, if_neg h100, if_neg (h100 ∘ hfourhundred), if_pos (hleap.mpr ⟨h4, .inl h100⟩)]
      omega
  · rw [if_neg h4, if_neg (h4 ∘ hfour), if_neg (h4 ∘ hfour ∘ hfourhundred), if_neg fun hl => h4 (hleap.mp hl).1]
    omega

theorem daysBeforeYear_mono : MonotoneOn daysBeforeYear (Set.Ici 1) := by
  intro year hyear year' _ hle
  induction year', hle using Nat.le_induction with
  | base => exact Nat.le_refl _
  | succ y hle ih =>
    have hy : 1 ≤ y := le_trans hyear hle
    rw [daysBeforeYear_succ hy]
    exact (ih hy).trans (Nat.le_add_right _ _)

/-! ## Dates -/

def IsDate (year month day : Nat) : Prop :=
  (1 ≤ year ∧ year ≤ 9999) ∧ (1 ≤ month ∧ month ≤ 12) ∧ 1 ≤ day ∧ day ≤ daysInMonth year month

instance (year month day : Nat) : Decidable (IsDate year month day) := by
  unfold IsDate
  infer_instance

@[ext] structure Date where
  year : Nat
  month : Nat
  day : Nat
  valid : IsDate year month day
  deriving DecidableEq

namespace Date
variable {d e : Date}

/-- The first of January of the year 1 has the ordinal 1. -/
def toOrdinal (d : Date) : Nat := daysBeforeYear d.year + daysBeforeMonth d.year d.month + d.day

theorem lt_toOrdinal (d : Date) : daysBeforeYear d.year + daysBeforeMonth d.year d.month < d.toOrdinal :=
  Nat.lt_add_of_pos_right d.valid.2.2.1

theorem toOrdinal_le (d : Date) : d.toOrdinal ≤ daysBeforeYear d.year + daysBeforeMonth d.year (d.month + 1) := by
  rw [daysBeforeMonth_succ _ d.valid.2.1.1, ← Nat.add_assoc]
  exact Nat.add_le_add_left d.valid.2.2.2 _

theorem daysBeforeYear_lt_toOrdinal (d : Date) : daysBeforeYear d.year < d.toOrdinal :=
  lt_of_le_of_lt (Nat.le_add_right _ _) d.lt_toOrdinal

theorem toOrdinal_le_daysBeforeYear (d : Date) : d.toOrdinal ≤ daysBeforeYear (d.year + 1) := by
  rw [daysBeforeYear_succ d.valid.1.1, ← daysBeforeMonth_thirteen]
  refine d.toOrdinal_le.trans (Nat.add_le_add_left (daysBeforeMonth_mono _ ?_) _)
  exact Nat.succ_le_succ d.valid.2.1.2

/-- One date comes before another: its year is earlier, or its month in the same year, or its day in the same month. -/
def Before (d e : Date) : Prop :=
  d.year < e.year ∨ d.year = e.year ∧ (d.month < e.month ∨ d.month = e.month ∧ d.day < e.day)

/-- **Ordinals go up** with year, month and day. -/
theorem toOrdinal_lt (h : d.Before e) : d.toOrdinal < e.toOrdinal := by
  rcases h with hyear | ⟨hyear, hmonth | ⟨hmonth, hday⟩⟩
  · have hnext := daysBeforeYear_mono (Nat.succ_le_succ (Nat.zero_le d.year)) (Set.mem_Ici.mpr e.valid.1.1) hyear
    exact lt_of_le_of_lt (d.toOrdinal_le_daysBeforeYear.trans hnext) e.daysBeforeYear_lt_toOrdinal
  · have hnext := daysBeforeMonth_mono e.year hmonth
    have hle := d.toOrdinal_le
    rw [hyear] at hle
    exact lt_of_le_of_lt (hle.trans (Nat.add_le_add_left hnext _)) e.lt_toOrdinal
  · unfold toOrdinal
    rw [hyear, hmonth]
    exact Nat.add_lt_add_left hday _

theorem before_trichotomy (d e : Date) : d.Before e ∨ d = e ∨ e.Before d := by
  unfold Before
  rw [Date.ext_iff]
  omega

theorem before_iff : d.Before e ↔ d.toOrdinal < e.toOrdinal := by
  refine ⟨toOrdinal_lt, fun hlt => ?_⟩
  rcases before_trichotomy d e with h | rfl | h
  · exact h
  · exact absurd hlt (Nat.lt_irrefl _)
  · exact absurd (toOrdinal_lt h) (Nat.lt_asymm hlt)

theorem toOrdinal_injective : Function.Injective toOrdinal := by
  intro d e heq
  rcases before_trichotomy d e with h | h | h
  · exact absurd heq (toOrdinal_lt h).ne
  · exact h
  · exact absurd heq (toOrdinal_lt h).ne'

def tomorrow (d : Date) : Option Date :=
  if h : IsDate d.year d.month (d.day + 1) then some ⟨d.year, d.month, d.day + 1, h⟩
  else if h : IsDate d.year (d.month + 1) 1 then some ⟨d.year, d.month + 1, 1, h⟩
  else if h : IsDate (d.year + 1) 1 1 then some ⟨d.year + 1, 1, 1, h⟩
  else none

def yesterday (d : Date) : Option Date :=
  if h : IsDate d.year d.month (d.day - 1) then some ⟨d.year, d.month, d.day - 1, h⟩
  else if h : IsDate d.year (d.month - 1) (daysInMonth d.year (d.month - 1)) then
    some ⟨d.year, d.month - 1, daysInMonth d.year (d.month - 1), h⟩
  else if h : IsDate (d.year - 1) 12 31 then some ⟨d.year - 1, 12, 31, h⟩
  else none

theorem le_daysInMonth (year month : Nat) : 28 ≤ daysInMonth year month := by
  unfold daysInMonth
  split
  · split <;> omega
  · omega
  · omega
  · omega
  · omega
  · omega

theorem day_of_last (h : ¬IsDate d.year d.month (d.day + 1)) : d.day = daysInMonth d.year d.month := by
  have hvalid := d.valid
  unfold IsDate at h hvalid
  omega

theorem month_of_last (h : ¬IsDate d.year (d.month + 1) 1) : d.month = 12 := by
  have hvalid := d.valid
  have hdays := le_daysInMonth d.year (d.month + 1)
  unfold IsDate at h hvalid
  omega

theorem toOrdinal_of_tomorrow (h : d.tomorrow = some e) : e.toOrdinal = d.toOrdinal + 1 := by
  obtain ⟨⟨hyear, -⟩, ⟨hmonth, -⟩, -⟩ := d.valid
  have hnext := daysBeforeMonth_succ d.year hmonth
  unfold tomorrow at h
  split at h
  · obtain rfl := Option.some.inj h
    exact (Nat.add_assoc _ _ _).symm
  rename_i hday
  have hlast := day_of_last hday
  split at h
  · obtain rfl := Option.some.inj h
    have hd : d.toOrdinal = daysBeforeYear d.year + daysBeforeMonth d.year (d.month + 1) := by
      rw [hnext, ← hlast, ← Nat.add_assoc]
      rfl
    exact congrArg (· + 1) hd.symm
  rename_i hnot
  have hdecember := month_of_last hnot
  split at h
  · obtain rfl := Option.some.inj h
    have hd : d.toOrdinal = daysBeforeYear (d.year + 1) := by
      rw [daysBeforeYear_succ hyear, ← daysBeforeMonth_thirteen]
      rw [hdecember] at hnext
      rw [hnext, ← hdecember, ← hlast, ← Nat.add_assoc]
      rfl
    exact congrArg (· + 1) hd.symm
  · cases h

theorem day_of_first (h : ¬IsDate d.year d.month (d.day - 1)) : d.day = 1 := by
  have hvalid := d.valid
  unfold IsDate at h hvalid
  omega

theorem month_of_first (h : ¬IsDate d.year (d.month - 1) (daysInMonth d.year (d.month - 1))) : d.month = 1 := by
  have hvalid := d.valid
  have hdays := le_daysInMonth d.year (d.month - 1)
  unfold IsDate at h hvalid
  omega

theorem toOrdinal_of_yesterday (h : d.yesterday = some e) : e.toOrdinal + 1 = d.toOrdinal := by
  unfold yesterday at h
  split at h
  · rename_i hday
    obtain rfl := Option.some.inj h
    unfold toOrdinal
    rw [Nat.add_assoc, Nat.sub_add_cancel d.valid.2.2.1]
  rename_i hday
  have hfirst := day_of_first hday
  split at h
  · rename_i hmonth
    obtain rfl := Option.some.inj h
    have hnext := daysBeforeMonth_succ d.year hmonth.2.1.1
    rw [Nat.sub_add_cancel d.valid.2.1.1] at hnext
    unfold toOrdinal
    rw [hnext, hfirst, ← Nat.add_assoc]
  rename_i hmonth
  have hjanuary := month_of_first hmonth
  split at h
  · rename_i hyear
    obtain rfl := Option.some.inj h
    have hnext := daysBeforeYear_succ hyear.1.1
    rw [Nat.sub_add_cancel d.valid.1.1, ← daysBeforeMonth_thirteen] at hnext
    have hdecember : daysBeforeMonth (d.year - 1) 13 = daysBeforeMonth (d.year - 1) 12 + 31 :=
      daysBeforeMonth_succ _ (by decide)
    have hd : d.toOrdinal = daysBeforeYear d.year + 1 := by
      unfold toOrdinal
      rw [hfirst, hjanuary]
      rfl
    rw [hd, hnext, hdecember, ← Nat.add_assoc]
    rfl
  · cases h

/-- The last date has this ordinal. -/
def maxOrdinal : Nat := 3652059

theorem exists_tomorrow (h : d.toOrdinal < maxOrdinal) : ∃ e, d.tomorrow = some e := by
  unfold tomorrow
  split
  · exact ⟨_, rfl⟩
  rename_i hday
  split
  · exact ⟨_, rfl⟩
  rename_i hmonth
  split
  · exact ⟨_, rfl⟩
  rename_i hyear
  have hlast : d = ⟨9999, 12, 31, by decide⟩ := by
    have hday := day_of_last hday
    have hmonth := month_of_last hmonth
    have hvalid := d.valid
    rw [hmonth] at hday
    have hdays := le_daysInMonth (d.year + 1) 1
    unfold IsDate at hyear hvalid
    have hlastYear : d.year = 9999 := by omega
    exact Date.ext hlastYear hmonth hday
  rw [hlast] at h
  exact absurd h (by decide)

theorem exists_yesterday (h : 1 < d.toOrdinal) : ∃ e, d.yesterday = some e := by
  unfold yesterday
  split
  · exact ⟨_, rfl⟩
  rename_i hday
  split
  · exact ⟨_, rfl⟩
  rename_i hmonth
  split
  · exact ⟨_, rfl⟩
  rename_i hyear
  have hfirst : d = ⟨1, 1, 1, by decide⟩ := by
    have hvalid := d.valid
    have hdays : daysInMonth (d.year - 1) 12 = 31 := rfl
    unfold IsDate at hyear hvalid
    have hfirstYear : d.year = 1 := by omega
    exact Date.ext hfirstYear (month_of_first hmonth) (day_of_first hday)
  rw [hfirst] at h
  exact absurd h (by decide)

def addDays (d : Date) : Nat → Option Date
  | 0 => some d
  | n + 1 => d.tomorrow.bind fun e => e.addDays n

def subDays (d : Date) : Nat → Option Date
  | 0 => some d
  | n + 1 => d.yesterday.bind fun e => e.subDays n

theorem toOrdinal_of_addDays {n : Nat} (h : d.addDays n = some e) : e.toOrdinal = d.toOrdinal + n := by
  induction n generalizing d with
  | zero => exact congrArg toOrdinal (Option.some.inj h).symm
  | succ n ih =>
    obtain ⟨d', hd', h⟩ := Option.bind_eq_some_iff.mp h
    rw [ih h, toOrdinal_of_tomorrow hd', Nat.add_right_comm, Nat.add_assoc]

theorem toOrdinal_of_subDays {n : Nat} (h : d.subDays n = some e) : e.toOrdinal + n = d.toOrdinal := by
  induction n generalizing d with
  | zero => exact congrArg toOrdinal (Option.some.inj h).symm
  | succ n ih =>
    obtain ⟨d', hd', h⟩ := Option.bind_eq_some_iff.mp h
    rw [← Nat.add_assoc, ih h, toOrdinal_of_yesterday hd']

theorem exists_addDays {n : Nat} (h : d.toOrdinal + n ≤ maxOrdinal) : ∃ e, d.addDays n = some e := by
  induction n generalizing d with
  | zero => exact ⟨d, rfl⟩
  | succ n ih =>
    obtain ⟨d', hd'⟩ := exists_tomorrow (by omega : d.toOrdinal < maxOrdinal)
    have hordinal := toOrdinal_of_tomorrow hd'
    obtain ⟨e, he⟩ := ih (by omega : d'.toOrdinal + n ≤ maxOrdinal)
    exact ⟨e, Option.bind_eq_some_iff.mpr ⟨d', hd', he⟩⟩

theorem exists_subDays {n : Nat} (h : n < d.toOrdinal) : ∃ e, d.subDays n = some e := by
  induction n generalizing d with
  | zero => exact ⟨d, rfl⟩
  | succ n ih =>
    obtain ⟨d', hd'⟩ := exists_yesterday (by omega : 1 < d.toOrdinal)
    have hordinal := toOrdinal_of_yesterday hd'
    obtain ⟨e, he⟩ := ih (by omega : n < d'.toOrdinal)
    exact ⟨e, Option.bind_eq_some_iff.mpr ⟨d', hd', he⟩⟩

theorem toOrdinal_le_maxOrdinal (d : Date) : d.toOrdinal ≤ maxOrdinal := by
  by_contra hlt
  have hbefore : (⟨9999, 12, 31, by decide⟩ : Date).Before d := before_iff.mpr (Nat.not_le.mp hlt)
  have hvalid := d.valid
  have hdays : d.month = 12 → daysInMonth d.year d.month = 31 := fun h => by rw [h]; rfl
  unfold Before at hbefore
  unfold IsDate at hvalid
  dsimp only at hbefore
  omega

theorem toOrdinal_pos (d : Date) : 0 < d.toOrdinal := lt_of_le_of_lt (Nat.zero_le _) d.lt_toOrdinal

/-- The day of the week. Monday is 0. -/
def weekday (d : Date) : Nat := (d.toOrdinal + 6) % 7

def monthStart (d : Date) : Date :=
  ⟨d.year, d.month, 1, d.valid.1, d.valid.2.1, Nat.le_refl 1, d.valid.2.2.1.trans d.valid.2.2.2⟩

end Date

/-! ## Times -/

@[ext] structure Clock where
  hour : Fin 24 := 0
  minute : Fin 60 := 0
  second : Fin 60 := 0
  microsecond : Fin 1000000 := 0
  deriving DecidableEq

def Clock.inHour (c : Clock) : Nat := 1000000 * (60 * c.minute + c.second) + c.microsecond

theorem Clock.ext_inHour {c c' : Clock} (hhour : c.hour = c'.hour) (h : c.inHour = c'.inHour) : c = c' := by
  unfold Clock.inHour at h
  refine Clock.ext hhour ?_ ?_ ?_ <;> omega

@[ext] structure DateTime where
  date : Date
  clock : Clock := {}
  deriving DecidableEq

namespace DateTime
variable {t t' : DateTime}

def hours (t : DateTime) : Nat := t.date.toOrdinal * 24 + t.clock.hour

def key (t : DateTime) : Lex (Nat × Nat) := toLex (t.hours, t.clock.inHour)

theorem key_injective : Function.Injective key := by
  intro t t' h
  obtain ⟨hhours, hin⟩ := Prod.mk.inj (toLex_inj.mp h)
  unfold hours at hhours
  refine DateTime.ext (Date.toOrdinal_injective (by omega)) (Clock.ext_inHour ?_ hin)
  exact Fin.ext (by omega)

instance : LinearOrder DateTime := LinearOrder.lift' key key_injective

theorem le_def : t ≤ t' ↔ t.hours < t'.hours ∨ t.hours = t'.hours ∧ t.clock.inHour ≤ t'.clock.inHour :=
  Prod.Lex.toLex_le_toLex

theorem lt_def : t < t' ↔ t.hours < t'.hours ∨ t.hours = t'.hours ∧ t.clock.inHour < t'.clock.inHour :=
  Prod.Lex.toLex_lt_toLex

theorem hours_le_of_le (h : t ≤ t') : t.hours ≤ t'.hours := by
  rcases le_def.mp h with hlt | ⟨heq, -⟩
  · exact hlt.le
  · exact heq.le

theorem le_iff_of_inHour (h : t.clock.inHour = 0) : t ≤ t' ↔ t.hours ≤ t'.hours := by
  rw [le_def, h]
  omega

theorem lt_iff_of_inHour (h : t.clock.inHour = 0) (h' : t'.clock.inHour = 0) : t < t' ↔ t.hours < t'.hours := by
  rw [lt_def, h, h']
  omega

end DateTime

end Lib.Calendar
