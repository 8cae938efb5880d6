import Mathlib.Data.List.Basic
import Mathlib.Algebra.Order.Ring.Int
import Mathlib.Tactic.IntervalCases

/-!
# The Gregorian calendar

Dates of the proleptic Gregorian calendar, the instants they denote, in seconds since
1970-01-01, and `timegm`, which counts the seconds of a broken-down time whose fields need not
be in their usual ranges. `Date.instant_mem_year` places the instant of a date within its year,
and `timegm_le` bounds an unnormalised time from above.
-/

namespace Infra.Calendar

/-! ## Years and months -/

/-- A year with a 29th of February. -/
def isLeap (y : Int) : Bool := y % 4 = 0 && (y % 100 ≠ 0 || y % 400 = 0)

/-- The days from 1970-01-01 to the first day of the year. -/
def daysBeforeYear (y : Int) : Int :=
  365 * (y - 1970) + ((y - 1) / 4 - (y - 1) / 100 + (y - 1) / 400 - 477)

theorem daysBeforeYear_succ (y : Int) :
    daysBeforeYear (y + 1) = daysBeforeYear y + if isLeap y then 366 else 365 := by
  unfold daysBeforeYear isLeap
  split
  · next h =>
    simp only [Bool.and_eq_true, Bool.or_eq_true, decide_eq_true_eq] at h
    omega
  · next h =>
    simp only [Bool.and_eq_true, Bool.or_eq_true, decide_eq_true_eq, not_and_or, not_or] at h
    omega

/-- A later year starts at least a common year later. -/
theorem daysBeforeYear_add_le {y z : Int} (h : y < z) :
    daysBeforeYear y + 365 ≤ daysBeforeYear z := by
  unfold daysBeforeYear
  omega

/-- The days of the months of a common year. -/
def monthLengths : List Nat := [31, 28, 31, 30, 31, 30, 31, 31, 30, 31, 30, 31]

/-- The days of a month, counted from 1. -/
def daysInMonth (leap : Bool) (month : Nat) : Nat :=
  monthLengths.getD (month - 1) 0 + if leap = true ∧ month = 2 then 1 else 0

/-- The days of a year before a month, counted from 1. -/
def daysBeforeMonth (leap : Bool) (month : Nat) : Nat :=
  (monthLengths.take (month - 1)).sum + if leap = true ∧ 2 < month then 1 else 0

/-- A month ends within its year. -/
theorem daysBeforeMonth_add_daysInMonth_le (leap : Bool) {month : Nat}
    (h : 1 ≤ month ∧ month ≤ 12) :
    daysBeforeMonth leap month + daysInMonth leap month ≤ if leap = true then 366 else 365 := by
  obtain ⟨h₁, h₂⟩ := h
  interval_cases month <;> cases leap <;> decide

theorem daysInMonth_le (leap : Bool) {month : Nat} (h : 1 ≤ month ∧ month ≤ 12) :
    daysInMonth leap month ≤ 31 := by
  obtain ⟨h₁, h₂⟩ := h
  interval_cases month <;> cases leap <;> decide

theorem daysBeforeMonth_le (leap : Bool) {month : Nat} (h : 1 ≤ month ∧ month ≤ 12) :
    daysBeforeMonth leap month ≤ 335 := by
  obtain ⟨h₁, h₂⟩ := h
  interval_cases month <;> cases leap <;> decide

/-- A month starts where the one before it ends; the thirteenth is the next year. -/
theorem daysBeforeMonth_succ (leap : Bool) {month : Nat} (h : 1 ≤ month ∧ month ≤ 12) :
    daysBeforeMonth leap (month + 1) = daysBeforeMonth leap month + daysInMonth leap month := by
  obtain ⟨h₁, h₂⟩ := h
  interval_cases month <;> cases leap <;> decide

theorem daysBeforeMonth_thirteen (leap : Bool) :
    daysBeforeMonth leap 13 = if leap = true then 366 else 365 := by
  cases leap <;> decide

/-- Of successive slots one holds a given value. -/
theorem exists_slot {f : Nat → Int} {a k : Nat} {x : Int} (h₁ : f a ≤ x) (h₂ : x < f (a + k)) :
    ∃ n, a ≤ n ∧ n < a + k ∧ f n ≤ x ∧ x < f (n + 1) := by
  induction k with
  | zero =>
    rw [Nat.add_zero] at h₂
    omega
  | succ k ih =>
    by_cases hlt : x < f (a + k)
    · obtain ⟨n, ha, hk, hn⟩ := ih hlt
      exact ⟨n, ha, by omega, hn⟩
    · exact ⟨a + k, by omega, by omega, by omega, h₂⟩

/-! ## Dates -/

/-- A date and a time of day, to the second. -/
structure Date where
  year : Nat
  month : Nat
  day : Nat
  hour : Nat
  minute : Nat
  second : Nat
  month_mem : 1 ≤ month ∧ month ≤ 12
  day_mem : 1 ≤ day ∧ day ≤ daysInMonth (isLeap year) month
  hour_lt : hour < 24
  minute_lt : minute < 60
  second_lt : second < 60

namespace Date

/-- The instant a date denotes in UTC. -/
def instant (d : Date) : Int :=
  86400 * (daysBeforeYear d.year + daysBeforeMonth (isLeap d.year) d.month + (d.day - 1))
    + 3600 * d.hour + 60 * d.minute + d.second

theorem day_le (d : Date) : d.day ≤ 31 :=
  Nat.le_trans d.day_mem.2 (daysInMonth_le _ d.month_mem)

/-- The instant of a date lies in its year. -/
theorem instant_mem_year (d : Date) :
    86400 * daysBeforeYear d.year ≤ d.instant ∧
      d.instant < 86400 * daysBeforeYear (d.year + 1) := by
  have hm := daysBeforeMonth_add_daysInMonth_le (isLeap d.year) d.month_mem
  obtain ⟨hd₁, hd₂⟩ := d.day_mem
  have hh := d.hour_lt
  have hn := d.minute_lt
  have hs := d.second_lt
  rw [daysBeforeYear_succ]
  unfold instant
  constructor
  · omega
  · split at hm <;> split <;> omega

/-- The year of a date whose instant lies within some years. -/
theorem year_mem_of_instant {d : Date} {a b : Nat} (h₁ : 86400 * daysBeforeYear a ≤ d.instant)
    (h₂ : d.instant < 86400 * daysBeforeYear b) : a ≤ d.year ∧ d.year < b := by
  obtain ⟨hstart, hend⟩ := d.instant_mem_year
  constructor
  · by_contra hlt
    have hle : daysBeforeYear (d.year + 1) ≤ daysBeforeYear a := by
      by_cases heq : d.year + 1 = a
      · rw [← heq]
        exact Int.le_refl _
      · have := daysBeforeYear_add_le (show ((d.year : Int) + 1) < a by omega)
        omega
    omega
  · by_contra hge
    have hle : daysBeforeYear b ≤ daysBeforeYear d.year := by
      by_cases heq : b = d.year
      · rw [heq]
      · have := daysBeforeYear_add_le (show (b : Int) < d.year by omega)
        omega
    omega

/-- Every instant is that of a date: its year, month and day are found in their slots. -/
theorem exists_instant_eq {t : Int} {a k : Nat} (h₁ : 86400 * daysBeforeYear a ≤ t)
    (h₂ : t < 86400 * daysBeforeYear (a + k : Nat)) : ∃ d : Date, d.instant = t := by
  obtain ⟨y, hy₁, hy₂⟩ : ∃ y : Nat, daysBeforeYear y ≤ t / 86400 ∧
      t / 86400 < daysBeforeYear (y + 1 : Nat) := by
    obtain ⟨y, -, -, hy⟩ := exists_slot (f := fun y : Nat => daysBeforeYear y)
      (show daysBeforeYear a ≤ t / 86400 by omega)
      (show t / 86400 < daysBeforeYear (a + k : Nat) by omega)
    exact ⟨y, hy⟩
  rw [Int.natCast_add, Int.natCast_one, daysBeforeYear_succ] at hy₂
  obtain ⟨m, hm₁, hm₂, hday₁, hday₂⟩ : ∃ m : Nat, 1 ≤ m ∧ m < 1 + 12 ∧
      (daysBeforeMonth (isLeap y) m : Int) ≤ t / 86400 - daysBeforeYear y ∧
      t / 86400 - daysBeforeYear y < (daysBeforeMonth (isLeap y) (m + 1) : Int) := by
    have hfirst : daysBeforeMonth (isLeap y) 1 = 0 := by cases isLeap y <;> rfl
    refine exists_slot (f := fun m : Nat => (daysBeforeMonth (isLeap y) m : Int)) ?_ ?_
    · show ((daysBeforeMonth (isLeap y) 1 : Nat) : Int) ≤ _
      rw [hfirst]
      omega
    · show _ < ((daysBeforeMonth (isLeap y) 13 : Nat) : Int)
      rw [daysBeforeMonth_thirteen]
      split at hy₂ <;> split <;> first | contradiction | omega
  rw [daysBeforeMonth_succ _ ⟨hm₁, by omega⟩] at hday₂
  refine ⟨{
    year := y
    month := m
    day := (t / 86400 - daysBeforeYear y - daysBeforeMonth (isLeap y) m).toNat + 1
    hour := (t % 86400 / 3600).toNat
    minute := (t % 3600 / 60).toNat
    second := (t % 60).toNat
    month_mem := ⟨hm₁, by omega⟩
    day_mem := ⟨by omega, by omega⟩
    hour_lt := by omega
    minute_lt := by omega
    second_lt := by omega }, ?_⟩
  unfold instant
  simp only
  omega

end Date

/-! ## Broken-down times -/

/-- `struct tm`: the year is counted from 1900, the month from 0. -/
structure Tm where
  year : Int
  mon : Int
  mday : Int
  hour : Int
  min : Int
  sec : Int

/-- `timegm`: months beyond the year are carried over into it, the other fields just count. -/
def timegm (tm : Tm) : Int :=
  let year := 1900 + tm.year + tm.mon / 12
  let month := (tm.mon % 12).toNat + 1
  86400 * (daysBeforeYear year + daysBeforeMonth (isLeap year) month + (tm.mday - 1))
    + 3600 * tm.hour + 60 * tm.min + tm.sec

/-- The broken-down form of a date. -/
def Date.tm (d : Date) : Tm where
  year := d.year - 1900
  mon := d.month - 1
  mday := d.day
  hour := d.hour
  min := d.minute
  sec := d.second

/-- `timegm` gives the instant of a date. -/
theorem timegm_tm (d : Date) : timegm d.tm = d.instant := by
  obtain ⟨hm₁, hm₂⟩ := d.month_mem
  have hyear : 1900 + ((d.year : Int) - 1900) + ((d.month : Int) - 1) / 12 = d.year := by omega
  have hmonth : (((d.month : Int) - 1) % 12).toNat + 1 = d.month := by omega
  simp only [timegm, Date.tm, Date.instant, hyear, hmonth]

/-- An unnormalised time lies before the end of the day that its day of the month names, counted
from the last month of its year, plus what its time of day has in excess. -/
theorem timegm_le (tm : Tm) :
    timegm tm ≤ 86400 * (daysBeforeYear (1900 + tm.year + tm.mon / 12) + 335 + (tm.mday - 1))
      + 3600 * tm.hour + 60 * tm.min + tm.sec := by
  have hmem : 1 ≤ (tm.mon % 12).toNat + 1 ∧ (tm.mon % 12).toNat + 1 ≤ 12 := by omega
  have hm := daysBeforeMonth_le (isLeap (1900 + tm.year + tm.mon / 12)) hmem
  unfold timegm
  simp only
  omega

end Infra.Calendar
