import FunnelDispenser.Library.Decimal
import FunnelDispenser.Time.TimeLib

/-!
# The fields of a date

The rest of `breakTime`: the month, the day and the time of day.
-/

namespace FunnelDispenser.Time

open CMemory Decimal

def monthDays : List Nat :=
  [31, 28, 31, 30, 31, 30, 31, 31, 30, 31, 30, 31]

/-- The length of a month counted from 0, in a year counted from 1970. -/
def monthLength (year month : Nat) : Nat :=
  if month = 1 then
    if leapYear year then 29 else 28
  else
    monthDays.getD month 0

/-- The month loop of `breakTime`, with the months it has left: the month and
the days left in it. -/
def breakMonth (year : Nat) : Nat → Nat → Nat → Nat × Nat
  | 0, month, days => (month, days)
  | rounds + 1, month, days =>
      if monthLength year month ≤ days then
        breakMonth year rounds (month + 1) (days - monthLength year month)
      else
        (month, days)

/-- The days behind the turn of the year; the year loop has counted those of
the years before. -/
def dayOfYear (time : BitVec 32) : Nat :=
  time.toNat / 86400 - daysBefore (calendarYear time - 1970)

def brokenMonth (time : BitVec 32) : Nat × Nat :=
  breakMonth (calendarYear time - 1970) 12 0 (dayOfYear time)

def calendarMonth (time : BitVec 32) : Nat :=
  (brokenMonth time).1 + 1

def calendarDay (time : BitVec 32) : Nat :=
  (brokenMonth time).2 + 1

def calendarHour (time : BitVec 32) : Nat :=
  time.toNat / 60 / 60 % 24

def calendarMinute (time : BitVec 32) : Nat :=
  time.toNat / 60 % 60

def calendarSecond (time : BitVec 32) : Nat :=
  time.toNat % 60

/-- The days of `rounds` months from `month` on. -/
def daysOfMonths (year : Nat) : Nat → Nat → Nat
  | 0, _ => 0
  | rounds + 1, month =>
      monthLength year month + daysOfMonths year rounds (month + 1)

theorem daysOfMonths_year (year : Nat) :
    daysOfMonths year 12 0 = daysOfYear year := by
  unfold daysOfYear
  cases leap : leapYear year <;>
    simp [daysOfMonths, monthLength, monthDays, leap]

theorem monthLength_le (year month : Nat) : monthLength year month ≤ 31 := by
  unfold monthLength
  split
  · split <;> omega
  · rw [List.getD_eq_getElem?_getD]
    cases found : monthDays[month]? with
    | none => exact Nat.zero_le _
    | some days =>
        have longest : ∀ days ∈ monthDays, days ≤ 31 := by decide
        exact longest days (List.mem_of_getElem? found)

/-- The loop stops inside a month when there are fewer days than those of the
months left. -/
theorem breakMonth_bounds
    (year rounds month days : Nat)
    (inside : days < daysOfMonths year rounds month) :
    (breakMonth year rounds month days).1 < month + rounds ∧
      (breakMonth year rounds month days).2 <
        monthLength year (breakMonth year rounds month days).1 := by
  induction rounds generalizing month days with
  | zero => exact absurd inside (Nat.not_lt_zero _)
  | succ rounds inductionHypothesis =>
      by_cases further : monthLength year month ≤ days
      · have later := inductionHypothesis (month + 1)
          (days - monthLength year month)
          (by rw [daysOfMonths] at inside; omega)
        rw [breakMonth, if_pos further]
        exact ⟨by omega, later.2⟩
      · rw [breakMonth, if_neg further]
        exact ⟨by simp only; omega, Nat.lt_of_not_le further⟩

theorem dayOfYear_lt (time : BitVec 32) :
    dayOfYear time < daysOfYear (calendarYear time - 1970) := by
  have reached := calendarYear_ge time
  have lower := (le_calendarYear_iff time (calendarYear time - 1970)).mp
    (by omega)
  have upper := mt
    (le_calendarYear_iff time (calendarYear time - 1970 + 1)).mpr (by omega)
  rw [daysBefore] at upper
  rw [dayOfYear]
  omega

theorem le_daysBefore (year : Nat) : 365 * year ≤ daysBefore year := by
  induction year with
  | zero => exact Nat.le_refl _
  | succ year inductionHypothesis =>
      have days : 365 ≤ daysOfYear year := by
        unfold daysOfYear
        split <;> omega
      rw [daysBefore]
      omega

/-- The year of the last second a 32-bit clock counts.  The year counter of
`breakTime` is a byte and stays below 137. -/
theorem calendarYear_le (time : BitVec 32) : calendarYear time ≤ 2106 := by
  have last := mt (le_calendarYear_iff time 137).mp
  have days := le_daysBefore 137
  have bound := time.isLt
  omega

theorem brokenMonth_bounds (time : BitVec 32) :
    calendarMonth time ≤ 12 ∧ calendarDay time ≤ 31 := by
  have bounds := breakMonth_bounds (calendarYear time - 1970) 12 0
    (dayOfYear time) (by rw [daysOfMonths_year]; exact dayOfYear_lt time)
  have longest := monthLength_le (calendarYear time - 1970)
    (brokenMonth time).1
  simp only [calendarMonth, calendarDay]
  simp only [brokenMonth] at longest ⊢
  omega

end FunnelDispenser.Time
