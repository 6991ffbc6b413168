import FunnelDispenser.Time.Calendar

/-!
# Making and breaking times

`makeTime` puts together what `breakTime` takes apart: every second of the
32-bit clock has a date of its own, and every date the clock reaches is the
date of one second.
-/

namespace FunnelDispenser.Time

open CMemory Decimal

/-- `tmElements_t`; `year` counts from 1970. -/
@[ext]
structure TmElements where
  second : BitVec 8
  minute : BitVec 8
  hour : BitVec 8
  wday : BitVec 8
  day : BitVec 8
  month : BitVec 8
  year : BitVec 8
deriving DecidableEq, Repr

/-- `weekday(t)`; Sunday is day 1. -/
def calendarWeekday (time : BitVec 32) : Nat :=
  (time.toNat / 86400 + 4) % 7 + 1

def breakTime (time : BitVec 32) : TmElements where
  second := BitVec.ofNat 8 (calendarSecond time)
  minute := BitVec.ofNat 8 (calendarMinute time)
  hour := BitVec.ofNat 8 (calendarHour time)
  wday := BitVec.ofNat 8 (calendarWeekday time)
  day := BitVec.ofNat 8 (calendarDay time)
  month := BitVec.ofNat 8 (calendarMonth time)
  year := BitVec.ofNat 8 (calendarYear time - 1970)

abbrev secsPerDay : BitVec 32 := 86400

/-- The first loop of `makeTime`: a day for each leap year. -/
def addLeapDays (year : Nat) (seconds : BitVec 32) : BitVec 32 :=
  (List.range year).foldl
    (fun seconds i => if leapYear i then seconds + secsPerDay else seconds)
    seconds

/-- The second loop of `makeTime`: the months before `month`, from 1 on. -/
def addMonths (year month : Nat) (seconds : BitVec 32) : BitVec 32 :=
  (List.range' 1 (month - 1)).foldl
    (fun seconds i =>
      if i = 2 && leapYear year then
        seconds + secsPerDay * 29
      else
        seconds + secsPerDay * BitVec.ofNat 32 (monthDays.getD (i - 1) 0))
    seconds

def makeTime (tm : TmElements) : BitVec 32 :=
  let ofYears := addLeapDays tm.year.toNat
    (tm.year.setWidth 32 * (secsPerDay * 365))
  let ofMonths := addMonths tm.year.toNat tm.month.toNat ofYears
  ofMonths + (tm.day.setWidth 32 - 1) * secsPerDay +
    tm.hour.setWidth 32 * 3600 + tm.minute.setWidth 32 * 60 +
    tm.second.setWidth 32

theorem addLeapDays_eq (year : Nat) (seconds : BitVec 32) :
    addLeapDays year seconds =
      seconds +
        BitVec.ofNat 32 (86400 * (daysBefore year - 365 * year)) := by
  induction year with
  | zero => simp [addLeapDays, daysBefore]
  | succ year inductionHypothesis =>
      have days := le_daysBefore year
      have step : addLeapDays (year + 1) seconds =
          if leapYear year then addLeapDays year seconds + secsPerDay
          else addLeapDays year seconds := by
        rw [addLeapDays, List.range_succ, List.foldl_append]
        rfl
      rw [step, inductionHypothesis, daysBefore, daysOfYear]
      split
      · have more : 86400 * (daysBefore year + 366 - 365 * (year + 1)) =
            86400 * (daysBefore year - 365 * year) + 86400 := by omega
        rw [more, BitVec.ofNat_add, BitVec.add_assoc]
        rfl
      · have same : 86400 * (daysBefore year + 365 - 365 * (year + 1)) =
            86400 * (daysBefore year - 365 * year) := by omega
        rw [same]

theorem daysOfMonths_snoc (year rounds month : Nat) :
    daysOfMonths year (rounds + 1) month =
      daysOfMonths year rounds month + monthLength year (month + rounds) := by
  induction rounds generalizing month with
  | zero => simp [daysOfMonths]
  | succ rounds inductionHypothesis =>
      have next : month + 1 + rounds = month + (rounds + 1) := by omega
      rw [daysOfMonths, inductionHypothesis (month + 1), next]
      conv_rhs => rw [daysOfMonths]
      omega

/-- What one round of the second loop adds. -/
theorem monthSeconds_eq (year month : Nat) :
    (if month + 1 = 2 && leapYear year then
        secsPerDay * 29
      else
        secsPerDay * BitVec.ofNat 32 (monthDays.getD month 0)) =
      BitVec.ofNat 32 (86400 * monthLength year month) := by
  unfold monthLength
  by_cases february : month = 1
  · subst february
    cases leapYear year <;> decide
  · have other : (decide (month + 1 = 2) && leapYear year) = false := by
      simp [february]
    rw [other, if_neg february, BitVec.ofNat_mul]
    rfl

theorem addMonths_eq (year months : Nat) (seconds : BitVec 32) :
    addMonths year (months + 1) seconds =
      seconds + BitVec.ofNat 32 (86400 * daysOfMonths year months 0) := by
  induction months with
  | zero => simp [addMonths, daysOfMonths]
  | succ months inductionHypothesis =>
      have step : addMonths year (months + 2) seconds =
          addMonths year (months + 1) seconds +
            (if months + 1 = 2 && leapYear year then
              secsPerDay * 29
            else
              secsPerDay * BitVec.ofNat 32 (monthDays.getD months 0)) := by
        simp only [addMonths, Nat.add_sub_cancel, Nat.reduceSubDiff,
          List.range'_1_concat, List.foldl_append, List.foldl_cons,
          List.foldl_nil, Nat.add_comm 1 months]
        split <;> rfl
      rw [step, inductionHypothesis, monthSeconds_eq, BitVec.add_assoc,
        ← BitVec.ofNat_add, ← Nat.mul_add, daysOfMonths_snoc, Nat.zero_add]

namespace TmElements

def daysBefore (tm : TmElements) : Nat :=
  Time.daysBefore tm.year.toNat +
    daysOfMonths tm.year.toNat (tm.month.toNat - 1) 0 + (tm.day.toNat - 1)

/-- The seconds before the date, on a clock that does not wrap. -/
def secondsBefore (tm : TmElements) : Nat :=
  86400 * tm.daysBefore + 3600 * tm.hour.toNat + 60 * tm.minute.toNat +
    tm.second.toNat

/-- A date of the calendar that the clock reaches, with its weekday. -/
structure OnClock (tm : TmElements) : Prop where
  month : 1 ≤ tm.month.toNat ∧ tm.month.toNat ≤ 12
  day : 1 ≤ tm.day.toNat ∧
    tm.day.toNat ≤ monthLength tm.year.toNat (tm.month.toNat - 1)
  hour : tm.hour.toNat < 24
  minute : tm.minute.toNat < 60
  second : tm.second.toNat < 60
  wday : tm.wday.toNat = (tm.daysBefore + 4) % 7 + 1
  reached : tm.secondsBefore < 2 ^ 32

end TmElements

theorem setWidth_eq_ofNat (field : BitVec 8) :
    field.setWidth 32 = BitVec.ofNat 32 field.toNat :=
  BitVec.eq_of_toNat_eq (by simp)

theorem makeTime_eq {tm : TmElements} (month : 1 ≤ tm.month.toNat)
    (day : 1 ≤ tm.day.toNat) :
    makeTime tm = BitVec.ofNat 32 tm.secondsBefore := by
  obtain ⟨months, monthEq⟩ : ∃ months, tm.month.toNat = months + 1 :=
    ⟨tm.month.toNat - 1, by omega⟩
  have days : tm.day.setWidth 32 - 1 =
      BitVec.ofNat 32 (tm.day.toNat - 1) := by
    rw [setWidth_eq_ofNat, show (1 : BitVec 32) = BitVec.ofNat 32 1 from rfl,
      BitVec.ofNat_sub_ofNat_of_le _ _ (by decide) day]
  have factor : ∀ count, BitVec.ofNat 32 count * secsPerDay =
      BitVec.ofNat 32 (86400 * count) := by
    intro count
    rw [Nat.mul_comm, BitVec.ofNat_mul]
    rfl
  have years : BitVec.ofNat 32 tm.year.toNat * (secsPerDay * 365) =
      BitVec.ofNat 32 (86400 * (365 * tm.year.toNat)) := by
    rw [Nat.mul_comm 365, ← factor, BitVec.ofNat_mul, BitVec.mul_assoc,
      BitVec.mul_comm secsPerDay]
    rfl
  have leaps := le_daysBefore tm.year.toNat
  rw [makeTime, monthEq, addMonths_eq, addLeapDays_eq, days, factor]
  simp only [setWidth_eq_ofNat, years]
  rw [show (3600 : BitVec 32) = BitVec.ofNat 32 3600 from rfl,
    show (60 : BitVec 32) = BitVec.ofNat 32 60 from rfl]
  simp only [← BitVec.ofNat_mul, ← BitVec.ofNat_add]
  congr 1
  simp only [TmElements.secondsBefore, TmElements.daysBefore, monthEq,
    Nat.add_sub_cancel]
  omega

theorem daysOfMonths_mono (year month : Nat) {fewer more : Nat}
    (order : fewer ≤ more) :
    daysOfMonths year fewer month ≤ daysOfMonths year more month := by
  induction order with
  | refl => exact Nat.le_refl _
  | step _ inductionHypothesis =>
      rw [daysOfMonths_snoc]
      exact Nat.le_trans inductionHypothesis (Nat.le_add_right _ _)

/-- A day of some month left is found in that month. -/
theorem breakMonth_eq (year months rounds month day : Nat)
    (further : months < rounds)
    (inside : day < monthLength year (month + months)) :
    breakMonth year rounds month (daysOfMonths year months month + day) =
      (month + months, day) := by
  induction months generalizing rounds month with
  | zero =>
      obtain ⟨others, rfl⟩ : ∃ others, rounds = others + 1 :=
        ⟨rounds - 1, by omega⟩
      have stops : ¬monthLength year month ≤ day := Nat.not_le_of_lt inside
      rw [daysOfMonths, Nat.zero_add, breakMonth, if_neg stops]
      rfl
  | succ months inductionHypothesis =>
      obtain ⟨others, rfl⟩ : ∃ others, rounds = others + 1 :=
        ⟨rounds - 1, by omega⟩
      have next : month + (months + 1) = month + 1 + months := by omega
      have rest : daysOfMonths year (months + 1) month + day -
          monthLength year month =
            daysOfMonths year months (month + 1) + day := by
        rw [daysOfMonths]
        omega
      rw [breakMonth, if_pos (by rw [daysOfMonths]; omega), rest,
        inductionHypothesis others (month + 1) (by omega) (next ▸ inside),
        next]

theorem breakMonth_sum (year rounds month days : Nat) :
    ∃ months, (breakMonth year rounds month days).1 = month + months ∧
      days = daysOfMonths year months month +
        (breakMonth year rounds month days).2 := by
  induction rounds generalizing month days with
  | zero => exact ⟨0, rfl, (Nat.zero_add _).symm⟩
  | succ rounds inductionHypothesis =>
      by_cases further : monthLength year month ≤ days
      · obtain ⟨months, at_, sum⟩ := inductionHypothesis (month + 1)
          (days - monthLength year month)
        rw [breakMonth, if_pos further]
        refine ⟨months + 1, by omega, ?_⟩
        rw [daysOfMonths]
        omega
      · rw [breakMonth, if_neg further]
        exact ⟨0, rfl, (Nat.zero_add _).symm⟩

theorem breakTime_toNat (time : BitVec 32) :
    (breakTime time).year.toNat = calendarYear time - 1970 ∧
      (breakTime time).month.toNat = calendarMonth time ∧
      (breakTime time).day.toNat = calendarDay time ∧
      (breakTime time).hour.toNat = calendarHour time ∧
      (breakTime time).minute.toNat = calendarMinute time ∧
      (breakTime time).second.toNat = calendarSecond time ∧
      (breakTime time).wday.toNat = calendarWeekday time := by
  have year := calendarYear_le time
  have months := brokenMonth_bounds time
  simp only [breakTime, BitVec.toNat_ofNat]
  unfold calendarHour calendarMinute calendarSecond calendarWeekday
  omega

/-- The days of a time are those of its years, its months and its month. -/
theorem days_eq (time : BitVec 32) :
    time.toNat / 86400 =
      daysBefore (calendarYear time - 1970) +
        daysOfMonths (calendarYear time - 1970) (calendarMonth time - 1) 0 +
        (calendarDay time - 1) := by
  obtain ⟨months, passed, sum⟩ :=
    breakMonth_sum (calendarYear time - 1970) 12 0 (dayOfYear time)
  have reached := (le_calendarYear_iff time (calendarYear time - 1970)).mp
    (by have := calendarYear_ge time; omega)
  have month : calendarMonth time - 1 = months := by
    simp only [calendarMonth, brokenMonth, passed]
    omega
  have day : calendarDay time - 1 =
      (breakMonth (calendarYear time - 1970) 12 0 (dayOfYear time)).2 := by
    simp only [calendarDay, brokenMonth, Nat.add_sub_cancel]
  rw [month, day]
  rw [dayOfYear] at sum ⊢
  omega

theorem daysBefore_breakTime (time : BitVec 32) :
    (breakTime time).daysBefore = time.toNat / 86400 := by
  obtain ⟨year, month, day, -⟩ := breakTime_toNat time
  rw [TmElements.daysBefore, year, month, day, days_eq]

theorem secondsBefore_breakTime (time : BitVec 32) :
    (breakTime time).secondsBefore = time.toNat := by
  obtain ⟨-, -, -, hour, minute, second, -⟩ := breakTime_toNat time
  rw [TmElements.secondsBefore, daysBefore_breakTime, hour, minute, second,
    calendarHour, calendarMinute, calendarSecond]
  omega

theorem breakTime_onClock (time : BitVec 32) :
    (breakTime time).OnClock := by
  obtain ⟨year, month, day, hour, minute, second, wday⟩ :=
    breakTime_toNat time
  have months := breakMonth_bounds (calendarYear time - 1970) 12 0
    (dayOfYear time) (by rw [daysOfMonths_year]; exact dayOfYear_lt time)
  constructor
  case month =>
    rw [month, calendarMonth, brokenMonth]
    omega
  case day =>
    rw [year, month, day, calendarMonth, calendarDay, brokenMonth,
      Nat.add_sub_cancel]
    omega
  case hour =>
    rw [hour, calendarHour]
    omega
  case minute =>
    rw [minute, calendarMinute]
    omega
  case second =>
    rw [second, calendarSecond]
    omega
  case wday => rw [wday, daysBefore_breakTime, calendarWeekday]
  case reached =>
    rw [secondsBefore_breakTime]
    exact time.isLt

namespace TmElements.OnClock

variable {tm : TmElements} (onClock : tm.OnClock)
include onClock

theorem toNat_makeTime : (makeTime tm).toNat = tm.secondsBefore := by
  rw [makeTime_eq onClock.month.1 onClock.day.1, BitVec.toNat_ofNat,
    Nat.mod_eq_of_lt onClock.reached]

theorem days_makeTime : (makeTime tm).toNat / 86400 = tm.daysBefore := by
  have hour := onClock.hour
  have minute := onClock.minute
  have second := onClock.second
  rw [onClock.toNat_makeTime, secondsBefore]
  omega

theorem dayOfYear_lt :
    daysOfMonths tm.year.toNat (tm.month.toNat - 1) 0 + (tm.day.toNat - 1) <
      daysOfYear tm.year.toNat := by
  have month := onClock.month
  have day := onClock.day
  have ends : daysOfMonths tm.year.toNat (tm.month.toNat - 1 + 1) 0 ≤
      daysOfMonths tm.year.toNat 12 0 := daysOfMonths_mono _ _ (by omega)
  rw [daysOfMonths_snoc, Nat.zero_add, daysOfMonths_year] at ends
  omega

theorem calendarYear_makeTime :
    calendarYear (makeTime tm) = 1970 + tm.year.toNat := by
  have inside := onClock.dayOfYear_lt
  have reached := (le_calendarYear_iff (makeTime tm) tm.year.toNat).mpr
    (by rw [onClock.days_makeTime, daysBefore]; omega)
  have ended := mt (le_calendarYear_iff (makeTime tm) (tm.year.toNat + 1)).mp
    (by rw [onClock.days_makeTime, daysBefore, Time.daysBefore]; omega)
  omega

theorem brokenMonth_makeTime :
    brokenMonth (makeTime tm) = (tm.month.toNat - 1, tm.day.toNat - 1) := by
  have month := onClock.month
  have day := onClock.day
  have days : dayOfYear (makeTime tm) =
      daysOfMonths tm.year.toNat (tm.month.toNat - 1) 0 +
        (tm.day.toNat - 1) := by
    rw [dayOfYear, onClock.days_makeTime, onClock.calendarYear_makeTime,
      Nat.add_sub_cancel_left, daysBefore]
    omega
  have found := breakMonth_eq tm.year.toNat (tm.month.toNat - 1) 12 0
    (tm.day.toNat - 1) (by omega) (by rw [Nat.zero_add]; omega)
  rw [brokenMonth, onClock.calendarYear_makeTime, Nat.add_sub_cancel_left,
    days, found, Nat.zero_add]

theorem breakTime_makeTime : breakTime (makeTime tm) = tm := by
  have month := onClock.month
  have day := onClock.day
  have hour := onClock.hour
  have minute := onClock.minute
  have second := onClock.second
  have sum := onClock.toNat_makeTime
  rw [secondsBefore] at sum
  obtain ⟨yearEq, monthEq, dayEq, hourEq, minuteEq, secondEq, wdayEq⟩ :=
    breakTime_toNat (makeTime tm)
  rw [onClock.calendarYear_makeTime] at yearEq
  rw [calendarMonth, onClock.brokenMonth_makeTime] at monthEq
  rw [calendarDay, onClock.brokenMonth_makeTime] at dayEq
  rw [calendarWeekday, onClock.days_makeTime, ← onClock.wday] at wdayEq
  rw [calendarHour] at hourEq
  rw [calendarMinute] at minuteEq
  rw [calendarSecond] at secondEq
  apply TmElements.ext <;> apply BitVec.eq_of_toNat_eq <;> omega

end TmElements.OnClock

/-- The seconds of the 32-bit clock and the dates it reaches are in bijection:
`breakTime` and `makeTime` undo each other. -/
theorem breakTime_eq_iff (time : BitVec 32) (tm : TmElements) :
    breakTime time = tm ↔ tm.OnClock ∧ makeTime tm = time := by
  constructor
  · rintro rfl
    have onClock := breakTime_onClock time
    refine ⟨onClock, BitVec.eq_of_toNat_eq ?_⟩
    rw [onClock.toNat_makeTime, secondsBefore_breakTime]
  · rintro ⟨onClock, rfl⟩
    exact onClock.breakTime_makeTime

end FunnelDispenser.Time
