import FunnelDispenser.Library.CMemory

/-!
# The clock

The NTP reply, the clock of TimeLib and its calendar year.  All of it is
32-bit arithmetic; `sysTime` counts seconds of the local zone.
-/

namespace FunnelDispenser.Time

open CMemory

/-- `timeZone * SECS_PER_HOUR`, a negative number wrapped to 32 bits. -/
def zoneShift : BitVec 32 := BitVec.ofInt 32 (-5 * 3600)

def ntpPacketSize : Nat := 48

/-- The seconds since 1900 in bytes 40 to 43 of a packet. -/
def secsSince1900 (packet : Bytes) : BitVec 32 :=
  BitVec.ofNat 32 (packet.getD 40 0).toNat <<< 24 |||
    BitVec.ofNat 32 (packet.getD 41 0).toNat <<< 16 |||
    BitVec.ofNat 32 (packet.getD 42 0).toNat <<< 8 |||
    BitVec.ofNat 32 (packet.getD 43 0).toNat

/-- `getNtpTime` for the packet that arrives in time; shorter ones are
skipped, and without a packet the result is 0. -/
def getNtpTime (reply : Option Bytes) : BitVec 32 :=
  match reply with
  | some packet =>
      if ntpPacketSize ≤ packet.length then
        secsSince1900 packet - 2208988800#32 + zoneShift
      else
        0
  | none => 0

/-- `LEAP_YEAR` of a year counted from 1970. -/
def leapYear (year : Nat) : Bool :=
  (1970 + year) % 4 = 0 &&
    ((1970 + year) % 100 ≠ 0 || (1970 + year) % 400 = 0)

def daysOfYear (year : Nat) : Nat :=
  if leapYear year then 366 else 365

/-- The year loop of `breakTime`: `days` are the days before `year`.  Every
round adds a year of days, so the days to break bound the rounds. -/
def breakYear : Nat → Nat → Nat → Nat → Nat
  | 0, year, _, _ => year
  | rounds + 1, year, days, time =>
      if days + daysOfYear year ≤ time then
        breakYear rounds (year + 1) (days + daysOfYear year) time
      else
        year

/-- The year `breakTime` finds.  `year(t)` looks it up through a cache, which
answers for time 0 before it was ever filled; the year is 1970 in both. -/
def calendarYear (time : BitVec 32) : Nat :=
  1970 + breakYear (time.toNat / 86400 + 1) 0 0 (time.toNat / 86400)

def daysBefore : Nat → Nat
  | 0 => 0
  | year + 1 => daysBefore year + daysOfYear year

theorem daysBefore_mono {left right : Nat} (order : left ≤ right) :
    daysBefore left ≤ daysBefore right := by
  induction order with
  | refl => exact Nat.le_refl _
  | step _ inductionHypothesis =>
      exact Nat.le_trans inductionHypothesis (Nat.le_add_right _ _)

theorem breakYear_bounds
    (rounds year time : Nat) (enough : time < daysBefore year + rounds)
    (started : daysBefore year ≤ time) :
    daysBefore (breakYear rounds year (daysBefore year) time) ≤ time ∧
      time < daysBefore
        (breakYear rounds year (daysBefore year) time + 1) := by
  induction rounds generalizing year with
  | zero => omega
  | succ rounds inductionHypothesis =>
      have positive : 1 ≤ daysOfYear year := by
        unfold daysOfYear
        split <;> omega
      by_cases further : daysBefore year + daysOfYear year ≤ time
      · rw [breakYear, if_pos further]
        exact inductionHypothesis (year + 1)
          (by rw [daysBefore]; omega) further
      · rw [breakYear, if_neg further]
        exact ⟨started, Nat.lt_of_not_le further⟩

/-- A year is reached exactly when all the days before it are over. -/
theorem le_calendarYear_iff (time : BitVec 32) (year : Nat) :
    1970 + year ≤ calendarYear time ↔
      daysBefore year ≤ time.toNat / 86400 := by
  obtain ⟨lower, upper⟩ :=
    breakYear_bounds (time.toNat / 86400 + 1) 0 (time.toNat / 86400)
      (by rw [daysBefore]; omega) (Nat.zero_le _)
  simp only [calendarYear, daysBefore] at lower upper ⊢
  constructor
  · intro reached
    exact Nat.le_trans (daysBefore_mono (by omega)) lower
  · intro elapsed
    by_contra early
    have later :
        daysBefore (breakYear (time.toNat / 86400 + 1) 0 0
          (time.toNat / 86400) + 1) ≤ daysBefore year :=
      daysBefore_mono (by omega)
    simp only [daysBefore] at later
    omega

theorem calendarYear_ge (time : BitVec 32) : 1970 ≤ calendarYear time :=
  Nat.le_add_right _ _

structure TimeLib where
  sysTime : BitVec 32
  prevMillis : BitVec 32
  nextSyncTime : BitVec 32
  syncInterval : BitVec 32
  providerSet : Bool
deriving DecidableEq, Repr

def TimeLib.initial : TimeLib where
  sysTime := 0
  prevMillis := 0
  nextSyncTime := 0
  syncInterval := 300
  providerSet := false

/-- The counting loop of `now()`, once for each full second. -/
def countSeconds : Nat → TimeLib → TimeLib
  | 0, clock => clock
  | seconds + 1, clock =>
      countSeconds seconds
        { clock with
          sysTime := clock.sysTime + 1
          prevMillis := clock.prevMillis + 1000 }

/-- What a synchronisation meets: the NTP reply, and the clock value when
the new time is set. -/
structure SyncInput where
  reply : Option Bytes
  setMillis : BitVec 32
deriving DecidableEq, Repr

def setTime (time setMillis : BitVec 32) (clock : TimeLib) : TimeLib :=
  { clock with
    sysTime := time
    nextSyncTime := time + clock.syncInterval
    prevMillis := setMillis }

/-- `now()`; `millis` is the clock value its counting loop ends at. -/
def now (millis : BitVec 32) (sync : SyncInput) (clock : TimeLib) :
    TimeLib :=
  let counted :=
    countSeconds ((millis - clock.prevMillis).toNat / 1000) clock
  if counted.nextSyncTime ≤ counted.sysTime && counted.providerSet then
    if getNtpTime sync.reply ≠ 0 then
      setTime (getNtpTime sync.reply) sync.setMillis counted
    else
      { counted with
        nextSyncTime := counted.sysTime + counted.syncInterval }
  else
    counted

def setSyncProvider (millis : BitVec 32) (sync : SyncInput)
    (clock : TimeLib) : TimeLib :=
  now millis sync
    { clock with providerSet := true, nextSyncTime := clock.sysTime }

def setSyncInterval (interval : BitVec 32) (clock : TimeLib) : TimeLib :=
  { clock with
    syncInterval := interval
    nextSyncTime := clock.sysTime + interval }

theorem countSeconds_eq (seconds : Nat) (clock : TimeLib) :
    countSeconds seconds clock =
      { clock with
        sysTime := clock.sysTime + BitVec.ofNat 32 seconds
        prevMillis :=
          clock.prevMillis + BitVec.ofNat 32 (1000 * seconds) } := by
  induction seconds generalizing clock with
  | zero => simp [countSeconds]
  | succ seconds inductionHypothesis =>
      have time : clock.sysTime + 1 + BitVec.ofNat 32 seconds =
          clock.sysTime + BitVec.ofNat 32 (seconds + 1) := by
        rw [BitVec.ofNat_add, BitVec.add_assoc,
          BitVec.add_comm (BitVec.ofNat 32 seconds)]
        rfl
      have millis : clock.prevMillis + 1000 +
            BitVec.ofNat 32 (1000 * seconds) =
          clock.prevMillis + BitVec.ofNat 32 (1000 * (seconds + 1)) := by
        rw [Nat.mul_add, BitVec.ofNat_add, BitVec.add_assoc,
          BitVec.add_comm (BitVec.ofNat 32 (1000 * seconds))]
        rfl
      rw [countSeconds, inductionHypothesis]
      simp only [time, millis]

end FunnelDispenser.Time
