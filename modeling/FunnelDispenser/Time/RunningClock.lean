import FunnelDispenser.Time.DateRoundTrip

/-!
# The clock behind the field calls

A field call counts the full seconds since the last call, synchronises when
that is due, and looks the field up through a cache of one broken time.  Over
any run of calls the seconds are those elapsed since the clock was last set,
however often it was asked between.  The cache shows in the first second
only: it starts with time 0 and elements that were never broken.
-/

namespace FunnelDispenser.Time

open CMemory

inductive Field where
  | hour
  | minute
  | second
  | day
  | weekday
  | month
  | year
deriving DecidableEq, Repr

/-- What the field's function returns from `tm`. -/
def Field.of (tm : TmElements) : Field → Nat
  | .hour => tm.hour.toNat
  | .minute => tm.minute.toNat
  | .second => tm.second.toNat
  | .day => tm.day.toNat
  | .weekday => tm.wday.toNat
  | .month => tm.month.toNat
  | .year => tm.year.toNat + 1970

structure TimeCache where
  tm : TmElements
  cacheTime : BitVec 32
deriving DecidableEq, Repr

/-- Static storage starts as zeros. -/
def TimeCache.initial : TimeCache where
  tm := ⟨0, 0, 0, 0, 0, 0, 0⟩
  cacheTime := 0

def refreshCache (time : BitVec 32) (cache : TimeCache) : TimeCache :=
  if time ≠ cache.cacheTime then
    { tm := breakTime time, cacheTime := time }
  else
    cache

/-- A field function and the time it is called with. -/
abbrev LookUp := Field × BitVec 32

def answersFrom : TimeCache → List LookUp → List Nat
  | _, [] => []
  | cache, lookUp :: rest =>
      let refreshed := refreshCache lookUp.2 cache
      lookUp.1.of refreshed.tm :: answersFrom refreshed rest

/-- The field of the time a call is made with. -/
def LookUp.exact (lookUp : LookUp) : Nat :=
  lookUp.1.of (breakTime lookUp.2)

/-- The cache holds the elements of its time. -/
def TimeCache.Coherent (cache : TimeCache) : Prop :=
  cache.tm = breakTime cache.cacheTime

theorem refreshCache_coherent {cache : TimeCache}
    (coherent : cache.Coherent) (time : BitVec 32) :
    (refreshCache time cache).Coherent ∧
      (refreshCache time cache).tm = breakTime time := by
  by_cases other : time ≠ cache.cacheTime
  · rw [refreshCache, if_pos other]
    exact ⟨rfl, rfl⟩
  · rw [refreshCache, if_neg other]
    refine ⟨coherent, ?_⟩
    rw [coherent, ← Decidable.not_not.mp other]

theorem answersFrom_of_coherent {cache : TimeCache}
    (coherent : cache.Coherent) (lookUps : List LookUp) :
    answersFrom cache lookUps = lookUps.map LookUp.exact := by
  induction lookUps generalizing cache with
  | nil => rfl
  | cons lookUp rest inductionHypothesis =>
      have refreshed := refreshCache_coherent coherent lookUp.2
      rw [answersFrom, inductionHypothesis refreshed.1, refreshed.2]
      rfl

/-- The fields that are 0 in the first second, as in a cache never filled;
`year` counts from 1970 in both. -/
def Field.startsAtZero : Field → Bool
  | .day | .weekday | .month => false
  | .hour | .minute | .second | .year => true

/-- Calls of the first second ask for no field that starts at 1. -/
def SparesFirstSecond : List LookUp → Prop
  | [] => True
  | lookUp :: rest =>
      lookUp.2 = 0 → lookUp.1.startsAtZero = true ∧ SparesFirstSecond rest

theorem exact_zero_iff (field : Field) :
    field.of TimeCache.initial.tm = LookUp.exact (field, 0) ↔
      field.startsAtZero = true := by
  cases field <;> decide

/-- The fresh cache answers exactly unless it is asked for a day, a weekday or
a month before the clock has left its first second. -/
theorem answersFrom_initial_iff (lookUps : List LookUp) :
    answersFrom .initial lookUps = lookUps.map LookUp.exact ↔
      SparesFirstSecond lookUps := by
  induction lookUps with
  | nil => exact ⟨fun _ => trivial, fun _ => rfl⟩
  | cons lookUp rest inductionHypothesis =>
      obtain ⟨field, time⟩ := lookUp
      by_cases first : time = 0
      · subst first
        have unchanged : refreshCache 0 .initial = .initial := rfl
        rw [answersFrom, unchanged, List.map_cons, List.cons.injEq,
          exact_zero_iff, inductionHypothesis]
        exact ⟨fun spared _ => spared, fun spared => spared rfl⟩
      · have filled : refreshCache time .initial = ⟨breakTime time, time⟩ :=
          if_pos first
        rw [answersFrom, filled, answersFrom_of_coherent (by rfl)]
        exact ⟨fun _ zero => absurd zero first, fun _ => rfl⟩

inductive Request where
  | field (field : Field)
  | synchronize
deriving DecidableEq, Repr

/-- A call with what it meets.  Its moments count the milliseconds since boot
without the wrap of `millis()`: the one its counting loop ends at, and the one
a reply is set at. -/
structure ClockCall where
  request : Request
  asked : Nat
  answered : Nat
  reply : Option Bytes
  ordered : asked ≤ answered

namespace ClockCall

def millis (call : ClockCall) : BitVec 32 :=
  BitVec.ofNat 32 call.asked

def sync (call : ClockCall) : SyncInput :=
  ⟨call.reply, BitVec.ofNat 32 call.answered⟩

end ClockCall

/-- `year()` and the other fields ask `now()`; `synchronize` stands for
`setSyncProvider(getNtpTime); setSyncInterval(300);`. -/
def TimeLib.serve (clock : TimeLib) (call : ClockCall) : TimeLib :=
  match call.request with
  | .field _ => now call.millis call.sync clock
  | .synchronize =>
      setSyncInterval 300 (setSyncProvider call.millis call.sync clock)

def clockAnswers : List ClockCall → TimeLib → TimeCache → List Nat
  | [], _, _ => []
  | call :: rest, clock, cache =>
      let served := clock.serve call
      match call.request with
      | .field field =>
          let refreshed := refreshCache served.sysTime cache
          field.of refreshed.tm :: clockAnswers rest served refreshed
      | .synchronize => clockAnswers rest served cache

/-- A clock that knows when it was set and to which second, and when it was
last looked at. -/
structure IdealClock where
  setTo : BitVec 32
  setAt : Nat
  seen : Nat
  nextSyncTime : BitVec 32
  syncInterval : BitVec 32
  providerSet : Bool
deriving DecidableEq, Repr

namespace IdealClock

def boot : IdealClock where
  setTo := 0
  setAt := 0
  seen := 0
  nextSyncTime := 0
  syncInterval := 300
  providerSet := false

/-- The seconds since the clock was set, all of them full. -/
def elapsed (clock : IdealClock) : Nat :=
  (clock.seen - clock.setAt) / 1000

/-- The time the clock was last seen to show. -/
def time (clock : IdealClock) : BitVec 32 :=
  clock.setTo + BitVec.ofNat 32 clock.elapsed

def look (moment : Nat) (clock : IdealClock) : IdealClock :=
  { clock with seen := moment }

def set (time : BitVec 32) (moment : Nat) (clock : IdealClock) :
    IdealClock :=
  { clock with
    setTo := time
    setAt := moment
    seen := moment
    nextSyncTime := time + clock.syncInterval }

/-- A clock that has just been looked at synchronises when that is due. -/
def synchronizeIfDue (call : ClockCall) (clock : IdealClock) : IdealClock :=
  if clock.nextSyncTime ≤ clock.time && clock.providerSet then
    if getNtpTime call.reply ≠ 0 then
      clock.set (getNtpTime call.reply) call.answered
    else
      { clock with nextSyncTime := clock.time + clock.syncInterval }
  else
    clock

/-- The new interval starts at the time last seen. -/
def every (interval : BitVec 32) (clock : IdealClock) : IdealClock :=
  { clock with
    syncInterval := interval
    nextSyncTime := clock.time + interval }

def serve (clock : IdealClock) (call : ClockCall) : IdealClock :=
  match call.request with
  | .field _ => (clock.look call.asked).synchronizeIfDue call
  | .synchronize =>
      let provided :=
        { clock with providerSet := true, nextSyncTime := clock.time }
      ((provided.look call.asked).synchronizeIfDue call).every 300

/-- The fields the calls of a run ask for, each with the time it is of. -/
def lookUps : List ClockCall → IdealClock → List LookUp
  | [], _ => []
  | call :: rest, clock =>
      let served := clock.serve call
      match call.request with
      | .field field => (field, served.time) :: lookUps rest served
      | .synchronize => lookUps rest served

/-- No call comes more than some 49 days behind the last look at the clock,
which is all that `millis()` can tell apart. -/
def Timely : List ClockCall → IdealClock → Prop
  | [], _ => True
  | call :: rest, clock =>
      clock.seen ≤ call.asked ∧
        call.asked ≤ clock.seen + (2 ^ 32 - 1000) ∧
        Timely rest (clock.serve call)

/-- What the library keeps of the clock: `prevMillis` is the moment its last
full second ended. -/
def shown (clock : IdealClock) : TimeLib where
  sysTime := clock.time
  prevMillis := BitVec.ofNat 32 (clock.setAt + 1000 * clock.elapsed)
  nextSyncTime := clock.nextSyncTime
  syncInterval := clock.syncInterval
  providerSet := clock.providerSet

/-- A clock is seen after it is set. -/
def Ordered (clock : IdealClock) : Prop :=
  clock.setAt ≤ clock.seen

/-- The loop counts the seconds that ended since the last look; the rest of
the running second stays for the next. -/
theorem countSeconds_shown {clock : IdealClock} (ordered : clock.Ordered)
    {moment : Nat} (later : clock.seen ≤ moment)
    (near : moment ≤ clock.seen + (2 ^ 32 - 1000)) :
    countSeconds
        ((BitVec.ofNat 32 moment - clock.shown.prevMillis).toNat / 1000)
        clock.shown =
      (clock.look moment).shown := by
  have since : clock.setAt ≤ clock.seen := ordered
  have waiting :
      (BitVec.ofNat 32 moment - clock.shown.prevMillis).toNat =
        moment - (clock.setAt + 1000 * clock.elapsed) := by
    have ended : clock.setAt + 1000 * clock.elapsed ≤ clock.seen := by
      unfold elapsed
      omega
    have recent : clock.seen < clock.setAt + 1000 * clock.elapsed + 1000 := by
      unfold elapsed
      omega
    simp only [shown, BitVec.toNat_sub, BitVec.toNat_ofNat]
    omega
  have seconds : clock.elapsed +
      (moment - (clock.setAt + 1000 * clock.elapsed)) / 1000 =
        (clock.look moment).elapsed := by
    simp only [elapsed, look]
    omega
  rw [waiting, countSeconds_eq]
  simp only [shown, time, BitVec.add_assoc, ← BitVec.ofNat_add, seconds,
    Nat.add_assoc, ← Nat.mul_add]
  rfl

theorem shown_set (time : BitVec 32) (moment : Nat) (clock : IdealClock) :
    (clock.set time moment).shown =
      setTime time (BitVec.ofNat 32 moment) clock.shown := by
  simp [shown, set, setTime, IdealClock.time, elapsed]

theorem now_shown {clock : IdealClock} (ordered : clock.Ordered)
    {call : ClockCall} (later : clock.seen ≤ call.asked)
    (near : call.asked ≤ clock.seen + (2 ^ 32 - 1000)) :
    now call.millis call.sync clock.shown =
      ((clock.look call.asked).synchronizeIfDue call).shown := by
  have counted := countSeconds_shown ordered later near
  simp only [now, ClockCall.millis, counted]
  unfold synchronizeIfDue
  split
  · rename_i due
    have dueThere : ((clock.look call.asked).nextSyncTime ≤
        (clock.look call.asked).time &&
          (clock.look call.asked).providerSet) = true := due
    rw [if_pos dueThere]
    split
    · rename_i replied
      have repliedThere : getNtpTime call.reply ≠ 0 := replied
      rw [if_pos repliedThere, shown_set]
      rfl
    · rename_i silent
      have silentThere : ¬getNtpTime call.reply ≠ 0 := silent
      rw [if_neg silentThere]
      rfl
  · rename_i early
    have earlyThere : ¬((clock.look call.asked).nextSyncTime ≤
        (clock.look call.asked).time &&
          (clock.look call.asked).providerSet) = true := early
    rw [if_neg earlyThere]

theorem ordered_synchronizeIfDue {clock : IdealClock}
    (ordered : clock.Ordered) (call : ClockCall) :
    (clock.synchronizeIfDue call).Ordered := by
  unfold synchronizeIfDue
  split
  · split
    · exact Nat.le_refl _
    · exact ordered
  · exact ordered

theorem serve_shown {clock : IdealClock} (ordered : clock.Ordered)
    {call : ClockCall} (later : clock.seen ≤ call.asked)
    (near : call.asked ≤ clock.seen + (2 ^ 32 - 1000)) :
    clock.shown.serve call = (clock.serve call).shown ∧
      (clock.serve call).Ordered := by
  have behind : (clock.look call.asked).Ordered := Nat.le_trans ordered later
  unfold TimeLib.serve serve
  cases call.request with
  | field field =>
      exact ⟨now_shown ordered later near,
        ordered_synchronizeIfDue behind call⟩
  | synchronize =>
      let provided :=
        { clock with providerSet := true, nextSyncTime := clock.time }
      have sameTimes : provided.Ordered := ordered
      have behindThere : (provided.look call.asked).Ordered := behind
      have synchronized : setSyncProvider call.millis call.sync clock.shown =
          ((provided.look call.asked).synchronizeIfDue call).shown :=
        now_shown sameTimes later near
      refine ⟨?_, ordered_synchronizeIfDue behindThere call⟩
      simp only [synchronized]
      rfl

/-- Whatever the run, its answers are those of the cache to the look-ups of
the ideal clock. -/
theorem clockAnswers_shown {calls : List ClockCall} {clock : IdealClock}
    (ordered : clock.Ordered) (timely : Timely calls clock)
    (cache : TimeCache) :
    clockAnswers calls clock.shown cache =
      answersFrom cache (lookUps calls clock) := by
  induction calls generalizing clock cache with
  | nil => rfl
  | cons call rest inductionHypothesis =>
      obtain ⟨later, near, timelyRest⟩ := timely
      obtain ⟨served, kept⟩ := serve_shown ordered later near
      cases asked : call.request with
      | field field =>
          simp only [clockAnswers, lookUps, asked, answersFrom, served,
            inductionHypothesis kept timelyRest]
          rfl
      | synchronize =>
          simp only [clockAnswers, lookUps, asked, served,
            inductionHypothesis kept timelyRest]

end IdealClock

/-- From boot on, every field call returns its field of the ideal clock's
time, exactly when none asks for a day, a weekday or a month in a first second
that starts at 0. -/
theorem clockAnswers_exact_iff {calls : List ClockCall}
    (timely : IdealClock.Timely calls .boot) :
    clockAnswers calls .initial .initial =
        (IdealClock.lookUps calls .boot).map LookUp.exact ↔
      SparesFirstSecond (IdealClock.lookUps calls .boot) := by
  have ordered : IdealClock.boot.Ordered := Nat.le_refl 0
  have refined := IdealClock.clockAnswers_shown ordered timely .initial
  have start : IdealClock.boot.shown = TimeLib.initial := rfl
  rw [← start, refined, answersFrom_initial_iff]

private def noonPacket : Bytes :=
  List.replicate 40 0 ++ [0xE0, 0x9C, 0xE7, 0x40] ++ List.replicate 4 0

/-- A silent server first, then the clock is set and asked 42 seconds later. -/
def setAndAsk : List ClockCall :=
  [⟨.synchronize, 2000, 3500, none, by omega⟩,
    ⟨.field .year, 3600, 3600, none, by omega⟩,
    ⟨.synchronize, 4000, 4100, some noonPacket, by omega⟩,
    ⟨.field .month, 46200, 46200, none, by omega⟩,
    ⟨.field .second, 46300, 46300, none, by omega⟩]

private theorem setAndAsk_timely : IdealClock.Timely setAndAsk .boot := by
  refine ⟨by decide, by decide, by decide, by decide, by decide, by decide,
    by decide, by decide, by decide, by decide, ?_⟩
  exact trivial

theorem setAndAsk_exact :
    clockAnswers setAndAsk .initial .initial =
      (IdealClock.lookUps setAndAsk .boot).map LookUp.exact := by
  apply (clockAnswers_exact_iff setAndAsk_timely).mpr
  intro first
  exact absurd first (by decide)

end FunnelDispenser.Time
