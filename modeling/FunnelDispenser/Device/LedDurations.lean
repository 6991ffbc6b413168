import FunnelDispenser.Device.Commands
import FunnelDispenser.Library.Countdown

/-!
# How long a commanded LED is lit

`LedWatch` drives three countdowns from one timestamp.  It is called at
irregular times, and each call charges all countdowns with the time since the
last one ended, a countdown that a command has just set included.
-/

namespace FunnelDispenser.Device

open CMemory Countdown

theorem countDown_level (duration timeLapsed : BitVec 32) :
    (countDown duration timeLapsed).2 = decide (0 < duration.toInt) := by
  by_cases left : 0 < duration.toInt
  · rw [countDown, if_pos left, decide_eq_true left]
  · rw [countDown, if_neg left, decide_eq_false left]

inductive Led where
  | red
  | green
  | blue
deriving DecidableEq, Repr

namespace Led

def pin : Led → Nat
  | .red => redLed
  | .green => greenLed
  | .blue => blueLed

def name : Led → Bytes
  | .red => bytesOf "red"
  | .green => bytesOf "green"
  | .blue => bytesOf "blue"

def duration : Led → Outputs → BitVec 32
  | .red, outputs => outputs.redLedDuration
  | .green, outputs => outputs.greenLedDuration
  | .blue, outputs => outputs.blueLedDuration

/-- `LedWatch` treats the three LEDs alike. -/
theorem duration_ledWatch
    (led : Led) (startMillis endMillis : BitVec 32) (outputs : Outputs) :
    led.duration (ledWatch startMillis endMillis outputs) =
      (countDown (led.duration outputs)
        (startMillis - outputs.msec)).1 := by
  cases led <;> rfl

/-- A call lights the LEDs whose duration was positive before it. -/
theorem pins_ledWatch
    (led : Led) (startMillis endMillis : BitVec 32) (outputs : Outputs) :
    (ledWatch startMillis endMillis outputs).pins led.pin =
      decide (0 < (led.duration outputs).toInt) := by
  cases led <;> exact countDown_level _ _

end Led

/-- One call and the way to the next one.  It takes `spent` milliseconds, the
next one starts `untilNext` after it started, and in between other routines
work on the pins. -/
structure WatchCall where
  spent : Nat
  untilNext : Nat
  within : spent ≤ untilNext
  bounded : untilNext < 2 ^ 31
  others : Outputs → Outputs
  keeps : ∀ outputs,
    (others outputs).durations = outputs.durations ∧
      (others outputs).msec = outputs.msec

/-- The milliseconds that the next call charges. -/
def WatchCall.charge (call : WatchCall) : Nat :=
  call.untilNext - call.spent

theorem WatchCall.duration_others
    (call : WatchCall) (led : Led) (outputs : Outputs) :
    led.duration (call.others outputs) = led.duration outputs := by
  have same := (call.keeps outputs).1
  simp only [Outputs.durations, Prod.mk.injEq] at same
  cases led
  · exact same.1
  · exact same.2.1
  · exact same.2.2

/-- The level of an LED behind each call.  The clock wraps, `startMillis` is
what the first call reads. -/
def watchLevels (led : Led) :
    BitVec 32 → List WatchCall → Outputs → List Bool
  | _, [], _ => []
  | startMillis, call :: rest, outputs =>
      let watched := ledWatch startMillis
        (startMillis + BitVec.ofNat 32 call.spent) outputs
      watched.pins led.pin ::
        watchLevels led (startMillis + BitVec.ofNat 32 call.untilNext) rest
          (call.others watched)

/-- The milliseconds from the first call to a later one. -/
def elapsed (calls : List WatchCall) (index : Nat) : Nat :=
  ((calls.take index).map WatchCall.untilNext).sum

/-- The part of them in which no call was running. -/
def betweenCalls (calls : List WatchCall) (index : Nat) : Nat :=
  ((calls.take index).map WatchCall.charge).sum

/-- The LED is lit behind every call that starts before its duration is over,
counted from the first call, and dark behind the call that follows one at
which it is over. -/
def LastsAsAsked (led : Led) (startMillis : BitVec 32)
    (calls : List WatchCall) (outputs : Outputs) : Prop :=
  ∀ index level,
    (watchLevels led startMillis calls outputs)[index]? = some level →
      ((elapsed calls index : Int) < (led.duration outputs).toInt →
        level = true) ∧
      (∀ earlier, index = earlier + 1 →
        (led.duration outputs).toInt ≤ elapsed calls earlier →
          level = false)

/-- What is left of the duration when the time since the call before the
command is taken off. -/
def leftAtFirstCall (led : Led) (startMillis : BitVec 32)
    (outputs : Outputs) : Int :=
  (led.duration outputs - (startMillis - outputs.msec)).toInt

/-- With less than `2 ^ 31` milliseconds charged, the countdown of an LED is
one of integers: nothing wraps. -/
theorem toInt_countDown
    (duration : BitVec 32) {lapse : Nat} (short : lapse < 2 ^ 31) :
    (countDown duration (BitVec.ofNat 32 lapse)).1.toInt =
      sample (lapse : Int) duration.toInt := by
  by_cases left : 0 < duration.toInt
  · have upper := duration.toInt_lt
    have lapseInt : (BitVec.ofNat 32 lapse).toInt = lapse := by
      rw [BitVec.toInt_ofNat', Int.bmod_eq_of_le (by omega) (by omega)]
    rw [countDown, if_pos left, sample, if_pos left, BitVec.toInt_sub,
      lapseInt, Int.bmod_eq_of_le (by omega) (by omega)]
  · rw [countDown, if_neg left, sample, if_neg left]
    rfl

/-- The time a call charges is what the clock says between the calls. -/
private theorem charge_eq (startMillis : BitVec 32) (call : WatchCall) :
    startMillis + BitVec.ofNat 32 call.untilNext -
        (startMillis + BitVec.ofNat 32 call.spent) =
      BitVec.ofNat 32 call.charge := by
  have within := call.within
  have bounded := call.bounded
  simp only [WatchCall.charge]
  bv_omega

private theorem charge_lt (call : WatchCall) : call.charge < 2 ^ 31 :=
  Nat.lt_of_le_of_lt (Nat.sub_le _ _) call.bounded

private theorem charges_forward (charges : List Nat) :
    ∀ lapse ∈ (charges.map Nat.cast : List Int), 0 ≤ lapse := by
  intro lapse member
  obtain ⟨charge, _, rfl⟩ := List.mem_map.mp member
  exact Int.natCast_nonneg charge

/-- The calls sample the countdown of each LED with the times they charge. -/
theorem watchLevels_eq_levels
    (led : Led) (startMillis : BitVec 32) (calls : List WatchCall)
    (outputs : Outputs) {lapse : Nat} (short : lapse < 2 ^ 31)
    (charged : startMillis - outputs.msec = BitVec.ofNat 32 lapse) :
    watchLevels led startMillis calls outputs =
      levels (led.duration outputs).toInt
        (((lapse :: calls.map WatchCall.charge).take calls.length).map
          Nat.cast) := by
  induction calls generalizing startMillis outputs lapse with
  | nil => rfl
  | cons call rest inductionHypothesis =>
      have later := inductionHypothesis
        (startMillis + BitVec.ofNat 32 call.untilNext)
        (call.others (ledWatch startMillis
          (startMillis + BitVec.ofNat 32 call.spent) outputs))
        (charge_lt call)
        (by rw [(call.keeps _).2]; exact charge_eq startMillis call)
      rw [call.duration_others, led.duration_ledWatch, charged,
        toInt_countDown _ short] at later
      rw [watchLevels, later, led.pins_ledWatch]
      simp only [List.length_cons, List.map_cons, List.take_succ_cons,
        levels]

/-- Behind the first call an LED is lit as long as the time charged has not
used up what was left there. -/
theorem watchLevels_getElem?_succ
    {led : Led} {startMillis : BitVec 32} {calls : List WatchCall}
    {outputs : Outputs} (asked : 0 < (led.duration outputs).toInt)
    {index : Nat} (bound : index + 1 < calls.length) :
    (watchLevels led startMillis calls outputs)[index + 1]? =
      some (decide ((betweenCalls calls index : Int) <
        leftAtFirstCall led startMillis outputs)) := by
  cases calls with
  | nil => exact absurd bound (Nat.not_lt_zero _)
  | cons call rest =>
      have later := watchLevels_eq_levels led
        (startMillis + BitVec.ofNat 32 call.untilNext) rest
        (call.others (ledWatch startMillis
          (startMillis + BitVec.ofNat 32 call.spent) outputs))
        (charge_lt call)
        (by rw [(call.keeps _).2]; exact charge_eq startMillis call)
      rw [call.duration_others, led.duration_ledWatch, countDown,
        if_pos asked] at later
      have short : index < rest.length := by simpa using bound
      have sum : (((((call :: rest).map WatchCall.charge).take
            rest.length).map Nat.cast).take index : List Int).sum =
          betweenCalls (call :: rest) index := by
        rw [← List.map_take, List.take_take,
          Nat.min_eq_left (Nat.le_of_lt short), ← Nat.cast_list_sum,
          betweenCalls, List.map_take]
      rw [watchLevels, List.getElem?_cons_succ, later,
        levels_getElem? _ (charges_forward _) index (by simp; omega),
        ← List.map_cons, sum]
      rfl

theorem watchLevels_length
    (led : Led) (startMillis : BitVec 32) (calls : List WatchCall)
    (outputs : Outputs) :
    (watchLevels led startMillis calls outputs).length = calls.length := by
  induction calls generalizing startMillis outputs with
  | nil => rfl
  | cons call rest inductionHypothesis =>
      rw [watchLevels, List.length_cons, List.length_cons,
        inductionHypothesis]

/-- The first call lights an LED whose duration was just set. -/
theorem watchLevels_getElem?_zero
    {led : Led} {startMillis : BitVec 32} {calls : List WatchCall}
    {outputs : Outputs} (asked : 0 < (led.duration outputs).toInt)
    {level : Bool}
    (shown : (watchLevels led startMillis calls outputs)[0]? = some level) :
    level = true := by
  cases calls with
  | nil => cases shown
  | cons call rest =>
      rw [watchLevels, List.getElem?_cons_zero, led.pins_ledWatch,
        decide_eq_true asked] at shown
      exact (Option.some.inj shown).symm

/-- An LED is lit as long as asked exactly when, at every call but the last,
the time between the calls so far is on the same side of what was left at the
first call as the time since the first call is of the duration. -/
theorem lastsAsAsked_iff
    (led : Led) (startMillis : BitVec 32) (calls : List WatchCall)
    (outputs : Outputs) (asked : 0 < (led.duration outputs).toInt) :
    LastsAsAsked led startMillis calls outputs ↔
      ∀ index, index + 1 < calls.length →
        ((elapsed calls (index + 1) : Int) < (led.duration outputs).toInt →
          (betweenCalls calls index : Int) <
            leftAtFirstCall led startMillis outputs) ∧
        ((led.duration outputs).toInt ≤ elapsed calls index →
          leftAtFirstCall led startMillis outputs ≤
            betweenCalls calls index) := by
  constructor
  · intro lasts index bound
    obtain ⟨lit, dark⟩ :=
      lasts (index + 1) _ (watchLevels_getElem?_succ asked bound)
    exact ⟨fun early => of_decide_eq_true (lit early),
      fun late => not_lt.mp (of_decide_eq_false (dark index rfl late))⟩
  · intro agree index level shown
    cases index with
    | zero =>
        exact ⟨fun _ => watchLevels_getElem?_zero asked shown,
          fun earlier after => absurd after (Nat.succ_ne_zero _).symm⟩
    | succ index =>
        have bound : index + 1 < calls.length := by
          rw [← watchLevels_length led startMillis calls outputs]
          exact (List.getElem?_eq_some_iff.mp shown).1
        rw [watchLevels_getElem?_succ asked bound] at shown
        obtain rfl := Option.some.inj shown
        obtain ⟨lit, dark⟩ := agree index bound
        constructor
        · intro early
          exact decide_eq_true (lit early)
        · intro earlier after late
          obtain rfl : index = earlier := Nat.succ.inj after
          exact decide_eq_false (not_lt.mpr (dark late))

private def instantCall (untilNext : Nat) (bounded : untilNext < 2 ^ 31) :
    WatchCall where
  spent := 0
  untilNext := untilNext
  within := Nat.zero_le _
  bounded := bounded
  others := id
  keeps := fun _ => ⟨rfl, rfl⟩

private def halfSecondCalls (count : Nat) : List WatchCall :=
  List.replicate count (instantCall 500 (by decide))

/-- The outputs after a command for the green LED; the call before it ended at
10000. -/
private def greenFor (milliseconds : Bytes) : Outputs :=
  [(bytesOf "green", milliseconds)].foldl
    (setLedProperty (Decimal.readDigits 0))
    { Outputs.initial with msec := 10000 }

theorem lastsAsAsked_iff_fourSeconds :
    LastsAsAsked .green 11300 (halfSecondCalls 3)
      (greenFor (bytesOf "4000")) := by
  refine (lastsAsAsked_iff .green 11300 (halfSecondCalls 3)
    (greenFor (bytesOf "4000")) (by decide)).mpr ?_
  intro index bound
  have few : index + 1 < 3 := bound
  obtain rfl | rfl : index = 0 ∨ index = 1 := by omega
  · exact ⟨by decide, by decide⟩
  · exact ⟨by decide, by decide⟩

/-- A command for 1200 milliseconds arrives while a request blocks for 1300.
The LED is dark half a second behind the call that lit it. -/
theorem not_lastsAsAsked_blockedRequest :
    0 < (Led.green.duration (greenFor (bytesOf "1200"))).toInt ∧
      ¬ LastsAsAsked .green 11300 (halfSecondCalls 2)
        (greenFor (bytesOf "1200")) := by
  refine ⟨by decide, ?_⟩
  intro lasts
  have lit := (lasts 1 false (by decide)).1 (by decide)
  cases lit

end FunnelDispenser.Device
