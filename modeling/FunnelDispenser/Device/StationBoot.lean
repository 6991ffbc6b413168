import FunnelDispenser.Config.RoundTrip
import FunnelDispenser.Device.Setup
import FunnelDispenser.Library.Loops

/-!
# The loops of a station boot

The part of `setup()` from `connect()` to the end of the clock validation,
one step for each look at the surroundings: the association, the wait for
SNTP, and for each `now()` that is due the discarded packets and the wait for
the NTP reply.  `setup()` itself is modelled with the outcomes of these loops
as inputs; here the surroundings decide how often each of them goes round.
-/

namespace FunnelDispenser.Device

open CMemory Config Loops StepRuns Time

/-- What one step may look at.  An empty `packet` stands for no packet. -/
structure Observation where
  connected : Bool
  switch : SwitchPoll
  epoch : BitVec 32
  packet : Bytes
  millis : BitVec 32
deriving DecidableEq, Repr

/-- The calls of `now()`: from the two calls of `setSyncProvider` and from
the two calls of `year()`. -/
inductive NowCaller where
  | firstSync
  | repeatedSync
  | firstYear
  | secondYear
deriving DecidableEq, Repr

/-- Where `setup()` stands. -/
inductive BootPhase where
  | connecting
  | associating (state : Bool) (tries : Nat)
  | holding
  | fetchingTime
  | counting (caller : NowCaller)
  | flushing (caller : NowCaller)
  | requesting (caller : NowCaller)
  | receiving (caller : NowCaller) (beginWait : BitVec 32)
  | setting (caller : NowCaller) (time : BitVec 32)
deriving DecidableEq, Repr

/-- `counter` is `Counter`, the repetitions of the validation. -/
structure StationBoot (F : Type) where
  phase : BootPhase
  board : Board F
  resetCount : Nat
  clock : TimeLib
  counter : Nat

inductive StationEnd (F : Type) where
  | loops (resetCount : Nat) (board : Board F)
  | sleeps (resetCount : Nat) (board : Board F)
  | restarts

section Step

variable {F : Type}

/-- The counting loop of `now()`, up to the clock value it ends at. -/
def countTo (millis : BitVec 32) (clock : TimeLib) : TimeLib :=
  countSeconds ((millis - clock.prevMillis).toNat / 1000) clock

def syncDue (clock : TimeLib) : Bool :=
  clock.nextSyncTime ≤ clock.sysTime && clock.providerSet

/-- The end of `now()` behind `getNtpTime`. -/
def takeTime (time setMillis : BitVec 32) (clock : TimeLib) : TimeLib :=
  if time ≠ 0 then
    setTime time setMillis clock
  else
    { clock with nextSyncTime := clock.sysTime + clock.syncInterval }

/-- `setSyncProvider(getNtpTime)` up to its call of `now()`. -/
def startSync (caller : NowCaller) (boot : StationBoot F) : StationBoot F :=
  { boot with
    phase := .counting caller
    clock :=
      { boot.clock with
        providerSet := true
        nextSyncTime := boot.clock.sysTime } }

/-- What a caller does with the time `now()` returns. -/
def afterNow (caller : NowCaller) (boot : StationBoot F) :
    Outcome (StationBoot F) (StationEnd F) :=
  match caller with
  | .firstSync =>
      .again
        { boot with
          phase := .counting .firstYear
          clock := setSyncInterval 300 boot.clock }
  | .firstYear =>
      if calendarYear boot.clock.sysTime = 1970 then
        .again (startSync .repeatedSync boot)
      else
        .again { boot with phase := .counting .secondYear }
  | .secondYear =>
      if 2020 < calendarYear boot.clock.sysTime then
        .again (startSync .repeatedSync boot)
      else
        .halted (.loops boot.resetCount boot.board)
  | .repeatedSync =>
      if 3 ≤ boot.counter + 1 then
        .halted (.sleeps boot.resetCount boot.board)
      else
        .again
          { boot with
            phase := .counting .firstYear
            clock := setSyncInterval 300 boot.clock
            counter := boot.counter + 1 }

/-- One test of a loop with the body behind it, or one step between two
loops. -/
def stationStep (seen : Observation) (boot : StationBoot F) :
    Outcome (StationBoot F) (StationEnd F) :=
  match boot.phase with
  | .connecting =>
      if seen.connected then
        .again
          { boot with
            phase := .fetchingTime
            board :=
              { boot.board with
                outputs :=
                  controlLed 2 false (controlLed 2 true boot.board.outputs) } }
      else
        .again { boot with phase := .associating true 0 }
  | .associating state tries =>
      if seen.connected then
        .again { boot with phase := .holding }
      else
        let polled := checkWifiReset seen.switch
          { boot.board with
            outputs := controlLed greenLed state boot.board.outputs }
        let resets := countReset polled boot.resetCount
        if polled.resetDevice && resets = 5 then
          .halted .restarts
        else if tries + 1 > 240 then
          .halted .restarts
        else
          .again
            { boot with
              phase := .associating (!state) (tries + 1)
              board := polled
              resetCount := resets }
  | .holding =>
      if seen.switch.pressed then
        .again { boot with board := checkWifiReset seen.switch boot.board }
      else
        .again
          { boot with
            phase := .fetchingTime
            board :=
              { boot.board with
                outputs :=
                  controlLed blueLed false (controlLed blueLed true
                    (controlLed greenLed false boot.board.outputs)) } }
  | .fetchingTime =>
      if seen.epoch = 0 then .again boot
      else .again (startSync .firstSync boot)
  | .counting caller =>
      let counted := countTo seen.millis boot.clock
      if syncDue counted then
        .again { boot with phase := .flushing caller, clock := counted }
      else
        afterNow caller { boot with clock := counted }
  | .flushing caller =>
      if 0 < seen.packet.length then .again boot
      else .again { boot with phase := .requesting caller }
  | .requesting caller =>
      .again { boot with phase := .receiving caller seen.millis }
  | .receiving caller beginWait =>
      if (seen.millis - beginWait).toNat < 1500 then
        if ntpPacketSize ≤ seen.packet.length then
          .again
            { boot with
              phase := .setting caller (getNtpTime (some seen.packet)) }
        else
          .again boot
      else
        .again { boot with phase := .setting caller (getNtpTime none) }
  | .setting caller time =>
      afterNow caller
        { boot with clock := takeTime time seen.millis boot.clock }

def stationBoot (board : Board F) : StationBoot F :=
  ⟨.connecting, board, 0, TimeLib.initial, 0⟩

/-- What of the boot is left behind a call of `now()`. -/
def NowCaller.distance (counter : Nat) : NowCaller → Nat
  | .firstSync => 200
  | .firstYear => (3 - counter) * 40 + 20
  | .secondYear => (3 - counter) * 40 + 10
  | .repeatedSync => (3 - counter) * 40

/-- Every step that does not wait lowers this. -/
def StationBoot.distance (boot : StationBoot F) : Nat :=
  match boot.phase with
  | .connecting => 1000
  | .associating _ tries => 500 + (241 - tries)
  | .holding => 400
  | .fetchingTime => 300
  | .counting caller => caller.distance boot.counter + 5
  | .flushing caller => caller.distance boot.counter + 4
  | .requesting caller => caller.distance boot.counter + 3
  | .receiving caller _ => caller.distance boot.counter + 2
  | .setting caller _ => caller.distance boot.counter + 1

/-- A return from `now()` leads below every phase of the call. -/
theorem afterNow_advances (caller : NowCaller) (boot : StationBoot F) :
    (∃ next, afterNow caller boot = .again next ∧
      next.distance ≤ caller.distance boot.counter) ∨
      ∃ ended, afterNow caller boot = .halted ended := by
  cases caller with
  | firstSync =>
      refine Or.inl ⟨_, rfl, ?_⟩
      simp only [StationBoot.distance, NowCaller.distance]
      omega
  | firstYear =>
      by_cases young : calendarYear boot.clock.sysTime = 1970
      · refine Or.inl ⟨_, if_pos young, ?_⟩
        simp only [startSync, StationBoot.distance, NowCaller.distance]
        omega
      · refine Or.inl ⟨_, if_neg young, ?_⟩
        simp only [StationBoot.distance, NowCaller.distance]
        omega
  | secondYear =>
      by_cases late : 2020 < calendarYear boot.clock.sysTime
      · refine Or.inl ⟨_, if_pos late, ?_⟩
        simp only [startSync, StationBoot.distance, NowCaller.distance]
        omega
      · exact Or.inr ⟨_, if_neg late⟩
  | repeatedSync =>
      by_cases last : 3 ≤ boot.counter + 1
      · exact Or.inr ⟨_, if_pos last⟩
      · refine Or.inl ⟨_, if_neg last, ?_⟩
        simp only [StationBoot.distance, NowCaller.distance]
        omega

end Step

/-- Anything the network may do, with the switch released and a clock that
advances: it never goes back, leaves every value behind, and two looks at it
are less than its period apart. -/
structure Surroundings where
  observed : Nat → Observation
  released : ∀ round, (observed round).switch.pressed = false
  time : Nat → Nat
  millis_eq : ∀ round, (observed round).millis = BitVec.ofNat 32 (time round)
  time_le : ∀ round, time round ≤ time (round + 1)
  time_step : ∀ round, time (round + 1) < time round + (2 ^ 32 - 1500)
  time_unbounded : ∀ bound, ∃ round, bound ≤ time round

namespace Surroundings

variable (around : Surroundings)

theorem exists_elapsed (made : Nat) (beginWait : BitVec 32) :
    ∃ later, made ≤ later ∧
      ¬ ((around.observed later).millis - beginWait).toNat < 1500 := by
  by_contra waiting
  push Not at waiting
  -- within 1500 ms of the start the clock cannot change its period
  have samePeriod : ∀ left,
      (around.time (made + left) + (2 ^ 32 - beginWait.toNat)) / 2 ^ 32 =
        (around.time made + (2 ^ 32 - beginWait.toNat)) / 2 ^ 32 := by
    intro left
    induction left with
    | zero => rfl
    | succ left inductionHypothesis =>
        rw [← inductionHypothesis]
        have here := waiting (made + left) (Nat.le_add_right _ _)
        have next := waiting (made + left + 1) (by omega)
        have forward := around.time_le (made + left)
        have step := around.time_step (made + left)
        have begun := beginWait.isLt
        rw [around.millis_eq, BitVec.toNat_sub, BitVec.toNat_ofNat] at here next
        rw [← Nat.add_assoc made left 1]
        omega
  obtain ⟨round, past⟩ := around.time_unbounded (around.time made + 2 ^ 32)
  have monotone : Monotone around.time :=
    monotone_nat_of_le_succ around.time_le
  have later : made ≤ round := by
    by_contra earlier
    have before : around.time round ≤ around.time made :=
      monotone (by omega)
    omega
  obtain ⟨left, rfl⟩ := Nat.exists_eq_add_of_le later
  have period := samePeriod left
  omega

end Surroundings

section Boot

variable {F : Type}

def Released (boot : StationBoot F) (seen : Observation) : Prop :=
  match boot.phase with
  | .fetchingTime => seen.epoch ≠ 0
  | .flushing _ => ¬ 0 < seen.packet.length
  | .receiving _ beginWait =>
      ¬ (seen.millis - beginWait).toNat < 1500 ∨
        ntpPacketSize ≤ seen.packet.length
  | _ => True

theorem stationStep_stays {boot : StationBoot F} {seen : Observation}
    (waits : ¬ Released boot seen) :
    stationStep seen boot = .again boot := by
  unfold Released at waits
  unfold stationStep
  cases phase : boot.phase with
  | fetchingTime =>
      simp only [phase, not_not] at waits
      exact if_pos waits
  | flushing caller =>
      simp only [phase, not_not] at waits
      exact if_pos waits
  | receiving caller beginWait =>
      simp only [phase, not_or, not_not] at waits
      simp only [waits.1, waits.2, if_true, if_false]
  | _ =>
      simp only [phase, not_true] at waits

theorem afterNow_lower {caller : NowCaller} {boot : StationBoot F}
    {distance : Nat} (above : caller.distance boot.counter < distance) :
    (∃ next, afterNow caller boot = .again next ∧
      next.distance < distance) ∨
      ∃ ended, afterNow caller boot = .halted ended := by
  rcases afterNow_advances caller boot with ⟨next, returned, below⟩ | ended
  · exact Or.inl ⟨next, returned, Nat.lt_of_le_of_lt below above⟩
  · exact Or.inr ended

theorem stationStep_advances {boot : StationBoot F} {seen : Observation}
    (switchReleased : seen.switch.pressed = false)
    (released : Released boot seen) :
    (∃ next, stationStep seen boot = .again next ∧
      next.distance < boot.distance) ∨
      ∃ ended, stationStep seen boot = .halted ended := by
  obtain ⟨phase, board, resetCount, clock, counter⟩ := boot
  cases phase with
  | connecting =>
      by_cases connected : seen.connected = true
      · refine Or.inl ⟨_, if_pos connected, ?_⟩
        simp only [StationBoot.distance]
        omega
      · refine Or.inl ⟨_, if_neg connected, ?_⟩
        simp only [StationBoot.distance]
        omega
  | associating state tries =>
      simp only [stationStep]
      split
      · refine Or.inl ⟨_, rfl, ?_⟩
        simp only [StationBoot.distance]
        omega
      · split
        · exact Or.inr ⟨_, rfl⟩
        · split
          · exact Or.inr ⟨_, rfl⟩
          · refine Or.inl ⟨_, rfl, ?_⟩
            simp only [StationBoot.distance]
            omega
  | holding =>
      have notPressed : ¬ seen.switch.pressed = true := by
        rw [switchReleased]
        exact Bool.false_ne_true
      refine Or.inl ⟨_, if_neg notPressed, ?_⟩
      simp only [StationBoot.distance]
      omega
  | fetchingTime =>
      refine Or.inl ⟨_, if_neg released, ?_⟩
      simp only [startSync, StationBoot.distance, NowCaller.distance]
      omega
  | counting caller =>
      simp only [stationStep]
      split
      · refine Or.inl ⟨_, rfl, ?_⟩
        simp only [StationBoot.distance]
        omega
      · apply afterNow_lower
        simp only [StationBoot.distance]
        omega
  | flushing caller =>
      refine Or.inl ⟨_, if_neg released, ?_⟩
      simp only [StationBoot.distance]
      omega
  | requesting caller =>
      refine Or.inl ⟨_, rfl, ?_⟩
      simp only [StationBoot.distance]
      omega
  | receiving caller beginWait =>
      have expiredOrReplied : ¬ (seen.millis - beginWait).toNat < 1500 ∨
          ntpPacketSize ≤ seen.packet.length := released
      simp only [stationStep]
      split
      · rename_i early
        rcases expiredOrReplied with expired | replied
        · exact absurd early expired
        · refine Or.inl ⟨_, if_pos replied, ?_⟩
          simp only [StationBoot.distance]
          omega
      · refine Or.inl ⟨_, rfl, ?_⟩
        simp only [StationBoot.distance]
        omega
  | setting caller time =>
      simp only [stationStep]
      apply afterNow_lower
      simp only [StationBoot.distance]
      omega

section Association

variable {observed : Nat → Observation} {start : StationBoot F}

end Association

variable (around : Surroundings) (board : Board F)

/-- Round `made` of this boot starts from `boot`. -/
def BootReaches (made : Nat) (boot : StationBoot F) : Prop :=
  ReachedAt stationStep around.observed (stationBoot board) made boot

/-- Whenever the boot waits for SNTP, some later `time(NULL)` is not 0. -/
def SntpAnswers : Prop :=
  ∀ made boot, BootReaches around board made boot →
    boot.phase = .fetchingTime →
      ∃ later, made ≤ later ∧ (around.observed later).epoch ≠ 0

/-- Whenever the boot discards packets, some later look finds none. -/
def QueueDrains : Prop :=
  ∀ made boot caller, BootReaches around board made boot →
    boot.phase = .flushing caller →
      ∃ later, made ≤ later ∧ ¬ 0 < (around.observed later).packet.length

/-- A station boot ends exactly when SNTP answers and every queue of old
packets it discards is empty at last; the other loops end on their own. -/
theorem stationBoot_ends_iff :
    Ends stationStep around.observed (stationBoot board) ↔
      SntpAnswers around board ∧ QueueDrains around board := by
  rw [ends_iff_released Released
    (fun _ _ => stationStep_stays) StationBoot.distance
    (fun made _ => stationStep_advances (around.released made))]
  constructor
  · intro releases
    constructor
    · intro made boot reached waiting
      obtain ⟨later, behind, release⟩ := releases made boot reached
      rw [Released, waiting] at release
      exact ⟨later, behind, release⟩
    · intro made boot caller reached discarding
      obtain ⟨later, behind, release⟩ := releases made boot reached
      rw [Released, discarding] at release
      exact ⟨later, behind, release⟩
  · rintro ⟨answers, drains⟩ made boot reached
    cases phase : boot.phase with
    | fetchingTime =>
        obtain ⟨later, behind, answered⟩ := answers made boot reached phase
        refine ⟨later, behind, ?_⟩
        rw [Released, phase]
        exact answered
    | flushing caller =>
        obtain ⟨later, behind, empty⟩ := drains made boot caller reached phase
        refine ⟨later, behind, ?_⟩
        rw [Released, phase]
        exact empty
    | receiving caller beginWait =>
        obtain ⟨later, behind, elapsed⟩ :=
          around.exists_elapsed made beginWait
        refine ⟨later, behind, ?_⟩
        rw [Released, phase]
        exact Or.inl elapsed
    | _ =>
        refine ⟨made, Nat.le_refl _, ?_⟩
        rw [Released, phase]
        trivial

end Boot

/-- The same network at every look, one millisecond after the other. -/
def steadySurroundings (epoch : BitVec 32) (packet : Bytes) :
    Surroundings where
  observed round :=
    ⟨true, ⟨false, .complete⟩, epoch, packet, BitVec.ofNat 32 round⟩
  released _ := rfl
  time := id
  millis_eq _ := rfl
  time_le := Nat.le_succ
  time_step round := by
    simp only [id]
    omega
  time_unbounded bound := ⟨bound, Nat.le_refl _⟩

section Steady

variable {F : Type} (board : Board F)

/-- Without an answer of SNTP a connected station never leaves `initTime`. -/
private theorem not_ends_unanswered :
    ¬ Ends stationStep (steadySurroundings 0 []).observed
      (stationBoot board) := by
  apply not_ends_of_invariant
    (fun boot => boot.phase = .connecting ∨ boot.phase = .fetchingTime) _
    (Or.inl rfl)
  rintro made ⟨phase, board, resetCount, clock, counter⟩ (rfl | rfl)
  · exact ⟨_, rfl, Or.inr rfl⟩
  · exact ⟨_, rfl, Or.inr rfl⟩

/-- With a packet at every look the first discard loop never ends. -/
private theorem not_ends_flooded :
    ¬ Ends stationStep (steadySurroundings 1 [0]).observed
      (stationBoot board) := by
  apply not_ends_of_invariant
    (fun boot =>
      ((boot.phase = .connecting ∨ boot.phase = .fetchingTime) ∧
          boot.clock.sysTime = 0) ∨
        (boot.phase = .counting .firstSync ∧
          boot.clock.nextSyncTime = 0 ∧ boot.clock.providerSet = true) ∨
        boot.phase = .flushing .firstSync) _
    (Or.inl ⟨Or.inl rfl, rfl⟩)
  rintro made ⟨phase, board, resetCount, clock, counter⟩
    (⟨rfl | rfl, unset⟩ | ⟨rfl, due, provided⟩ | rfl)
  · exact ⟨_, rfl, Or.inl ⟨Or.inr rfl, unset⟩⟩
  · exact ⟨_, rfl, Or.inr (Or.inl ⟨rfl, unset, rfl⟩)⟩
  · refine ⟨_, if_pos ?_, Or.inr (Or.inr rfl)⟩
    have start : clock.nextSyncTime = 0 := due
    have provider : clock.providerSet = true := provided
    simp only [syncDue, countTo, countSeconds_eq, start, provider,
      Bool.and_true, decide_eq_true_eq]
    rw [BitVec.le_def]
    exact Nat.zero_le _
  · exact ⟨_, rfl, Or.inr (Or.inr rfl)⟩

end Steady

def stationBoard : Board ℚ :=
  { Board.powerUp none with
    storage := ⟨storeSettings zeroConfig shortSettings, none⟩ }

private theorem stationBoard_station :
    selectsAccessPoint stationBoard.storage.config = false := by
  have represents : Represents stationBoard.storage.config shortSettings :=
    represents_storeSettings zeroConfig shortSettings
  rw [selectsAccessPoint, represents.connectionString_eq (by decide),
    represents.ssidName_eq]
  decide

/-- The boot of a connected station stays awake for ever when SNTP never
answers, and when it does but a packet is there at every look. -/
theorem not_ends_stationBoot :
    selectsAccessPoint stationBoard.storage.config = false ∧
      ¬ Ends stationStep (steadySurroundings 0 []).observed
        (stationBoot stationBoard) ∧
      ¬ Ends stationStep (steadySurroundings 1 [0]).observed
        (stationBoot stationBoard) :=
  ⟨stationBoard_station, not_ends_unanswered stationBoard,
    not_ends_flooded stationBoard⟩

end FunnelDispenser.Device
