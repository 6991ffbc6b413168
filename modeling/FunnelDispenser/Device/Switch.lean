import FunnelDispenser.Config.Saving
import FunnelDispenser.Device.Leds

/-!
# The WiFi reset switch

Every call site polls the switch through `CheckWIFIReset`.  Five pressed
samples in a row clear the WiFi credentials and ask for a reset.
-/

namespace FunnelDispenser.Device

open CMemory Config

variable {F : Type}

/-- One sample of the switch, and what the file system does if this call
saves the configuration. -/
structure SwitchPoll where
  pressed : Bool
  write : WriteOutcome
deriving DecidableEq, Repr

/-- The two `strcpy` calls that empty the credentials. -/
def clearCredentials (config : Memory) : Memory :=
  strcpy (strcpy config ssidNameAddress []) ssidPassAddress []

/-- Empty the credentials and save what is left. -/
def clearWifi (write : WriteOutcome) (storage : Storage) : Storage :=
  (saveConfig write
    { storage with config := clearCredentials storage.config }).1

/-- The two credentials are empty, and every byte behind their first ones is
as it was. -/
structure CredentialsCleared (before after : Memory) : Prop where
  ssidName : fieldText after ssidNameAddress = []
  ssidPass : fieldText after ssidPassAddress = []
  others : ∀ position, position ≠ ssidNameAddress →
    position ≠ ssidPassAddress → after position = before position

theorem credentialsCleared_clearCredentials (config : Memory) :
    CredentialsCleared config (clearCredentials config) where
  ssidName := fieldText_eq_nil_iff.mpr rfl
  ssidPass := fieldText_eq_nil_iff.mpr rfl
  others position otherName otherPass := by
    simp only [clearCredentials, strcpy, Function.update_apply, otherName,
      otherPass, if_false]

theorem CredentialsCleared.eq {before after : Memory}
    (cleared : CredentialsCleared before after) :
    after = clearCredentials before := by
  funext position
  by_cases name : position = ssidNameAddress
  · rw [name, fieldText_eq_nil_iff.mp cleared.ssidName]
    rfl
  · by_cases pass : position = ssidPassAddress
    · rw [pass, fieldText_eq_nil_iff.mp cleared.ssidPass]
      rfl
    · rw [cleared.others position name pass]
      exact ((credentialsCleared_clearCredentials before).others position
        name pass).symm

def showPressed (outputs : Outputs) : Outputs :=
  controlLed redLed true (controlLed greenLed false
    (controlLed blueLed false outputs))

def checkWifiReset (poll : SwitchPoll) (board : Board F) : Board F :=
  let sampled :=
    if poll.pressed then
      { board with
        wifiResetCount := board.wifiResetCount + 1
        outputs := showPressed board.outputs
        messagePending := true }
    else
      { board with
        wifiResetCount := 0
        outputs := controlLed redLed false board.outputs }
  if sampled.wifiResetCount > 4 then
    { sampled with
      outputs := showPressed sampled.outputs
      storage := clearWifi poll.write sampled.storage
      resetDevice := true
      wifiResetCount := 0 }
  else
    sampled

/-- `while (digitalRead(resetWIFISwitch) == LOW) CheckWIFIReset();` with one
poll for each time round. -/
def holdSwitch (polls : List SwitchPoll) (board : Board F) : Board F :=
  polls.foldl (fun held poll => checkWifiReset poll held) board

def nextPressCount (poll : SwitchPoll) (count : Nat) : Nat :=
  if poll.pressed then count + 1 else 0

def completesClear (poll : SwitchPoll) (count : Nat) : Bool :=
  4 < nextPressCount poll count

/-- The switch handler changes the flags, the LEDs and the configuration,
each as the sample and the press count say. -/
theorem checkWifiReset_eq (poll : SwitchPoll) (board : Board F) :
    checkWifiReset poll board =
      { board with
        wifiResetCount :=
          if completesClear poll board.wifiResetCount then 0
          else nextPressCount poll board.wifiResetCount
        outputs := (checkWifiReset poll board).outputs
        messagePending := board.messagePending || poll.pressed
        storage :=
          if completesClear poll board.wifiResetCount then
            clearWifi poll.write board.storage
          else board.storage
        resetDevice :=
          board.resetDevice || completesClear poll board.wifiResetCount } := by
  cases pressed : poll.pressed
  · simp [checkWifiReset, completesClear, nextPressCount, pressed]
  · by_cases full : 4 < board.wifiResetCount + 1 <;>
      simp [checkWifiReset, completesClear, nextPressCount, pressed, full]

section Frame

variable (poll : SwitchPoll) (polls : List SwitchPoll) (board : Board F)

@[simp]
theorem checkWifiReset_messagePending :
    (checkWifiReset poll board).messagePending =
      (board.messagePending || poll.pressed) := by
  rw [checkWifiReset_eq]

@[simp]
theorem checkWifiReset_resetDevice :
    (checkWifiReset poll board).resetDevice =
      (board.resetDevice || completesClear poll board.wifiResetCount) := by
  rw [checkWifiReset_eq]

@[simp]
theorem checkWifiReset_hub :
    (checkWifiReset poll board).hub = board.hub := by
  rw [checkWifiReset_eq]

@[simp]
theorem checkWifiReset_deviceData :
    (checkWifiReset poll board).deviceData = board.deviceData := by
  rw [checkWifiReset_eq]

@[simp]
theorem checkWifiReset_sensors :
    (checkWifiReset poll board).sensors = board.sensors := by
  rw [checkWifiReset_eq]

@[simp]
theorem checkWifiReset_storage :
    (checkWifiReset poll board).storage =
      if completesClear poll board.wifiResetCount then
        clearWifi poll.write board.storage
      else board.storage := by
  rw [checkWifiReset_eq]

@[simp]
theorem checkWifiReset_wifiResetCount :
    (checkWifiReset poll board).wifiResetCount =
      if completesClear poll board.wifiResetCount then 0
      else nextPressCount poll board.wifiResetCount := by
  rw [checkWifiReset_eq]

@[simp]
theorem holdSwitch_cons (poll : SwitchPoll) :
    holdSwitch (poll :: polls) board =
      holdSwitch polls (checkWifiReset poll board) :=
  rfl

@[simp]
theorem holdSwitch_hub : (holdSwitch polls board).hub = board.hub := by
  induction polls generalizing board with
  | nil => rfl
  | cons poll rest inductionHypothesis =>
      rw [holdSwitch_cons, inductionHypothesis, checkWifiReset_hub]

@[simp]
theorem holdSwitch_deviceData :
    (holdSwitch polls board).deviceData = board.deviceData := by
  induction polls generalizing board with
  | nil => rfl
  | cons poll rest inductionHypothesis =>
      rw [holdSwitch_cons, inductionHypothesis, checkWifiReset_deviceData]

@[simp]
theorem holdSwitch_sensors :
    (holdSwitch polls board).sensors = board.sensors := by
  induction polls generalizing board with
  | nil => rfl
  | cons poll rest inductionHypothesis =>
      rw [holdSwitch_cons, inductionHypothesis, checkWifiReset_sensors]

@[simp]
theorem holdSwitch_messagePending :
    (holdSwitch polls board).messagePending =
      (board.messagePending || polls.any fun poll => poll.pressed) := by
  induction polls generalizing board with
  | nil => simp [holdSwitch]
  | cons poll rest inductionHypothesis =>
      rw [holdSwitch_cons, inductionHypothesis,
        checkWifiReset_messagePending, List.any_cons, Bool.or_assoc]

end Frame

theorem resetDevice_of_holdSwitch
    (polls : List SwitchPoll) {board : Board F}
    (pending : board.resetDevice = true) :
    (holdSwitch polls board).resetDevice = true := by
  induction polls generalizing board with
  | nil => exact pending
  | cons poll rest inductionHypothesis =>
      apply inductionHypothesis
      rw [checkWifiReset_resetDevice, pending, Bool.true_or]

end FunnelDispenser.Device
