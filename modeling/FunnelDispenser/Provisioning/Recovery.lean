import FunnelDispenser.Config.RoundTrip
import FunnelDispenser.Device.Setup

/-!
# Back to the access point

Clearing the credentials leaves a file from which the next boot restores
everything else and becomes an access point.  Without credentials the strings
leave room in the pool for every number, so nothing is lost on the way.
-/

namespace FunnelDispenser.Provisioning

open CMemory Config Device Json

def clearedSettings (settings : Settings) : Settings :=
  settings.withCredentials (.empty _ (by decide)) (.empty _ (by decide))

theorem represents_clearCredentials {config : Memory} {settings : Settings}
    (represents : Represents config settings) :
    Represents (clearCredentials config) (clearedSettings settings) :=
  represents.strcpyCredentials (.empty _ _) (.empty _ _)

theorem clearedSettings_kept (settings : Settings) :
    (clearedSettings settings).kept = clearedSettings settings := by
  apply Settings.kept_eq_self
  have bound : settings.connectionString.text.length < 180 :=
    settings.connectionString.fits
  simp only [Fields.textBytes, clearedSettings, Settings.withCredentials,
    FieldText.empty, List.length_nil, roundSizeUp]
  omega

theorem clearCredentials_idem (config : Memory) :
    clearCredentials (clearCredentials config) = clearCredentials config := by
  funext tested
  simp only [clearCredentials, strcpy, Function.update_apply]
  split
  · rfl
  · split <;> rfl

/-- A clear whose file write completes leaves the same storage as two. -/
theorem clearWifi_idem (storage : Storage) :
    clearWifi .complete (clearWifi .complete storage) =
      clearWifi .complete storage := by
  simp only [clearWifi, saveConfig_complete, clearCredentials_idem]

section Paths

variable {F : Type} [DoubleArith F]

omit [DoubleArith F] in
theorem holdSwitch_storage_of_cleared {polls : List SwitchPoll}
    (written : ∀ poll ∈ polls, poll.write = .complete)
    {storage : Storage} {board : Board F}
    (cleared : board.storage = clearWifi .complete storage) :
    (holdSwitch polls board).storage = clearWifi .complete storage := by
  induction polls generalizing board with
  | nil => exact cleared
  | cons poll rest inductionHypothesis =>
      rw [holdSwitch_cons]
      apply inductionHypothesis fun other member =>
        written other (List.mem_cons_of_mem _ member)
      rw [checkWifiReset_storage, written poll List.mem_cons_self, cleared,
        clearWifi_idem, ite_self]

omit [DoubleArith F] in
/-- Pressed samples that bring the count to five clear the credentials. -/
theorem holdSwitch_storage_of_five {polls : List SwitchPoll}
    (sampled : polls ≠ [])
    (pressed : ∀ poll ∈ polls, poll.pressed = true)
    (written : ∀ poll ∈ polls, poll.write = .complete)
    {board : Board F} (five : 5 ≤ board.wifiResetCount + polls.length) :
    (holdSwitch polls board).storage =
      clearWifi .complete board.storage := by
  induction polls generalizing board with
  | nil => exact absurd rfl sampled
  | cons poll rest inductionHypothesis =>
      have restWritten : ∀ other ∈ rest, other.write = .complete :=
        fun other member => written other (List.mem_cons_of_mem _ member)
      have next : nextPressCount poll board.wifiResetCount =
          board.wifiResetCount + 1 := by
        rw [nextPressCount, pressed poll List.mem_cons_self, if_pos rfl]
      rw [holdSwitch_cons]
      by_cases complete : completesClear poll board.wifiResetCount = true
      · apply holdSwitch_storage_of_cleared restWritten
        rw [checkWifiReset_storage, if_pos complete,
          written poll List.mem_cons_self]
      · -- not yet five: the count goes up and the storage stays
        have few : board.wifiResetCount + 1 ≤ 4 := by
          simpa [completesClear, next] using complete
        have count : (checkWifiReset poll board).wifiResetCount =
            board.wifiResetCount + 1 := by
          rw [checkWifiReset_wifiResetCount, if_neg complete, next]
        have storage : (checkWifiReset poll board).storage =
            board.storage := by
          rw [checkWifiReset_storage, if_neg complete]
        rw [List.length_cons] at five
        rw [← storage]
        apply inductionHypothesis _
          (fun other member => pressed other (List.mem_cons_of_mem _ member))
          restWritten
        · rw [count]
          omega
        · rintro rfl
          simp only [List.length_nil] at five
          omega

/-- A `ClearWIFI` message clears the credentials, whatever its properties. -/
theorem receiveMessageCallback_storage_of_clear
    (toInt : Bytes → BitVec 32) {input : CommandInput F}
    {message : CloudMessage} (board : Board F)
    (command : message.content = some clearWifiBody) :
    (receiveMessageCallback toInt input message board).storage =
      clearWifi input.write board.storage := by
  have dispatched :
      dispatchCommand input clearWifiBody message.commandId board =
        (5, { board with
          storage := clearWifi input.write board.storage
          resetDevice := true }) := by
    rw [dispatchCommand_eq]
    rfl
  have noProperties : ∀ properties (commanded : Board F),
      applyProperties toInt input.write 5 properties commanded =
        commanded := by
    intro properties commanded
    unfold applyProperties
    split <;> rfl
  simp only [receiveMessageCallback, command, dispatched, noProperties]
  cases message.properties <;> rfl

/-- The WiFi information is cleared and the file written completely: by the
switch, with samples that bring the count to five, or by the cloud command. -/
inductive ClearsWifi (toInt : Bytes → BitVec 32) (before : Board F) :
    Board F → Prop where
  | switch (polls : List SwitchPoll) (sampled : polls ≠ [])
      (pressed : ∀ poll ∈ polls, poll.pressed = true)
      (written : ∀ poll ∈ polls, poll.write = .complete)
      (five : 5 ≤ before.wifiResetCount + polls.length) :
      ClearsWifi toInt before (holdSwitch polls before)
  | command (input : CommandInput F) (message : CloudMessage)
      (content : message.content = some clearWifiBody)
      (written : input.write = .complete) :
      ClearsWifi toInt before
        (receiveMessageCallback toInt input message before)

theorem ClearsWifi.storage {toInt : Bytes → BitVec 32}
    {before after : Board F} (cleared : ClearsWifi toInt before after) :
    after.storage = clearWifi .complete before.storage := by
  cases cleared with
  | switch polls sampled pressed written five =>
      exact holdSwitch_storage_of_five sampled pressed written five
  | command input message content written =>
      rw [receiveMessageCallback_storage_of_clear toInt before content,
        written]

omit [DoubleArith F] in
/-- Samples taken at boot leave empty credentials as they are. -/
theorem holdSwitch_config_of_cleared (polls : List SwitchPoll)
    {board : Board F} (noName : fieldText board.storage.config
      ssidNameAddress = [])
    (noPass : fieldText board.storage.config ssidPassAddress = []) :
    (holdSwitch polls board).storage.config = board.storage.config := by
  have same : clearCredentials board.storage.config =
      board.storage.config :=
    (CredentialsCleared.eq ⟨noName, noPass, fun _ _ _ => rfl⟩).symm
  induction polls generalizing board with
  | nil => rfl
  | cons poll rest inductionHypothesis =>
      have polled : (checkWifiReset poll board).storage.config =
          board.storage.config := by
        rw [checkWifiReset_storage]
        split
        · rw [clearWifi, saveConfig_config, same]
        · rfl
      rw [holdSwitch_cons, ← polled]
      rw [← polled] at noName noPass same
      exact inductionHypothesis noName noPass same

/-- A boot that loads empty credentials ends in access-point mode and keeps
the configuration. -/
theorem setup_accessPoint {boot : SetupInput} (persistent : Persistent F)
    {config : Memory} (mounts : boot.mounts = true)
    (loaded : loadConfig boot.heap ⟨zeroConfig, persistent.configFile⟩ =
      .loaded config)
    (noName : fieldText config ssidNameAddress = [])
    (noPass : fieldText config ssidPassAddress = []) :
    ∃ device, setup boot persistent = .loops device ∧
      device.accessPoint = true ∧ device.board.storage.config = config := by
  let board : Board F :=
    { (bootDevice boot persistent).board with
      storage := ⟨config, persistent.configFile⟩ }
  have first : (holdSwitch boot.firstHold board).storage.config = config :=
    holdSwitch_config_of_cleared boot.firstHold noName noPass
  have second : (holdSwitch boot.secondHold
      (holdSwitch boot.firstHold board)).storage.config = config := by
    rw [holdSwitch_config_of_cleared boot.secondHold (by rw [first, noName])
      (by rw [first, noPass]), first]
  have selected : selectsAccessPoint
      (holdSwitch boot.firstHold board).storage.config = true := by
    rw [first, selectsAccessPoint, noName]
    simp
  have stored : (bootDevice boot persistent).board.storage =
      ⟨zeroConfig, persistent.configFile⟩ := rfl
  simp only [setup, mounts, stored, loaded, if_true, setupLoaded]
  rw [if_pos selected]
  exact ⟨_, rfl, rfl, second⟩

/-- A configuration without credentials whose other fields are those of
`config`. -/
structure WithoutCredentials (restored config : Memory) : Prop where
  ssidName : fieldText restored ssidNameAddress = []
  ssidPass : fieldText restored ssidPassAddress = []
  connectionString :
    fieldText restored connectionStringAddress =
      fieldText config connectionStringAddress
  interval : ∀ interval : Interval,
    loadWord restored interval.address = loadWord config interval.address
  postAllInfo :
    loadBool restored postAllInfoAddress = loadBool config postAllInfoAddress

omit [DoubleArith F] in
theorem withoutCredentials_of_cleared
    {config restored : Memory} {settings : Settings}
    (represents : Represents config settings)
    (cleared : Represents restored (clearedSettings settings)) :
    WithoutCredentials restored config where
  ssidName := cleared.ssidName_eq
  ssidPass := cleared.ssidPass_eq
  connectionString := by
    rw [cleared.connectionString_eq (by decide),
      represents.connectionString_eq (by decide)]
    rfl
  interval interval := by
    rw [cleared.interval, represents.interval]
    rfl
  postAllInfo := by
    rw [cleared.postAllInfo, represents.postAllInfo]
    rfl

/-- The boot loads `config` without its credentials, keeps it, and becomes an
access point. -/
def RecoversAccessPoint (boot : SetupInput) (config : Memory)
    (persistent : Persistent F) : Prop :=
  ∃ restored device,
    loadConfig boot.heap ⟨zeroConfig, persistent.configFile⟩ =
      .loaded restored ∧
    WithoutCredentials restored config ∧
    setup boot persistent = .loops device ∧
    device.accessPoint = true ∧
    WithoutCredentials device.board.storage.config config

/-- Whatever the strings and the numbers were, the boot after a clear finds
them all, apart from the credentials. -/
theorem recoversAccessPoint_of_clear
    (toInt : Bytes → BitVec 32) {before after : Board F}
    {settings : Settings}
    (represents : Represents before.storage.config settings)
    (cleared : ClearsWifi toInt before after)
    (record : RtcData F) {boot : SetupInput} (mounts : boot.mounts = true) :
    RecoversAccessPoint boot before.storage.config
      ⟨record, after.storage.configFile⟩ := by
  have file : after.storage.configFile =
      some (writeObject
        (configJson (clearCredentials before.storage.config))) := by
    rw [cleared.storage, clearWifi, saveConfig_complete]
  obtain ⟨restored, loaded, keeps⟩ := loadConfig_saved
    (represents_clearCredentials represents) boot.heap zeroConfig
  rw [clearedSettings_kept] at keeps
  rw [← file] at loaded
  have without := withoutCredentials_of_cleared represents keeps
  obtain ⟨device, loops, accessPoint, kept⟩ :=
    setup_accessPoint ⟨record, after.storage.configFile⟩ mounts loaded
      without.ssidName without.ssidPass
  exact ⟨restored, device, loaded, without, loops, accessPoint,
    kept ▸ without⟩

end Paths

def provisionedBoard : Board ℚ :=
  { Board.powerUp none with
    storage := ⟨storeSettings zeroConfig fullSettings, none⟩ }

def clearMessage : CloudMessage := ⟨some clearWifiBody, none, 0⟩

theorem recoversAccessPoint_of_clear_fullSettings :
    RecoversAccessPoint sampleBoot provisionedBoard.storage.config
        ⟨sampleRecord, (holdSwitch (List.replicate 5 ⟨true, .complete⟩)
          provisionedBoard).storage.configFile⟩ ∧
      RecoversAccessPoint sampleBoot provisionedBoard.storage.config
        ⟨sampleRecord, (receiveMessageCallback (fun _ => 0)
          ⟨sampleReport (sampleReadings 70 40 100), .complete⟩ clearMessage
            provisionedBoard).storage.configFile⟩ :=
  ⟨recoversAccessPoint_of_clear (fun _ => 0)
      (represents_storeSettings zeroConfig fullSettings)
      (.switch _ (by simp) (by simp) (by simp) (by simp))
      sampleRecord rfl,
    recoversAccessPoint_of_clear (fun _ => 0)
      (represents_storeSettings zeroConfig fullSettings)
      (.command _ clearMessage rfl rfl) sampleRecord rfl⟩

end FunnelDispenser.Provisioning
