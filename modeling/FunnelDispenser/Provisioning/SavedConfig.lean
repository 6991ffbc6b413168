import FunnelDispenser.Config.Coherence
import FunnelDispenser.Provisioning.AccessPoint
import FunnelDispenser.Provisioning.Recovery
import FunnelDispenser.Provisioning.Submission

/-!
# The saved configuration along every run

The switch handler, the two handlers of the portal and two cloud commands
write `DeviceConfig`.  As long as the writes complete and the arguments fit
their arrays, RAM and flash stay coherent through all of them, in access-point
mode and in station mode.
-/

namespace FunnelDispenser.Provisioning

open CMemory Config Device StepRuns

section Writers

variable {F : Type} {settings : Settings} {storage : Storage}
variable {board : Board F}

theorem coherent_clearWifi (coherent : Coherent storage settings) :
    Coherent (clearWifi .complete storage) (clearedSettings settings) :=
  coherent_saveConfig (represents_clearCredentials coherent.represents)
    storage.configFile

def polledSettings (poll : SwitchPoll) (count : Nat) (settings : Settings) :
    Settings :=
  if completesClear poll count then clearedSettings settings else settings

theorem coherent_checkWifiReset {poll : SwitchPoll}
    (written : poll.write = .complete)
    (coherent : Coherent board.storage settings) :
    Coherent (checkWifiReset poll board).storage
      (polledSettings poll board.wifiResetCount settings) := by
  rw [checkWifiReset_storage, polledSettings, written]
  split
  · exact coherent_clearWifi coherent
  · exact coherent

theorem coherent_handleSubmit {request : HttpRequest}
    (present : request.hasArg ssidArg = true)
    (fits : CredentialsFit request)
    (coherent : Coherent board.storage settings) :
    Coherent (handleSubmit .complete request board).1.storage
      (settings.withCredentials fits.credentials.ssidName
        fits.credentials.ssidPass) := by
  rw [handleSubmit, if_pos present]
  apply coherent_saveConfig
  rw [fits.carries.submitConfig_eq]
  exact coherent.represents.strcpyCredentials _ _

def submittedConnection {request : HttpRequest}
    (fits : (cStr (request.arg deviceInfoArg)).length ≤ 179) :
    FieldText connectionStringSize :=
  ⟨cStr (request.arg deviceInfoArg), cStr_nonzero _,
    Nat.lt_succ_of_le fits⟩

theorem coherent_handleSetupSubmit {request : HttpRequest}
    (present : request.hasArg deviceInfoArg = true)
    (fits : (cStr (request.arg deviceInfoArg)).length ≤ 179)
    (coherent : Coherent board.storage settings) :
    Coherent (handleSetupSubmit .complete request board).1.storage
      { settings with connectionString := submittedConnection fits } := by
  rw [handleSetupSubmit, if_pos present]
  exact coherent_saveConfig
    (coherent.represents.strcpyConnectionString (submittedConnection fits))
    board.storage.configFile

def fieldTexts (settings : Settings) :
    FieldText connectionStringSize × FieldText ssidNameSize ×
      FieldText ssidPassSize :=
  (settings.connectionString, settings.ssidName, settings.ssidPass)

theorem represents_setIntervalProperty (toInt : Bytes → BitVec 32)
    (property : Bytes × Bytes) {config : Memory}
    (represents : Represents config settings) :
    ∃ changed : Settings,
      Represents (setIntervalProperty toInt config property) changed ∧
        fieldTexts changed = fieldTexts settings := by
  have general : ∀ (intervals : List Interval) (stored : Memory)
      (before : Settings), Represents stored before →
      ∃ changed : Settings, Represents
        (intervals.foldl
          (fun stored interval =>
            if equalsIgnoreCase property.1 (propertyName interval) then
              storeWord stored interval.address (toInt property.2)
            else stored) stored) changed ∧
        fieldTexts changed = fieldTexts before := by
    intro intervals
    induction intervals with
    | nil => exact fun stored before holds => ⟨before, holds, rfl⟩
    | cons interval rest inductionHypothesis =>
        intro stored before holds
        rw [List.foldl_cons]
        split
        · obtain ⟨changed, stores, same⟩ := inductionHypothesis _ _
            (holds.storeInterval interval (toInt property.2))
          exact ⟨changed, stores, same⟩
        · exact inductionHypothesis _ _ holds
  exact general Interval.all config settings represents

theorem represents_setIntervalProperties (toInt : Bytes → BitVec 32)
    (properties : List (Bytes × Bytes)) {config : Memory}
    (represents : Represents config settings) :
    ∃ changed : Settings, Represents
      (properties.foldl (setIntervalProperty toInt) config) changed ∧
        fieldTexts changed = fieldTexts settings := by
  induction properties generalizing config settings with
  | nil => exact ⟨settings, represents, rfl⟩
  | cons property rest inductionHypothesis =>
      obtain ⟨changed, holds, same⟩ :=
        represents_setIntervalProperty toInt property represents
      obtain ⟨final, stored, kept⟩ := inductionHypothesis holds
      exact ⟨final, stored, kept.trans same⟩

end Writers

/-- `InitAccessPoint` finds a name in this connection string, or needs
none. -/
def Nameable (connectionString : Bytes) : Prop :=
  connectionString = [] ∨ DeviceIdFits connectionString

theorem accessPointUp_of_nameable
    {connectionString : FieldText connectionStringSize}
    (nameable : Nameable connectionString.text) :
    AccessPointUp connectionString.text := by
  by_cases present : connectionString.text = []
  · intro ssid memory
    rw [present]
    exact ⟨memory, apSsid, rfl, by decide, Or.inr rfl, fun _ _ => rfl⟩
  · exact accessPointUp_of_fits connectionString.nonzero present
      (nameable.resolve_left present)

/-- Settings of this kind are in RAM, and the next boot finds what is kept of
them. -/
def Keeps (kind : Settings → Prop) (storage : Storage) : Prop :=
  ∃ settings, Coherent storage settings ∧ kind settings

/-- A kind of settings that neither a clear nor new intervals leave. -/
structure Lasting (kind : Settings → Prop) : Prop where
  cleared : ∀ settings, kind settings → kind (clearedSettings settings)
  renumbered : ∀ settings changed,
    fieldTexts changed = fieldTexts settings → kind settings → kind changed

def Named (settings : Settings) : Prop :=
  Nameable settings.connectionString.text

theorem lasting_named : Lasting Named where
  cleared _ named := named
  renumbered settings changed same named := by
    have strings : changed.connectionString = settings.connectionString :=
      congrArg Prod.fst same
    rw [Named, strings]
    exact named

def Consistent (storage : Storage) : Prop :=
  Keeps Named storage

section Callbacks

variable {F : Type} {board : Board F} {kind : Settings → Prop}

theorem Lasting.clearWifi (lasting : Lasting kind) {storage : Storage}
    (keeps : Keeps kind storage) :
    Keeps kind (clearWifi .complete storage) := by
  obtain ⟨settings, coherent, holds⟩ := keeps
  exact ⟨_, coherent_clearWifi coherent, lasting.cleared settings holds⟩

theorem Lasting.checkWifiReset (lasting : Lasting kind) {poll : SwitchPoll}
    (written : poll.write = .complete) (keeps : Keeps kind board.storage) :
    Keeps kind (checkWifiReset poll board).storage := by
  rw [checkWifiReset_storage, written]
  split
  · exact lasting.clearWifi keeps
  · exact keeps

theorem Lasting.holdSwitch (lasting : Lasting kind) {polls : List SwitchPoll}
    (written : ∀ poll ∈ polls, poll.write = .complete)
    (keeps : Keeps kind board.storage) :
    Keeps kind (holdSwitch polls board).storage := by
  induction polls generalizing board with
  | nil => exact keeps
  | cons poll rest inductionHypothesis =>
      rw [holdSwitch_cons]
      exact inductionHypothesis
        (fun other member => written other (List.mem_cons_of_mem _ member))
        (lasting.checkWifiReset (written poll List.mem_cons_self) keeps)

theorem Lasting.onMessageSentCallback (lasting : Lasting kind)
    {polls : List SwitchPoll}
    (written : ∀ poll ∈ polls, poll.write = .complete)
    (result : ConfirmationResult) (keeps : Keeps kind board.storage) :
    Keeps kind (onMessageSentCallback result polls board).storage := by
  unfold Device.onMessageSentCallback
  split
  · exact lasting.holdSwitch written keeps
  · exact keeps

theorem Lasting.applyProperties (lasting : Lasting kind)
    (toInt : Bytes → BitVec 32) (commandId : BitVec 32)
    (properties : List (Bytes × Bytes)) (keeps : Keeps kind board.storage) :
    Keeps kind
      (applyProperties toInt .complete commandId properties board).storage := by
  unfold Device.applyProperties
  split
  · split
    · exact keeps
    · split
      · obtain ⟨settings, coherent, holds⟩ := keeps
        obtain ⟨changed, represents, same⟩ :=
          represents_setIntervalProperties toInt properties
            coherent.represents
        exact ⟨changed, coherent_saveConfig represents _,
          lasting.renumbered settings changed same holds⟩
      · exact keeps
  · exact keeps

variable [DoubleArith F]

/-- Of the commands only `ClearWIFI` writes the configuration itself. -/
theorem dispatchCommand_storage (input : CommandInput F) (content : Bytes)
    (commandId : BitVec 32) (board : Board F) :
    (dispatchCommand input content commandId board).2.storage =
      if content = clearWifiBody then clearWifi input.write board.storage
      else board.storage := by
  rw [dispatchCommand_eq]
  cases found : (commandTable input).find?
      (fun command => content = command.1) with
  | none =>
      have other : content ≠ clearWifiBody := by
        rintro rfl
        simp [commandTable] at found
      rw [if_neg other]
  | some command =>
      have same : content = command.1 := by
        simpa using List.find?_some found
      have member := List.mem_of_find?_eq_some found
      subst same
      simp only [commandTable, List.mem_cons, List.not_mem_nil,
        or_false] at member
      rcases member with rfl | rfl | rfl | rfl | rfl | rfl | rfl | rfl | rfl
      all_goals dsimp only
      · rw [if_neg (by decide), sendData_eq, takeReadings_eq]
      all_goals first
        | exact (if_pos rfl).symm
        | exact (if_neg (by decide)).symm

theorem Lasting.receiveMessageCallback (lasting : Lasting kind)
    (toInt : Bytes → BitVec 32) {input : CommandInput F}
    (written : input.write = .complete) (message : CloudMessage)
    (keeps : Keeps kind board.storage) :
    Keeps kind (receiveMessageCallback toInt input message board).storage := by
  obtain ⟨content, properties, stale⟩ := message
  have commanded : ∀ body : Bytes,
      Keeps kind (dispatchCommand input body stale board).2.storage := by
    intro body
    rw [dispatchCommand_storage, written]
    split
    · exact lasting.clearWifi keeps
    · exact keeps
  unfold Device.receiveMessageCallback
  rw [written]
  cases content with
  | none =>
      cases properties with
      | none => exact keeps
      | some properties => exact lasting.applyProperties toInt _ _ keeps
  | some body =>
      cases properties with
      | none => exact commanded body
      | some properties =>
          exact lasting.applyProperties toInt _ _ (commanded body)

theorem Lasting.doWork (lasting : Lasting kind) (toInt : Bytes → BitVec 32)
    {input : DoWorkInput F}
    (held : ∀ poll ∈ input.holdPolls, poll.write = .complete)
    (written : input.command.write = .complete)
    (keeps : Keeps kind board.storage) :
    Keeps kind (doWork toInt input board).storage := by
  have event : ∀ counted : Board F, Keeps kind counted.storage →
      Keeps kind (doEvent input counted).storage := by
    intro counted same
    unfold doEvent
    split
    · exact lasting.onMessageSentCallback held _ same
    · exact same
  unfold Device.doWork doMessages
  split
  · exact lasting.receiveMessageCallback toInt written _ (event _ keeps)
  · exact event _ keeps

end Callbacks

section Passes

variable {F : Type}

/-- Every argument fits its array, and the name of the access point its
buffer. -/
structure RequestFits (request : HttpRequest) : Prop where
  arguments : ArgumentsFit request
  named : request.hasArg deviceInfoArg = true →
    Nameable (cStr (request.arg deviceInfoArg))

/-- Every save this pass may make completes, and a request it serves fits. -/
structure WritesThrough (pass : PassInput F) : Prop where
  polled : pass.switchPoll.write = .complete
  served : ∀ portal, pass.portal = some portal →
    portal.write = .complete ∧ RequestFits portal.request
  held : ∀ poll ∈ pass.work.holdPolls, poll.write = .complete
  commanded : pass.work.command.write = .complete

/-- A request that fits leaves the storage consistent, whatever it asks
for. -/
theorem consistent_handleClient {request : HttpRequest}
    (fits : RequestFits request) {board : Board F}
    (consistent : Consistent board.storage) :
    Consistent (handleClient .complete request board).1.storage := by
  have kept := consistent
  obtain ⟨settings, coherent, nameable⟩ := consistent
  unfold handleClient
  split
  · unfold handleRoot
    split
    case isTrue present =>
      exact ⟨_, coherent_handleSubmit present (fits.arguments.1 present)
        coherent, nameable⟩
    case isFalse absent => exact kept
  · split
    · unfold handleSetup
      split
      case isTrue present =>
        exact ⟨_, coherent_handleSetupSubmit present
          (fits.arguments.2 present) coherent, fits.named present⟩
      case isFalse absent => exact kept
    · split <;> exact kept

variable [DoubleArith F]

theorem readRtc_storage (pass : PassInput F) (device : Firmware F) :
    (readRtc pass device).board.storage = device.board.storage := by
  rw [readRtc_eq]
  dsimp only
  split
  · rw [sampleSensors_eq]
  · rfl

omit [DoubleArith F] in
theorem endOfPass_sleepBlock_storage (pass : PassInput F)
    (device : Firmware F) :
    (endOfPass (sleepBlock pass device)).board.storage =
      device.board.storage := by
  unfold sleepBlock
  split <;> rfl

section Pass

variable {pass : PassInput F} {device : Firmware F} {kind : Settings → Prop}

theorem Lasting.enterBranch (lasting : Lasting kind)
    (through : WritesThrough pass) (keeps : Keeps kind device.board.storage) :
    Keeps kind (enterBranch pass (readRtc pass device)).board.storage := by
  rw [← readRtc_storage pass device] at keeps
  exact lasting.checkWifiReset through.polled keeps

theorem Lasting.serviceHub (lasting : Lasting kind)
    (toInt : Bytes → BitVec 32) (through : WritesThrough pass)
    (keeps : Keeps kind device.board.storage) :
    Keeps kind (serviceHub toInt pass device).board.storage :=
  lasting.doWork toInt through.held through.commanded keeps

theorem Lasting.afterReport (lasting : Lasting kind)
    (toInt : Bytes → BitVec 32) (through : WritesThrough pass)
    (keeps : Keeps kind device.board.storage) :
    Keeps kind (afterReport toInt pass device).board.storage := by
  apply lasting.serviceHub toInt through
  change Keeps kind (sendData pass.report
    (commitBaseline (inBranch pass device)).board).storage
  rw [sendData_eq, takeReadings_eq]
  exact lasting.enterBranch through keeps

/-- A pass of a station keeps the settings of their kind, however it ends. -/
theorem Lasting.loop_station (lasting : Lasting kind)
    (toInt : Bytes → BitVec 32) (through : WritesThrough pass)
    (mode : device.accessPoint = false)
    (keeps : Keeps kind device.board.storage) :
    Keeps kind (endOfPass (loop toInt pass device)).board.storage := by
  have entered := lasting.enterBranch through keeps
  cases Device.loop_station toInt pass mode with
  | quiet skipped ends =>
      rw [ends, endOfPass_sleepBlock_storage, readRtc_storage]
      exact keeps
  | resets due now ends =>
      rw [ends]
      exact entered
  | offline due unconnected ends =>
      rw [ends, endOfPass_sleepBlock_storage]
      exact entered
  | returns due notNow connected opened held ends =>
      rw [ends]
      exact entered
  | sends due connected opened free ends =>
      rw [ends, endOfPass_sleepBlock_storage]
      exact lasting.afterReport toInt through keeps
  | waits due notNow connected closed ends =>
      rw [ends]
      exact lasting.serviceHub toInt through entered

theorem consistent_loop (toInt : Bytes → BitVec 32)
    (through : WritesThrough pass)
    (consistent : Consistent device.board.storage) :
    Consistent (endOfPass (loop toInt pass device)).board.storage := by
  have entered := lasting_named.enterBranch through consistent
  cases mode : device.accessPoint
  · exact lasting_named.loop_station toInt through mode consistent
  · rw [loop_accessPoint_eq toInt pass mode]
    split
    · exact entered
    · change Consistent (servePortal pass _).board.storage
      unfold servePortal
      cases served : pass.portal with
      | none => exact entered
      | some portal =>
          obtain ⟨written, fits⟩ := through.served portal served
          dsimp only
          rw [written]
          exact consistent_handleClient fits entered

end Pass

theorem consistent_run (toInt : Bytes → BitVec 32)
    {passes : List (PassInput F)} {device : Firmware F}
    (through : ∀ pass ∈ passes, WritesThrough pass)
    (consistent : Consistent device.board.storage) :
    Consistent
      (endOfPass (run (loop toInt) passes device)).board.storage := by
  induction passes generalizing device with
  | nil => exact consistent
  | cons pass rest inductionHypothesis =>
      have after :=
        consistent_loop toInt (through pass List.mem_cons_self) consistent
      cases stepped : loop toInt pass device with
      | again next =>
          rw [stepped] at after
          rw [run_cons_again stepped]
          exact inductionHypothesis
            (fun other member =>
              through other (List.mem_cons_of_mem _ member)) after
      | halted result =>
          rw [run_cons_halted stepped, ← stepped]
          exact after

/-- A station stays one, and keeps the kind of its settings. -/
theorem Lasting.run_station {kind : Settings → Prop} (lasting : Lasting kind)
    (toInt : Bytes → BitVec 32) {passes : List (PassInput F)}
    {device : Firmware F} (through : ∀ pass ∈ passes, WritesThrough pass)
    (mode : device.accessPoint = false)
    (keeps : Keeps kind device.board.storage) :
    Keeps kind
      (endOfPass (run (loop toInt) passes device)).board.storage := by
  induction passes generalizing device with
  | nil => exact keeps
  | cons pass rest inductionHypothesis =>
      have after := lasting.loop_station toInt
        (through pass List.mem_cons_self) mode keeps
      cases stepped : loop toInt pass device with
      | again next =>
          have station := (returned_of_loop mode stepped).mode.1.trans mode
          rw [stepped] at after
          rw [run_cons_again stepped]
          exact inductionHypothesis
            (fun other member =>
              through other (List.mem_cons_of_mem _ member)) station after
      | halted result =>
          rw [run_cons_halted stepped, ← stepped]
          exact after

end Passes

section Boots

variable {F : Type}

section Connecting

variable {kind : Settings → Prop} (lasting : Lasting kind)
include lasting

theorem Lasting.associate {polls : List SwitchPoll}
    (written : ∀ poll ∈ polls, poll.write = .complete) (state : Bool)
    (tries resetCount : Nat) {board : Board F}
    (keeps : Keeps kind board.storage) :
    Keeps kind
      (ConnectEnd.board
        (associate polls state tries resetCount board)).storage := by
  induction polls generalizing state tries resetCount board with
  | nil => exact keeps
  | cons poll rest inductionHypothesis =>
      have polled : Keeps kind
          (Device.checkWifiReset poll
            { board with
              outputs := controlLed greenLed state board.outputs }).storage :=
        lasting.checkWifiReset (written poll List.mem_cons_self) keeps
      rw [Device.associate]
      split
      · exact polled
      · split
        · exact polled
        · exact inductionHypothesis
            (fun other member => written other (List.mem_cons_of_mem _ member))
            _ _ _ polled

theorem Lasting.connect {input : ConnectInput}
    (written : ∀ poll ∈
      (if input.alreadyConnected then [] else
        input.attempts ++ input.holdPolls), poll.write = .complete)
    {board : Board F} (keeps : Keeps kind board.storage) :
    Keeps kind (ConnectEnd.board (connect input board)).storage := by
  unfold Device.connect
  split
  case isTrue already => exact keeps
  case isFalse fresh =>
    rw [if_neg fresh] at written
    have associated := lasting.associate
      (fun poll member => written poll (List.mem_append_left _ member))
      true 0 0 keeps
    split
    · rename_i restarting joined
      rw [joined] at associated
      exact associated
    · rename_i resetCount connected joined
      rw [joined] at associated
      exact lasting.holdSwitch
        (fun poll member => written poll (List.mem_append_right _ member))
        associated

end Connecting

variable [DoubleArith F]

/-- The device behind `loadConfig`. -/
def bootedWith (input : SetupInput) (persistent : Persistent F)
    (config : Memory) : Firmware F :=
  { bootDevice input persistent with
    board :=
      { (bootDevice input persistent).board with
        storage := ⟨config, persistent.configFile⟩ } }

theorem setup_eq {input : SetupInput} (persistent : Persistent F)
    (mounts : input.mounts = true) :
    setup input persistent =
      match bootConfig input.heap persistent.configFile with
      | some config => setupLoaded input (bootedWith input persistent config)
      | none => .faults := by
  have stored : (bootDevice input persistent).board.storage =
      ⟨zeroConfig, persistent.configFile⟩ := rfl
  simp only [setup, mounts, if_true, stored, bootConfig]
  cases loadConfig input.heap ⟨zeroConfig, persistent.configFile⟩ <;> rfl

/-- What the file alone says of that. -/
def Restores (configFile : Option Bytes) : Prop :=
  ∃ settings : Settings, BootsWith configFile settings.kept ∧
    Nameable settings.connectionString.text

omit [DoubleArith F] in
theorem Consistent.restores {storage : Storage}
    (consistent : Consistent storage) : Restores storage.configFile := by
  obtain ⟨settings, coherent, nameable⟩ := consistent
  exact ⟨settings, coherent.bootsWith, nameable⟩

omit [DoubleArith F] in
theorem Consistent.accessPointUp {storage : Storage}
    (consistent : Consistent storage) :
    AccessPointUp (fieldText storage.config connectionStringAddress) := by
  obtain ⟨settings, coherent, nameable⟩ := consistent
  rw [coherent.represents.connectionString_eq (by decide)]
  exact accessPointUp_of_nameable nameable

theorem Restores.bootedWith {persistent : Persistent F}
    (restores : Restores persistent.configFile) (input : SetupInput) :
    ∃ config, bootConfig input.heap persistent.configFile = some config ∧
      Consistent (bootedWith input persistent config).board.storage := by
  obtain ⟨settings, boots, nameable⟩ := restores
  obtain ⟨config, booted, represents⟩ := boots input.heap
  refine ⟨config, booted, settings.kept, ⟨represents, ?_⟩, nameable⟩
  rw [settings.kept_idem]
  exact boots

/-- `setup()` does not fault, and however it ends RAM and flash are
consistent. -/
def KeepsConfig : SetupEnd F → Prop
  | .loops device => Consistent device.board.storage
  | .sleeps device => Consistent device.board.storage
  | .restarts device => Consistent device.board.storage
  | .faults => False

omit [DoubleArith F] in
theorem consistent_setupLoaded {input : SetupInput} {device : Firmware F}
    (written : ∀ poll ∈ input.polls, poll.write = .complete)
    (consistent : Consistent device.board.storage) :
    KeepsConfig (setupLoaded input device) := by
  simp only [SetupInput.polls, List.mem_append] at written
  have held := lasting_named.holdSwitch
    (fun poll member => written poll (Or.inl (Or.inl member))) consistent
  have ready : Consistent
      (initBoard input (holdSwitch input.firstHold device.board)).storage :=
    lasting_named.holdSwitch
      (fun poll member => written poll (Or.inl (Or.inr member))) held
  simp only [setupLoaded]
  split
  · exact ready
  · have left := lasting_named.connect
      (fun poll member => written poll (Or.inr member)) ready
    split
    · rename_i restarting joined
      rw [joined] at left
      exact left
    · rename_i resetCount connected joined
      rw [joined] at left
      split
      · exact left
      · exact left

theorem consistent_setup {input : SetupInput} {persistent : Persistent F}
    (mounts : input.mounts = true)
    (written : ∀ poll ∈ input.polls, poll.write = .complete)
    (restores : Restores persistent.configFile) :
    KeepsConfig (setup input persistent) := by
  obtain ⟨config, booted, consistent⟩ := restores.bootedWith input
  rw [setup_eq persistent mounts, booted]
  exact consistent_setupLoaded written consistent

end Boots

section Lives

variable {F : Type} [DoubleArith F]

/-- What one boot and the passes behind it leave, up to a deep sleep, a reset
or a power failure. -/
def lifeEnd (toInt : Bytes → BitVec 32) (input : WakeInput F)
    (persistent : Persistent F) : Option (Firmware F) :=
  match setup input.boot persistent with
  | .loops device => some (endOfPass (run (loop toInt) input.passes device))
  | .sleeps device => some device
  | .restarts device => some device
  | .faults => none

/-- A life, and what the next one starts from; none is behind a fault. -/
def life (toInt : Bytes → BitVec 32) (input : WakeInput F)
    (persistent : Persistent F) : Outcome (Persistent F) Unit :=
  match lifeEnd toInt input persistent with
  | some device => .again device.persistent
  | none => .halted ()

/-- The file system works throughout, and every submission fits. -/
structure WritesThroughLife (input : WakeInput F) : Prop where
  mounts : input.boot.mounts = true
  polled : ∀ poll ∈ input.boot.polls, poll.write = .complete
  passes : ∀ pass ∈ input.passes, WritesThrough pass

/-- The boot does not copy from a null pointer, an access point comes up under
a name that fits its buffer, and every boot behind this life restores what RAM
holds at its end. -/
def ReadsBack (toInt : Bytes → BitVec 32) (persistent : Persistent F)
    (input : WakeInput F) : Prop :=
  (∀ device, setup input.boot persistent = .loops device →
    AccessPointUp
      (fieldText device.board.storage.config connectionStringAddress)) ∧
    ∃ final, lifeEnd toInt input persistent = some final ∧
      ∀ heap, ∃ config,
        bootConfig heap final.board.storage.configFile = some config ∧
          RestoredFrom final.board.storage.config config

theorem lifeEnd_consistent (toInt : Bytes → BitVec 32)
    {persistent : Persistent F} {input : WakeInput F}
    (restores : Restores persistent.configFile)
    (written : WritesThroughLife input) :
    ∃ final, lifeEnd toInt input persistent = some final ∧
      Consistent final.board.storage := by
  have keeps := consistent_setup written.mounts written.polled restores
  unfold lifeEnd
  cases ended : setup input.boot persistent with
  | loops device =>
      rw [ended] at keeps
      exact ⟨_, rfl, consistent_run toInt written.passes keeps⟩
  | sleeps device =>
      rw [ended] at keeps
      exact ⟨device, rfl, keeps⟩
  | restarts device =>
      rw [ended] at keeps
      exact ⟨device, rfl, keeps⟩
  | faults =>
      rw [ended] at keeps
      exact False.elim keeps

/-- From the factory on, through resets, sleeps and power failures, whatever
is submitted, commanded or pressed, every boot finds the settings the one
before held in RAM, and none faults. -/
theorem everyLife_readsBack (toInt : Bytes → BitVec 32)
    {lives : List (WakeInput F)} (record : RtcData F)
    (through : ∀ input ∈ lives, WritesThroughLife input) :
    EveryStep (life toInt) (ReadsBack toInt) lives ⟨record, none⟩ := by
  refine EveryStep.of_invariant
    (fun persistent => Restores persistent.configFile)
    (fun persistent input _ restores written => ?_)
    (fun persistent input _ next restores written stepped => ?_)
    ⟨factorySettings, coherent_factory.bootsWith, Or.inl rfl⟩
    (everyStep_of_forall (fun _ => through) _)
  · obtain ⟨final, ended, consistent⟩ :=
      lifeEnd_consistent toInt restores written
    obtain ⟨settings, coherent, -⟩ := consistent
    refine ⟨fun device loops => ?_, final, ended, coherent.restoredFrom⟩
    have keeps := consistent_setup written.mounts written.polled restores
    rw [loops] at keeps
    exact keeps.accessPointUp
  · obtain ⟨final, ended, consistent⟩ :=
      lifeEnd_consistent toInt restores written
    rw [life, ended] at stepped
    cases stepped
    exact consistent.restores

end Lives

def networkRequest : HttpRequest where
  uri := bytesOf "/"
  args := [(ssidArg, bytesOf "net"), (ssidPassArg, bytesOf "secret")]

def idlePass : PassInput ℚ :=
  samplePass (sampleReadings 70 40 100) (sampleReadings 70 40 100) 0 .retry

def submitPass : PassInput ℚ :=
  { idlePass with portal := some ⟨networkRequest, .complete⟩ }

theorem writesThrough_idlePass : WritesThrough idlePass where
  polled := rfl
  served := by rintro portal ⟨⟩
  held := by rintro poll ⟨⟩
  commanded := rfl

theorem writesThrough_submitPass : WritesThrough submitPass where
  polled := rfl
  served := by
    rintro portal ⟨⟩
    have unasked : ¬ networkRequest.hasArg deviceInfoArg = true := by decide
    exact ⟨rfl, ⟨fun _ =>
      { ssidNonzero := nonzero_of_all (by decide +kernel)
        ssidLength := by decide +kernel
        ssidPassNonzero := nonzero_of_all (by decide +kernel)
        ssidPassLength := by decide +kernel },
      fun asked => absurd asked unasked⟩, fun asked => absurd asked unasked⟩
  held := by rintro poll ⟨⟩
  commanded := rfl

theorem writesThroughLife_sampleBoot {passes : List (PassInput ℚ)}
    (through : ∀ pass ∈ passes, WritesThrough pass) :
    WritesThroughLife ⟨sampleBoot, passes⟩ where
  mounts := rfl
  polled := by simp [SetupInput.polls, sampleBoot]
  passes := through

/-- A submission to a device fresh from the factory, and the boot after it. -/
theorem factorySubmission_readsBack :
    EveryStep (life fun _ => 0) (ReadsBack fun _ => 0)
      [⟨sampleBoot, [submitPass]⟩, ⟨sampleBoot, []⟩] ⟨sampleRecord, none⟩ :=
  everyLife_readsBack (fun _ => 0) sampleRecord (by
    intro input member
    rcases List.mem_pair.mp member with rfl | rfl
    · exact writesThroughLife_sampleBoot (by
        simpa using writesThrough_submitPass)
    · exact writesThroughLife_sampleBoot (by simp))

end FunnelDispenser.Provisioning
