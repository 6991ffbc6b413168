import FunnelDispenser.Device.HubEffects

/-!
# The table of cloud commands

A message is handled in two phases.  The body selects a command number, then
the properties are applied under that number.  A body that selects nothing
leaves the number as the stack left it.
-/

namespace FunnelDispenser.Device

open CMemory Config

/-- The value of the last property whose key is this name, ignoring case. -/
def lastValue (name : Bytes) (properties : List (Bytes × Bytes)) :
    Option Bytes :=
  properties.reverse.findSome? fun property =>
    if equalsIgnoreCase property.1 name then some property.2 else none

theorem lastValue_append (name : Bytes) (properties : List (Bytes × Bytes))
    (property : Bytes × Bytes) :
    lastValue name (properties ++ [property]) =
      if equalsIgnoreCase property.1 name then some property.2
      else lastValue name properties := by
  rw [lastValue, List.reverse_append, List.reverse_singleton,
    List.singleton_append, List.findSome?_cons]
  cases matched : equalsIgnoreCase property.1 name
  · rfl
  · rfl

section Assigned

variable (toInt : Bytes → BitVec 32) (properties : List (Bytes × Bytes))

/-- The number under a name after all properties, from the number before. -/
def assigned (name : Bytes) (before : BitVec 32) : BitVec 32 :=
  ((lastValue name properties).map toInt).getD before

theorem assigned_append (property : Bytes × Bytes) (name : Bytes)
    (before : BitVec 32) :
    assigned toInt (properties ++ [property]) name before =
      if equalsIgnoreCase property.1 name then toInt property.2
      else assigned toInt properties name before := by
  rw [assigned, lastValue_append]
  split
  · rfl
  · rfl

def assignDurations (outputs : Outputs) : Outputs :=
  { outputs with
    redLedDuration :=
      assigned toInt properties (bytesOf "red") outputs.redLedDuration
    greenLedDuration :=
      assigned toInt properties (bytesOf "green") outputs.greenLedDuration
    blueLedDuration :=
      assigned toInt properties (bytesOf "blue") outputs.blueLedDuration }

def assignedInterval (config : Memory) (interval : Interval) : BitVec 32 :=
  assigned toInt properties (propertyName interval)
    (loadWord config interval.address)

def assignIntervals (config : Memory) : Memory :=
  storeIntervals (assignedInterval toInt properties config) config
    Interval.all

end Assigned

/-- The loop over the properties leaves each duration with the last value
under its name. -/
theorem foldl_setLedProperty (toInt : Bytes → BitVec 32)
    (properties : List (Bytes × Bytes)) (outputs : Outputs) :
    properties.foldl (setLedProperty toInt) outputs =
      assignDurations toInt properties outputs := by
  induction properties using List.reverseRecOn with
  | nil => rfl
  | append_singleton properties property inductionHypothesis =>
      rw [List.foldl_append, inductionHypothesis, List.foldl_cons,
        List.foldl_nil]
      simp only [setLedProperty, assignDurations, assigned_append]
      cases equalsIgnoreCase property.1 (bytesOf "red") <;>
        cases equalsIgnoreCase property.1 (bytesOf "green") <;>
        cases equalsIgnoreCase property.1 (bytesOf "blue") <;> rfl

def intervalBytes : Set Nat :=
  { position | ∃ interval : Interval,
      interval.address ≤ position ∧ position < interval.address + 4 }

/-- Equal intervals and equal bytes elsewhere make equal configurations. -/
theorem config_eq_of_intervals {left right : Memory}
    (intervals : ∀ interval : Interval,
      loadWord left interval.address = loadWord right interval.address)
    (elsewhere : ∀ position ∉ intervalBytes,
      left position = right position) :
    left = right := by
  funext position
  by_cases inside : position ∈ intervalBytes
  · obtain ⟨interval, lower, upper⟩ := inside
    have offset : position - interval.address < 4 := by omega
    have same := agree_of_loadWord_eq (intervals interval) offset
    rwa [Nat.add_sub_cancel' lower] at same
  · exact elsewhere position inside

theorem outside_of_not_mem_intervalBytes {position : Nat}
    (outside : position ∉ intervalBytes) (interval : Interval) :
    position < interval.address ∨ interval.address + 4 ≤ position := by
  by_contra inside
  exact outside ⟨interval, by omega, by omega⟩

section Intervals

variable (toInt : Bytes → BitVec 32) (properties : List (Bytes × Bytes))
variable (config : Memory)

theorem loadWord_assignIntervals (interval : Interval) :
    loadWord (assignIntervals toInt properties config) interval.address =
      assignedInterval toInt properties config interval :=
  loadWord_storeIntervals _ Interval.all (by decide) config
    (Interval.mem_all interval)

theorem assignIntervals_frame {position : Nat}
    (outside : position ∉ intervalBytes) :
    assignIntervals toInt properties config position = config position :=
  storeIntervals_frame _ Interval.all config position
    (fun interval _ => outside_of_not_mem_intervalBytes outside interval)

theorem assignIntervals_eq_self_iff :
    assignIntervals toInt properties config = config ↔
      ∀ interval : Interval,
        assignedInterval toInt properties config interval =
          loadWord config interval.address := by
  constructor
  · intro same interval
    rw [← loadWord_assignIntervals, same]
  · intro values
    apply config_eq_of_intervals
    · intro interval
      rw [loadWord_assignIntervals, values]
    · intro position outside
      exact assignIntervals_frame toInt properties config outside

end Intervals

section Property

variable (toInt : Bytes → BitVec 32) (property : Bytes × Bytes)

/-- One test of the loop: store the value under an interval of this name. -/
def storeMatching (stored : Memory) (interval : Interval) : Memory :=
  if equalsIgnoreCase property.1 (propertyName interval) then
    storeWord stored interval.address (toInt property.2)
  else stored

theorem storeMatching_frame (config : Memory) {interval : Interval}
    {position : Nat}
    (outside : position < interval.address ∨
      interval.address + 4 ≤ position) :
    storeMatching toInt property config interval position =
      config position := by
  unfold storeMatching
  split
  · exact storeWord_frame _ _ _ _ outside
  · rfl

theorem loadWord_storeMatching (config : Memory) (interval : Interval) :
    loadWord (storeMatching toInt property config interval)
        interval.address =
      if equalsIgnoreCase property.1 (propertyName interval) then
        toInt property.2
      else loadWord config interval.address := by
  unfold storeMatching
  split
  · exact loadWord_storeWord _ _ _
  · rfl

theorem foldl_storeMatching_frame (intervals : List Interval)
    (config : Memory) {position : Nat}
    (outside : ∀ interval ∈ intervals,
      position < interval.address ∨ interval.address + 4 ≤ position) :
    intervals.foldl (storeMatching toInt property) config position =
      config position := by
  induction intervals generalizing config with
  | nil => rfl
  | cons interval rest inductionHypothesis =>
      rw [List.foldl_cons,
        inductionHypothesis _
          (fun other member => outside other (by simp [member])),
        storeMatching_frame _ _ _ (outside interval (by simp))]

theorem loadWord_foldl_storeMatching (intervals : List Interval)
    (distinct : intervals.Nodup) (config : Memory) {interval : Interval}
    (member : interval ∈ intervals) :
    loadWord (intervals.foldl (storeMatching toInt property) config)
        interval.address =
      if equalsIgnoreCase property.1 (propertyName interval) then
        toInt property.2
      else loadWord config interval.address := by
  induction intervals generalizing config with
  | nil => cases member
  | cons first rest inductionHypothesis =>
      obtain ⟨notInRest, restDistinct⟩ := List.nodup_cons.mp distinct
      have apart : ∀ other ∈ rest,
          other.address + 4 ≤ first.address ∨
            first.address + 4 ≤ other.address := by
        intro other otherMember
        apply Interval.address_disjoint
        rintro rfl
        exact notInRest otherMember
      rw [List.foldl_cons]
      rcases List.mem_cons.mp member with rfl | inRest
      · -- no later test writes the four bytes of this interval
        rw [← loadWord_storeMatching]
        apply loadWord_of_agree
        intro offset bound
        apply foldl_storeMatching_frame
        intro other otherMember
        have := apart other otherMember
        omega
      · have unchanged :
            loadWord (storeMatching toInt property config first)
                interval.address =
              loadWord config interval.address := by
          apply loadWord_of_agree
          intro offset bound
          apply storeMatching_frame
          have := apart interval inRest
          omega
        rw [inductionHypothesis restDistinct _ inRest, unchanged]

/-- A property stores its value under every interval of its name. -/
theorem loadWord_setIntervalProperty (config : Memory)
    (interval : Interval) :
    loadWord (setIntervalProperty toInt config property) interval.address =
      if equalsIgnoreCase property.1 (propertyName interval) then
        toInt property.2
      else loadWord config interval.address :=
  loadWord_foldl_storeMatching toInt property Interval.all (by decide)
    config (Interval.mem_all interval)

theorem setIntervalProperty_frame (config : Memory) {position : Nat}
    (outside : position ∉ intervalBytes) :
    setIntervalProperty toInt config property position = config position :=
  foldl_storeMatching_frame toInt property Interval.all config
    (fun interval _ => outside_of_not_mem_intervalBytes outside interval)

end Property

/-- The loop over the properties leaves each interval with the last value
under its name. -/
theorem foldl_setIntervalProperty (toInt : Bytes → BitVec 32)
    (properties : List (Bytes × Bytes)) (config : Memory) :
    properties.foldl (setIntervalProperty toInt) config =
      assignIntervals toInt properties config := by
  induction properties using List.reverseRecOn with
  | nil =>
      symm
      rw [List.foldl_nil, assignIntervals_eq_self_iff]
      intro interval
      rfl
  | append_singleton properties property inductionHypothesis =>
      rw [List.foldl_append, inductionHypothesis, List.foldl_cons,
        List.foldl_nil]
      apply config_eq_of_intervals
      · intro interval
        rw [loadWord_setIntervalProperty, loadWord_assignIntervals,
          loadWord_assignIntervals, assignedInterval, assignedInterval,
          assigned_append]
      · intro position outside
        rw [setIntervalProperty_frame _ _ _ outside,
          assignIntervals_frame _ _ _ outside,
          assignIntervals_frame _ _ _ outside]

section Table

variable {F : Type}

/-- The properties of a message; without a map there are none. -/
def CloudMessage.propertyList (message : CloudMessage) :
    List (Bytes × Bytes) :=
  message.properties.getD []

def savesConfig (message : CloudMessage) : Bool :=
  message.content = some clearWifiBody ||
    (message.content = some configIntervalBody &&
      message.propertyList ≠ [])

def Outputs.durations (outputs : Outputs) :
    BitVec 32 × BitVec 32 × BitVec 32 :=
  (outputs.redLedDuration, outputs.greenLedDuration,
    outputs.blueLedDuration)

/-- What a message does to the configuration, its file, the durations and the
two flags, by its body alone. -/
structure FollowsTable (toInt : Bytes → BitVec 32) (write : WriteOutcome)
    (message : CloudMessage) (before after : Board F) : Prop where
  config : message.content ≠ some clearWifiBody →
    after.storage.config =
      if message.content = some configIntervalBody then
        assignIntervals toInt message.propertyList before.storage.config
      else before.storage.config
  cleared : message.content = some clearWifiBody →
    CredentialsCleared before.storage.config after.storage.config
  configFile : after.storage.configFile =
    if savesConfig message then
      (saveConfig write
        { before.storage with config := after.storage.config }).1.configFile
    else before.storage.configFile
  durations : after.outputs.durations =
    if message.content = some setLedBody then
      (assignDurations toInt message.propertyList before.outputs).durations
    else before.outputs.durations
  displayFreeHeapFlag : after.displayFreeHeapFlag =
    if message.content = some displayFreeHeapBody then true
    else if message.content = some hideFreeHeapBody then false
    else before.displayFreeHeapFlag
  resetDevice : after.resetDevice =
    (before.resetDevice || message.content = some clearWifiBody)

section Phase

variable (toInt : Bytes → BitVec 32) (write : WriteOutcome)
variable (properties : List (Bytes × Bytes)) (board : Board F)

theorem applyProperties_setLed :
    applyProperties toInt write 8 properties board =
      { board with
        outputs := assignDurations toInt properties board.outputs } := by
  cases properties with
  | nil => rfl
  | cons property rest =>
      rw [applyProperties, if_pos (by simp), if_pos rfl,
        foldl_setLedProperty]

theorem applyProperties_configInterval (some : properties ≠ []) :
    applyProperties toInt write 9 properties board =
      { board with
        storage := (saveConfig write
          { board.storage with
            config := assignIntervals toInt properties
              board.storage.config }).1 } := by
  rw [applyProperties, if_pos (List.length_pos_iff.mpr some),
    if_neg (by decide), if_pos rfl, foldl_setIntervalProperty]

theorem applyProperties_nil (commandId : BitVec 32) :
    applyProperties toInt write commandId [] board = board :=
  rfl

theorem applyProperties_other {commandId : BitVec 32}
    (notLed : commandId ≠ 8) (notInterval : commandId ≠ 9) :
    applyProperties toInt write commandId properties board = board := by
  rw [applyProperties, if_neg notLed, if_neg notInterval, ite_self]

end Phase

def commandBodies : List Bytes :=
  [sendDataBody, displayBatteryBody, displayEnvironmentBody,
    displayDistanceBody, clearWifiBody, displayFreeHeapBody,
    hideFreeHeapBody, setLedBody, configIntervalBody]

/-- The content could be retrieved and is the body of a command. -/
def KnownBody (message : CloudMessage) : Prop :=
  ∃ body ∈ commandBodies, message.content = some body

private theorem followsTable_of_plain {toInt : Bytes → BitVec 32}
    {write : WriteOutcome} {message : CloudMessage}
    {body : Bytes} {number : BitVec 32} {before after : Board F}
    (content : message.content = some body)
    (notLed : body ≠ setLedBody ∧ number ≠ 8)
    (notInterval : body ≠ configIntervalBody ∧ number ≠ 9)
    (storage : after.storage =
      if body = clearWifiBody then clearWifi write before.storage
      else before.storage)
    (outputs : after.outputs = before.outputs)
    (displayFreeHeapFlag : after.displayFreeHeapFlag =
      if body = displayFreeHeapBody then true
      else if body = hideFreeHeapBody then false
      else before.displayFreeHeapFlag)
    (resetDevice : after.resetDevice =
      (before.resetDevice || body = clearWifiBody)) :
    FollowsTable toInt write message before
      (applyProperties toInt write number message.propertyList
        after) := by
  rw [applyProperties_other _ _ _ _ notLed.2 notInterval.2]
  have notSetting : message.content ≠ some configIntervalBody := by
    rw [content]
    exact fun same => notInterval.1 (Option.some.inj same)
  constructor
  · intro notClear
    have keeps : body ≠ clearWifiBody := by
      rintro rfl
      exact notClear content
    rw [if_neg notSetting, storage, if_neg keeps]
  · intro clear
    have clears : body = clearWifiBody :=
      Option.some.inj (content.symm.trans clear)
    rw [storage, if_pos clears, clearWifi, saveConfig_config]
    exact credentialsCleared_clearCredentials before.storage.config
  · rw [storage]
    by_cases clears : body = clearWifiBody
    · simp [savesConfig, content, clears, clearWifi]
    · simp [savesConfig, content, notInterval.1, clears]
  · simp [content, notLed.1, outputs]
  · simpa [content] using displayFreeHeapFlag
  · simpa [content] using resetDevice

private theorem followsTable_setLed (toInt : Bytes → BitVec 32)
    (write : WriteOutcome) {message : CloudMessage}
    (content : message.content = some setLedBody) (board : Board F) :
    FollowsTable toInt write message board
      (applyProperties toInt write 8 message.propertyList board) := by
  have notInterval : setLedBody ≠ configIntervalBody := by decide
  have notClear : setLedBody ≠ clearWifiBody := by decide
  have notShow : setLedBody ≠ displayFreeHeapBody := by decide
  have notHide : setLedBody ≠ hideFreeHeapBody := by decide
  rw [applyProperties_setLed]
  constructor <;>
    simp [savesConfig, content, notInterval, notClear, notShow, notHide]

private theorem followsTable_configInterval (toInt : Bytes → BitVec 32)
    (write : WriteOutcome) {message : CloudMessage}
    (content : message.content = some configIntervalBody)
    (board : Board F) :
    FollowsTable toInt write message board
      (applyProperties toInt write 9 message.propertyList board) := by
  have notLed : configIntervalBody ≠ setLedBody := by decide
  have notClear : configIntervalBody ≠ clearWifiBody := by decide
  have notShow : configIntervalBody ≠ displayFreeHeapBody := by decide
  have notHide : configIntervalBody ≠ hideFreeHeapBody := by decide
  by_cases empty : message.propertyList = []
  · have kept : assignIntervals toInt [] board.storage.config =
        board.storage.config := by
      rw [assignIntervals_eq_self_iff]
      intro interval
      rfl
    rw [empty, applyProperties_nil]
    constructor <;>
      simp [savesConfig, content, empty, kept, notLed, notClear, notShow,
        notHide]
  · rw [applyProperties_configInterval _ _ _ _ empty]
    constructor <;>
      simp [savesConfig, content, empty, notLed, notClear, notShow, notHide]

/-- What the stack holds in the place of the number does no harm: it is not
the number of a command with properties, or there are no properties, or they
repeat what is there. -/
structure StaleHarmless (toInt : Bytes → BitVec 32) (write : WriteOutcome)
    (message : CloudMessage) (board : Board F) : Prop where
  setLed : message.commandId = 8 →
    assigned toInt message.propertyList (bytesOf "red")
        board.outputs.redLedDuration = board.outputs.redLedDuration ∧
      assigned toInt message.propertyList (bytesOf "green")
        board.outputs.greenLedDuration = board.outputs.greenLedDuration ∧
      assigned toInt message.propertyList (bytesOf "blue")
        board.outputs.blueLedDuration = board.outputs.blueLedDuration
  configInterval : message.commandId = 9 → message.propertyList ≠ [] →
    (∀ interval : Interval,
      assigned toInt message.propertyList (propertyName interval)
          (loadWord board.storage.config interval.address) =
        loadWord board.storage.config interval.address) ∧
      (saveConfig write board.storage).1.configFile =
        board.storage.configFile

/-- Outside of the table a message has to leave everything as it is. -/
theorem followsTable_unknown_iff {toInt : Bytes → BitVec 32}
    {write : WriteOutcome} {message : CloudMessage}
    (unknown : ¬ KnownBody message) (before after : Board F) :
    FollowsTable toInt write message before after ↔
      after.storage = before.storage ∧
        after.outputs.durations = before.outputs.durations ∧
        after.displayFreeHeapFlag = before.displayFreeHeapFlag ∧
        after.resetDevice = before.resetDevice := by
  have other : ∀ body ∈ commandBodies, message.content ≠ some body := by
    intro body inTable content
    exact unknown ⟨body, inTable, content⟩
  have notInterval := other configIntervalBody (by simp [commandBodies])
  have notClear := other clearWifiBody (by simp [commandBodies])
  have notLed := other setLedBody (by simp [commandBodies])
  have notShow := other displayFreeHeapBody (by simp [commandBodies])
  have notHide := other hideFreeHeapBody (by simp [commandBodies])
  constructor
  · rintro ⟨config, -, configFile, durations, display, reset⟩
    replace config := config notClear
    simp only [savesConfig, notInterval, notClear, notLed, notShow, notHide,
      if_false, decide_false, Bool.false_and, Bool.or_false,
      Bool.false_eq_true] at config configFile durations display reset
    refine ⟨?_, durations, display, reset⟩
    cases stored : after.storage
    rw [stored] at config configFile
    simp only at config configFile
    rw [config, configFile]
  · rintro ⟨storage, durations, display, reset⟩
    constructor <;>
      simp [savesConfig, notInterval, notClear, notLed, notShow, notHide,
        storage, durations, display, reset]

variable [DoubleArith F]

/-- The number and the state behind the first phase. -/
def commanded (input : CommandInput F) (message : CloudMessage)
    (board : Board F) : BitVec 32 × Board F :=
  match message.content with
  | some content => dispatchCommand input content message.commandId board
  | none => (message.commandId, board)

theorem receiveMessageCallback_eq (toInt : Bytes → BitVec 32)
    (input : CommandInput F) (message : CloudMessage) (board : Board F) :
    receiveMessageCallback toInt input message board =
      applyProperties toInt input.write (commanded input message board).1
        message.propertyList (commanded input message board).2 := by
  obtain ⟨content, properties, stale⟩ := message
  cases properties with
  | none =>
      rw [CloudMessage.propertyList, Option.getD_none, applyProperties_nil]
      rfl
  | some properties => rfl

theorem commandTable_bodies (input : CommandInput F) :
    (commandTable input).map Prod.fst = commandBodies :=
  rfl

/-- A body that is not in the table leaves the number as it was. -/
theorem commanded_of_unknown (input : CommandInput F)
    {message : CloudMessage} (unknown : ¬ KnownBody message)
    (board : Board F) :
    commanded input message board = (message.commandId, board) := by
  unfold commanded
  cases content : message.content with
  | none => rfl
  | some body =>
      have missing : (commandTable input).find?
          (fun command => body = command.1) = none := by
        rw [List.find?_eq_none]
        intro command member same
        apply unknown
        refine ⟨body, ?_, content⟩
        rw [← commandTable_bodies input]
        exact List.mem_map.mpr ⟨command, member,
          (of_decide_eq_true same).symm⟩
      simp only [dispatchCommand_eq, missing]

/-- The test of a body in the table is the only one to match. -/
theorem commanded_of_known {input : CommandInput F}
    {message : CloudMessage}
    {command : Bytes × BitVec 32 × (Board F → Board F)}
    (member : command ∈ commandTable input)
    (content : message.content = some command.1) (board : Board F) :
    commanded input message board = (command.2.1, command.2.2 board) := by
  have distinct : ((commandTable input).map Prod.fst).Nodup := by
    rw [commandTable_bodies]
    decide
  have isSome : ((commandTable input).find?
      (fun other => command.1 = other.1)).isSome := by
    rw [List.find?_isSome]
    exact ⟨command, member, by simp⟩
  obtain ⟨other, found⟩ := Option.isSome_iff_exists.mp isSome
  have same : other = command := by
    apply List.inj_on_of_nodup_map distinct
      (List.mem_of_find?_eq_some found) member
    simpa [eq_comm] using List.find?_some found
  rw [same] at found
  simp only [commanded, content, dispatchCommand_eq, found]

theorem followsTable_of_known (toInt : Bytes → BitVec 32)
    (input : CommandInput F) {message : CloudMessage}
    (known : KnownBody message) (board : Board F) :
    FollowsTable toInt input.write message board
      (receiveMessageCallback toInt input message board) := by
  obtain ⟨body, inTable, content⟩ := known
  rw [← commandTable_bodies input] at inTable
  obtain ⟨command, member, rfl⟩ := List.mem_map.mp inTable
  rw [receiveMessageCallback_eq, commanded_of_known member content]
  have unchanged : ∀ flag : Bool, flag = (flag || false) := by simp
  simp only [commandTable, List.mem_cons, List.not_mem_nil, or_false]
    at member
  rcases member with rfl | rfl | rfl | rfl | rfl | rfl | rfl | rfl | rfl
  all_goals dsimp only at content ⊢
  · rw [sendData_eq, takeReadings_eq]
    exact followsTable_of_plain content (by decide) (by decide) rfl rfl rfl
      (unchanged _)
  · exact followsTable_of_plain content (by decide) (by decide) rfl rfl rfl
      (unchanged _)
  · exact followsTable_of_plain content (by decide) (by decide) rfl rfl rfl
      (unchanged _)
  · exact followsTable_of_plain content (by decide) (by decide) rfl rfl rfl
      (unchanged _)
  · exact followsTable_of_plain content (by decide) (by decide) rfl rfl rfl
      (Bool.or_true _).symm
  · exact followsTable_of_plain content (by decide) (by decide) rfl rfl rfl
      (unchanged _)
  · exact followsTable_of_plain content (by decide) (by decide) rfl rfl rfl
      (unchanged _)
  · exact followsTable_setLed toInt input.write content board
  · exact followsTable_configInterval toInt input.write content board

/-- A body outside of the table has the effect of its stale number. -/
theorem followsTable_of_unknown_iff (toInt : Bytes → BitVec 32)
    (input : CommandInput F) {message : CloudMessage}
    (unknown : ¬ KnownBody message) (board : Board F) :
    FollowsTable toInt input.write message board
        (receiveMessageCallback toInt input message board) ↔
      StaleHarmless toInt input.write message board := by
  rw [followsTable_unknown_iff unknown, receiveMessageCallback_eq,
    commanded_of_unknown input unknown]
  simp only
  by_cases isLed : message.commandId = 8
  · rw [isLed, applyProperties_setLed]
    simp only [Outputs.durations, assignDurations, Prod.mk.injEq, true_and,
      and_true]
    constructor
    · intro same
      refine ⟨fun _ => same, fun isInterval => ?_⟩
      rw [isLed] at isInterval
      exact absurd isInterval (by decide)
    · intro harmless
      exact harmless.setLed isLed
  · by_cases isInterval : message.commandId = 9
    · by_cases empty : message.propertyList = []
      · rw [empty, applyProperties_nil]
        exact iff_of_true ⟨rfl, rfl, rfl, rfl⟩
          ⟨fun number => absurd number isLed,
            fun _ some => absurd empty some⟩
      · rw [isInterval, applyProperties_configInterval _ _ _ _ empty]
        simp only [and_true]
        have intervals := assignIntervals_eq_self_iff toInt
          message.propertyList board.storage.config
        constructor
        · intro same
          have config := congrArg Storage.config same
          rw [saveConfig_config] at config
          simp only at config
          refine ⟨fun number => absurd number isLed, fun _ _ => ?_⟩
          refine ⟨intervals.mp config, ?_⟩
          rw [config] at same
          rw [same]
        · intro harmless
          obtain ⟨values, file⟩ := harmless.configInterval isInterval empty
          rw [intervals.mpr values]
          have config := saveConfig_config input.write board.storage
          cases saved : (saveConfig input.write board.storage).1
          rw [saved] at config file
          simp only at config file
          rw [config, file]
    · rw [applyProperties_other _ _ _ _ isLed isInterval]
      exact iff_of_true ⟨rfl, rfl, rfl, rfl⟩
        ⟨fun number => absurd number isLed,
          fun number => absurd number isInterval⟩

/-- A message follows the table when its body is one of the nine, or when the
stale number behind an unknown body does no harm. -/
theorem followsTable_iff (toInt : Bytes → BitVec 32)
    (input : CommandInput F) (message : CloudMessage) (board : Board F) :
    FollowsTable toInt input.write message board
        (receiveMessageCallback toInt input message board) ↔
      KnownBody message ∨
        StaleHarmless toInt input.write message board := by
  by_cases known : KnownBody message
  · exact iff_of_true (followsTable_of_known toInt input known board)
      (Or.inl known)
  · rw [followsTable_of_unknown_iff toInt input known, or_iff_right known]

end Table

/-- A message whose content cannot be retrieved, behind a message that left
the number of `SetLED` on the stack. -/
def lostMessage : CloudMessage where
  content := none
  properties := some [(bytesOf "red", bytesOf "3000")]
  commandId := 8

def lostMessageInput : CommandInput ℚ where
  report :=
    ⟨⟨⟨100, 0⟩, 70, 40, 80, 95⟩, bytesOf "2019-06-01T12:00:00", 20000, true,
      true⟩
  write := .complete

/-- The red LED takes the duration of a message without a command. -/
theorem not_followsTable_lostMessage :
    ¬ FollowsTable (Decimal.readDigits 0) lostMessageInput.write lostMessage
      (Board.powerUp none : Board ℚ)
      (receiveMessageCallback (Decimal.readDigits 0) lostMessageInput
        lostMessage (Board.powerUp none)) := by
  have unknown : ¬ KnownBody lostMessage := by
    rintro ⟨body, _, content⟩
    cases content
  rw [followsTable_of_unknown_iff _ _ unknown]
  intro harmless
  have red := (harmless.setLed rfl).1
  revert red
  decide

end FunnelDispenser.Device
