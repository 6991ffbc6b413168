import FunnelDispenser.Provisioning.SavedConfig

/-!
# The portal as its user sees it

To its user the access point is a form with three texts that closes itself
twenty passes after something was saved.  `Portal` says so without memory,
files or flags, and the firmware refines it across resets and power failures.
-/

namespace FunnelDispenser.Provisioning

open CMemory Config Device StepRuns

/-- The three texts that make a station out of an access point. -/
structure Texts where
  connectionString : Bytes
  ssidName : Bytes
  ssidPass : Bytes
deriving DecidableEq, Repr

/-- `closing` counts the passes since something was saved. -/
structure Portal where
  texts : Texts
  presses : Nat
  closing : Option Nat
deriving DecidableEq, Repr

namespace Portal

def opened (texts : Texts) : Portal :=
  ⟨texts, 0, none⟩

/-- Something was saved; a count that has begun goes on. -/
def save (texts : Texts) (portal : Portal) : Portal :=
  { portal with texts := texts, closing := some (portal.closing.getD 0) }

/-- A sample of the switch; the fifth press in a row clears the
credentials. -/
def sample (portal : Portal) (pressed : Bool) : Portal :=
  let presses := if pressed then portal.presses + 1 else 0
  if 4 < presses then
    { portal with presses := 0 }.save
      { portal.texts with ssidName := [], ssidPass := [] }
  else
    { portal with presses := presses }

def serve (request : HttpRequest) (portal : Portal) : Portal :=
  if request.uri = bytesOf "/" ∧ request.hasArg ssidArg then
    portal.save
      { portal.texts with
        ssidName := request.arg ssidArg
        ssidPass := request.arg ssidPassArg }
  else if request.uri = bytesOf "/siotcs" ∧ request.hasArg deviceInfoArg then
    portal.save
      { portal.texts with
        connectionString := cStr (request.arg deviceInfoArg) }
  else
    portal

end Portal

/-- What one pass brings to the portal. -/
structure Visit where
  pressed : Bool
  request : Option HttpRequest
deriving DecidableEq, Repr

def Portal.answer (visit : Visit) (portal : Portal) : Portal :=
  match visit.request with
  | some request => portal.serve request
  | none => portal

/-- A pass samples the switch, counts, and serves a request unless the portal
closes now. -/
def Portal.visit (visit : Visit) (portal : Portal) :
    Outcome Portal Portal :=
  let sampled := portal.sample visit.pressed
  match sampled.closing with
  | some passes =>
      if passes + 1 = 20 then
        .halted sampled
      else
        .again ({ sampled with closing := some (passes + 1) }.answer visit)
  | none => .again (sampled.answer visit)

/-- A device with a connection string and a network becomes a station. -/
def Texts.complete (texts : Texts) : Bool :=
  texts.connectionString ≠ [] && texts.ssidName ≠ []

def Texts.cleared (texts : Texts) : Texts :=
  { texts with ssidName := [], ssidPass := [] }

def Portal.count (portal : Portal) : Portal :=
  { portal with closing := portal.closing.map fun passes => passes + 1 }

/-- Joining the network, a sample for each try.  The chip restarts in the
fifth round behind a clear, or in the 241st. -/
def Portal.join : List Bool → Nat → Portal → Outcome Portal Portal
  | [], _, portal => .again portal
  | pressed :: rest, tries, portal =>
      let sampled := (portal.sample pressed).count
      if sampled.closing = some 5 then
        .halted sampled
      else if 240 < tries + 1 then
        .halted sampled
      else
        join rest (tries + 1) sampled

/-- The switch samples of one boot and the visits behind it. -/
structure Stay where
  firstHold : List Bool
  secondHold : List Bool
  connected : Bool
  joining : List Bool
  joined : List Bool
  visits : List Visit
deriving DecidableEq, Repr

/-- The portal an outcome leaves. -/
def Portal.left : Outcome Portal Portal → Portal
  | .again portal => portal
  | .halted portal => portal

namespace Portal

/-- The portal that decides between the form and the network. -/
def held (stay : Stay) (texts : Texts) : Portal :=
  stay.firstHold.foldl sample (opened texts)

def ready (stay : Stay) (texts : Texts) : Portal :=
  stay.secondHold.foldl sample (held stay texts)

def connect (stay : Stay) (portal : Portal) : Outcome Portal Portal :=
  if stay.connected then
    .again portal
  else
    match join stay.joining 0 portal with
    | .again associated => .again (stay.joined.foldl sample associated)
    | .halted final => .halted final

/-- What a boot with these texts may leave of them.  A station can lose its
network to the switch or to a command, and nothing else. -/
inductive Leaves (stay : Stay) (texts : Texts) : Texts → Prop where
  | form (incomplete : (held stay texts).texts.complete = false) :
      Leaves stay texts (left (run visit stay.visits (ready stay texts))).texts
  | restart {final : Portal}
      (complete : (held stay texts).texts.complete = true)
      (restarts : connect stay (ready stay texts) = .halted final) :
      Leaves stay texts final.texts
  | station {online : Portal} {after : Texts}
      (complete : (held stay texts).texts.complete = true)
      (joins : connect stay (ready stay texts) = .again online)
      (serves : after = online.texts ∨ after = online.texts.cleared) :
      Leaves stay texts after

end Portal

theorem Portal.closing_sample (pressed : Bool) {portal : Portal}
    {passes : Nat} (closing : portal.closing = some passes) :
    (portal.sample pressed).closing = some passes := by
  unfold Portal.sample
  by_cases fifth : 4 < (if pressed then portal.presses + 1 else 0)
  · simp only [fifth, if_true, Portal.save, closing, Option.getD_some]
  · simp only [fifth, if_false, closing]

theorem Portal.count_sample (pressed : Bool) (portal : Portal) :
    (portal.sample pressed).closing.getD 0 = portal.closing.getD 0 := by
  unfold Portal.sample
  dsimp only
  split_ifs <;> rfl

theorem Portal.count_samples (samples : List Bool) (portal : Portal) :
    (samples.foldl Portal.sample portal).closing.getD 0 =
      portal.closing.getD 0 := by
  induction samples generalizing portal with
  | nil => rfl
  | cons pressed rest inductionHypothesis =>
      rw [List.foldl_cons, inductionHypothesis, Portal.count_sample]

theorem Portal.closing_answer (visit : Visit) {portal : Portal}
    {passes : Nat} (closing : portal.closing = some passes) :
    (portal.answer visit).closing = some passes := by
  have saved : ∀ texts, (portal.save texts).closing = some passes := by
    intro texts
    rw [Portal.save, closing]
    rfl
  unfold Portal.answer Portal.serve
  split
  · split
    · exact saved _
    · split
      · exact saved _
      · exact closing
  · exact closing

/-- A portal that is closing stays open for the rest of its twenty passes and
no longer. -/
theorem Portal.run_of_closing (visits : List Visit) {portal : Portal}
    {passes : Nat} (closing : portal.closing = some passes)
    (early : passes < 20) :
    (visits.length + passes < 20 →
      ∃ next, run Portal.visit visits portal = .again next ∧
        next.closing = some (visits.length + passes)) ∧
    (20 ≤ visits.length + passes →
      ∃ final, run Portal.visit visits portal = .halted final) := by
  induction visits generalizing portal passes with
  | nil =>
      refine ⟨fun _ => ⟨portal, rfl, ?_⟩, fun late => ?_⟩
      · rw [closing, List.length_nil, Nat.zero_add]
      · rw [List.length_nil] at late
        omega
  | cons visit rest inductionHypothesis =>
      have sampled := Portal.closing_sample visit.pressed closing
      rw [List.length_cons]
      by_cases last : passes + 1 = 20
      · have closes : Portal.visit visit portal =
            .halted (portal.sample visit.pressed) := by
          simp only [Portal.visit, sampled, last, if_true]
        exact ⟨fun more => by omega, fun _ => ⟨_, run_cons_halted closes⟩⟩
      · have stays : Portal.visit visit portal =
            .again ({ portal.sample visit.pressed with
              closing := some (passes + 1) }.answer visit) := by
          simp only [Portal.visit, sampled, last, if_false]
        have counted : (({ portal.sample visit.pressed with
            closing := some (passes + 1) } : Portal).answer visit).closing =
              some (passes + 1) :=
          Portal.closing_answer visit rfl
        obtain ⟨open_, closed⟩ := inductionHypothesis counted (by omega)
        rw [run_cons_again stays]
        refine ⟨fun more => ?_, fun late => closed (by omega)⟩
        obtain ⟨next, reached, count⟩ := open_ (by omega)
        exact ⟨next, reached, by rw [count]; congr 1; omega⟩

structure Visit.Idle (visit : Visit) : Prop where
  released : visit.pressed = false
  unasked : ∀ request, visit.request = some request →
    request.hasArg ssidArg = false ∧ request.hasArg deviceInfoArg = false

theorem Portal.answer_idle {visit : Visit} (idle : visit.Idle)
    (portal : Portal) : portal.answer visit = portal := by
  unfold Portal.answer
  cases asked : visit.request with
  | none => rfl
  | some request =>
      obtain ⟨noName, noDevice⟩ := idle.unasked request asked
      simp [Portal.serve, noName, noDevice]

theorem Portal.visit_idle {visit : Visit} (idle : visit.Idle)
    (portal : Portal) :
    (Portal.left (portal.visit visit)).texts = portal.texts := by
  simp only [Portal.visit, Portal.sample, idle.released,
    Bool.false_eq_true, if_false, Nat.not_lt_zero]
  split
  · split
    · rfl
    · rw [Portal.answer_idle idle]
      rfl
  · rw [Portal.answer_idle idle]
    rfl

/-- What was saved last is what an undisturbed portal closes with. -/
theorem Portal.texts_of_idle {visits : List Visit} {portal final : Portal}
    (idle : ∀ visit ∈ visits, visit.Idle)
    (closes : run Portal.visit visits portal = .halted final) :
    final.texts = portal.texts := by
  refine result_of_run (fun reached => reached.texts = portal.texts)
    (fun _ visit => visit.Idle) (fun final => final.texts = portal.texts)
    (fun reached visit _ next same idle stepped => ?_)
    (fun reached visit _ same idle final stepped => ?_) rfl
    (everyStep_of_forall (fun _ => idle) portal) closes
  all_goals
    have kept := Portal.visit_idle idle reached
    rw [stepped] at kept
    exact kept.trans same

def settingsTexts (settings : Settings) : Texts :=
  ⟨settings.connectionString.text, settings.ssidName.text,
    settings.ssidPass.text⟩

/-- RAM and flash agree on these texts. -/
def HoldsTexts (storage : Storage) (texts : Texts) : Prop :=
  ∃ settings, Coherent storage settings ∧ settingsTexts settings = texts

/-- The board holds the texts of the portal, and its flags are those of the
counts. -/
structure BoardShows {F : Type} (board : Board F) (portal : Portal) :
    Prop where
  texts : HoldsTexts board.storage portal.texts
  presses : board.wifiResetCount = portal.presses
  closing : board.resetDevice = portal.closing.isSome

section Boards

variable {F : Type} {board : Board F} {portal : Portal}

theorem BoardShows.checkWifiReset {poll : SwitchPoll}
    (written : poll.write = .complete) (shows : BoardShows board portal) :
    BoardShows (checkWifiReset poll board) (portal.sample poll.pressed) := by
  obtain ⟨⟨settings, coherent, same⟩, presses, closing⟩ := shows
  have polled := coherent_checkWifiReset written coherent
  rw [polledSettings, presses] at polled
  have counted : completesClear poll portal.presses =
      decide (4 < if poll.pressed then portal.presses + 1 else 0) := rfl
  by_cases fifth : 4 < (if poll.pressed then portal.presses + 1 else 0)
  · have clears : completesClear poll portal.presses = true := by
      rw [counted, decide_eq_true fifth]
    rw [clears, if_pos rfl] at polled
    simp only [Portal.sample, fifth, if_true]
    refine ⟨⟨_, polled, ?_⟩, ?_, ?_⟩
    · rw [← same]
      rfl
    · rw [checkWifiReset_wifiResetCount, presses, clears]
      rfl
    · rw [checkWifiReset_resetDevice, presses, clears, Bool.or_true]
      rfl
  · have keeps : completesClear poll portal.presses = false := by
      rw [counted, decide_eq_false fifth]
    rw [keeps, if_neg Bool.false_ne_true] at polled
    simp only [Portal.sample, fifth, if_false]
    refine ⟨⟨_, polled, same⟩, ?_, ?_⟩
    · rw [checkWifiReset_wifiResetCount, presses, keeps]
      rfl
    · rw [checkWifiReset_resetDevice, presses, keeps, Bool.or_false]
      exact closing

theorem BoardShows.holdSwitch {polls : List SwitchPoll}
    (written : ∀ poll ∈ polls, poll.write = .complete)
    (shows : BoardShows board portal) :
    BoardShows (holdSwitch polls board)
      ((polls.map SwitchPoll.pressed).foldl Portal.sample portal) := by
  induction polls generalizing board portal with
  | nil => exact shows
  | cons poll rest inductionHypothesis =>
      rw [holdSwitch_cons, List.map_cons, List.foldl_cons]
      exact inductionHypothesis
        (fun other member => written other (List.mem_cons_of_mem _ member))
        (shows.checkWifiReset (written poll List.mem_cons_self))

theorem BoardShows.save {storage : Storage} {texts : Texts}
    (holds : HoldsTexts storage texts) (shows : BoardShows board portal) :
    BoardShows { board with storage := storage, resetDevice := true }
      (portal.save texts) :=
  ⟨holds, shows.presses, rfl⟩

theorem BoardShows.handleClient {request : HttpRequest}
    (fits : ArgumentsFit request) (shows : BoardShows board portal) :
    BoardShows (handleClient .complete request board).1
      (portal.serve request) := by
  have shown := shows
  obtain ⟨⟨settings, coherent, same⟩, presses, closing⟩ := shows
  rw [Provisioning.handleClient, Portal.serve]
  by_cases root : request.uri = bytesOf "/"
  · by_cases present : request.hasArg ssidArg = true
    · have stored :=
        coherent_handleSubmit present (fits.1 present) coherent
      have answered : (handleSubmit .complete request board).1 =
          { board with
            storage := (handleSubmit .complete request board).1.storage
            resetDevice := true } := by
        rw [handleSubmit, if_pos present]
      simp only [root, if_true, handleRoot, present, true_and]
      rw [answered]
      refine shown.save ⟨_, stored, ?_⟩
      rw [← same]
      rfl
    · have other : ¬ (bytesOf "/" = bytesOf "/siotcs") := by decide
      simp only [root, if_true, handleRoot, present, Bool.false_eq_true,
        if_false, and_false, other, false_and]
      exact shown
  · by_cases setup : request.uri = bytesOf "/siotcs"
    · have other : ¬ (bytesOf "/siotcs" = bytesOf "/") := by decide
      by_cases present : request.hasArg deviceInfoArg = true
      · have stored :=
          coherent_handleSetupSubmit present (fits.2 present) coherent
        have answered : (handleSetupSubmit .complete request board).1 =
            { board with
              storage :=
                (handleSetupSubmit .complete request board).1.storage
              resetDevice := true } := by
          rw [handleSetupSubmit, if_pos present]
        simp only [setup, other, false_and, if_false, if_true, handleSetup,
          present, and_self]
        rw [answered]
        refine shown.save ⟨_, stored, ?_⟩
        rw [← same]
        rfl
      · simp only [setup, other, false_and, if_false, if_true, handleSetup,
          present, Bool.false_eq_true, and_false]
        exact shown
    · simp only [root, setup, false_and, if_false]
      split <;> exact shown

end Boards

section Passes

variable {F : Type} [DoubleArith F]

structure Shows (device : Firmware F) (portal : Portal) : Prop where
  mode : device.accessPoint = true
  board : BoardShows device.board portal
  counted : device.resetCount = portal.closing.getD 0

/-- What a pass brings, as the user sees it. -/
def passVisit (pass : PassInput F) : Visit :=
  ⟨pass.switchPoll.pressed, pass.portal.map PortalInput.request⟩

omit [DoubleArith F] in
theorem Shows.servePortal {pass : PassInput F} {device : Firmware F}
    {portal : Portal} (through : WritesThrough pass)
    (shows : Shows device portal) :
    Shows (servePortal pass device) (portal.answer (passVisit pass)) := by
  obtain ⟨mode, board, counted⟩ := shows
  unfold Device.servePortal Portal.answer passVisit
  cases served : pass.portal with
  | none => exact ⟨mode, ⟨board.texts, board.presses, board.closing⟩, counted⟩
  | some input =>
      obtain ⟨written, fits⟩ := through.served input served
      have answered := board.handleClient fits.arguments
      rw [← written] at answered
      refine ⟨mode, ⟨answered.texts, answered.presses, answered.closing⟩, ?_⟩
      have same : (portal.serve input.request).closing.getD 0 =
          portal.closing.getD 0 := by
        unfold Portal.serve
        split
        · rfl
        · split <;> rfl
      exact counted.trans same.symm

/-- The chip resets and leaves the texts of the portal. -/
structure ResetsWith (result : PassEnd × Firmware F) (final : Portal) :
    Prop where
  resets : result.1 = .reset
  holds : HoldsTexts result.2.board.storage final.texts

/-- A pass of an access point is a visit of the portal. -/
theorem loop_visits (toInt : Bytes → BitVec 32) {pass : PassInput F}
    {device : Firmware F} {portal : Portal} (through : WritesThrough pass)
    (shows : Shows device portal) :
    Outcome.Matches Shows ResetsWith (loop toInt pass device)
      (portal.visit (passVisit pass)) := by
  obtain ⟨mode, board, counted⟩ := shows
  have unread : readRtc pass device = device := by
    simp [readRtc, mode]
  have polled := board.checkWifiReset through.polled
  have held : resetHeld pass device =
      (portal.sample pass.switchPoll.pressed).closing.isSome := by
    rw [resetHeld, ← checkWifiReset_resetDevice]
    exact polled.closing
  have shown : BoardShows (inBranch pass device).board
      (portal.sample pass.switchPoll.pressed) := by
    rw [inBranch, unread]
    exact ⟨polled.texts, polled.presses, polled.closing⟩
  have stays : (inBranch pass device).accessPoint = true :=
    (inBranch_accessPoint pass device).trans mode
  have counts : (inBranch pass device).resetCount =
      countReset (checkWifiReset pass.switchPoll device.board)
        device.resetCount := by
    rw [inBranch, unread]
    rfl
  have kept := portal.count_sample pass.switchPoll.pressed
  rw [countReset, polled.closing, counted, ← kept] at counts
  rw [loop_accessPoint_eq toInt pass mode, resetsNow, held, counted, ← kept]
  unfold Portal.visit
  change Outcome.Matches _ _ _
    (match (portal.sample pass.switchPoll.pressed).closing with
      | some _ => _
      | none => _)
  cases closing : (portal.sample pass.switchPoll.pressed).closing with
  | none =>
      rw [closing] at counts
      exact .again (Shows.servePortal through
        ⟨stays, shown,
          counts.trans (congrArg (Option.getD · 0) closing).symm⟩)
  | some passes =>
      rw [closing] at counts
      by_cases last : passes = 19
      · subst last
        refine .halted ⟨rfl, ?_⟩
        rw [resetting, unread]
        exact polled.texts
      · have open_ : passes + 1 ≠ 20 := by omega
        simp only [Option.isSome_some, Option.getD_some, last,
          decide_false, Bool.and_false, Bool.false_eq_true, if_false, open_]
        refine .again (Shows.servePortal through ⟨stays, ?_, counts⟩)
        exact ⟨shown.texts, shown.presses, by rw [shown.closing, closing]; rfl⟩

omit [DoubleArith F] in
/-- Cut off anywhere, a matching run leaves the texts of its portal. -/
theorem HoldsTexts.of_matches
    {outcome : Outcome (Firmware F) (PassEnd × Firmware F)}
    {portal : Outcome Portal Portal}
    (matching : Outcome.Matches Shows ResetsWith outcome portal) :
    HoldsTexts (endOfPass outcome).board.storage
      (Portal.left portal).texts := by
  cases matching with
  | again shows => exact shows.board.texts
  | halted resets => exact resets.holds

theorem run_visits (toInt : Bytes → BitVec 32)
    {passes : List (PassInput F)} {device : Firmware F} {portal : Portal}
    (through : ∀ pass ∈ passes, WritesThrough pass)
    (shows : Shows device portal) :
    Outcome.Matches Shows ResetsWith
      (run (loop toInt) passes device)
      (run Portal.visit (passes.map passVisit) portal) :=
  run_simulates passVisit
    (fun _ _ _ through shows => loop_visits toInt through shows) shows
    (everyStep_of_forall (fun _ => through) device)

end Passes

section Boots

variable {F : Type}

/-- The texts make a station exactly when the firmware does not open an
access point. -/
theorem selectsAccessPoint_iff {storage : Storage} {texts : Texts}
    (holds : HoldsTexts storage texts) :
    selectsAccessPoint storage.config = !texts.complete := by
  obtain ⟨settings, coherent, rfl⟩ := holds
  rw [selectsAccessPoint,
    coherent.represents.connectionString_eq (by decide),
    coherent.represents.ssidName_eq]
  cases connection : settings.connectionString.text <;>
    cases name : settings.ssidName.text <;>
      simp [Texts.complete, settingsTexts, connection, name]

/-- The association loop goes the way of the portal's. -/
inductive Joins : ConnectEnd F → Outcome Portal Portal → Prop where
  | connected {resetCount : Nat} {board : Board F} {portal : Portal}
      (shows : BoardShows board portal) :
      Joins (.connected resetCount board) (.again portal)
  | restarts {board : Board F} {portal : Portal}
      (holds : HoldsTexts board.storage portal.texts) :
      Joins (.restarts board) (.halted portal)

theorem BoardShows.associate {polls : List SwitchPoll}
    (written : ∀ poll ∈ polls, poll.write = .complete) (state : Bool)
    (tries : Nat) {resetCount : Nat} {board : Board F} {portal : Portal}
    (shows : BoardShows board portal)
    (counted : resetCount = portal.closing.getD 0) :
    Joins (associate polls state tries resetCount board)
      (Portal.join (polls.map SwitchPoll.pressed) tries portal) := by
  induction polls generalizing state tries resetCount board portal with
  | nil => exact .connected shows
  | cons poll rest inductionHypothesis =>
      have lit : BoardShows
          { board with
            outputs := controlLed greenLed state board.outputs } portal :=
        ⟨shows.texts, shows.presses, shows.closing⟩
      have polled := lit.checkWifiReset (written poll List.mem_cons_self)
      rw [← portal.count_sample poll.pressed] at counted
      rw [Device.associate, List.map_cons, Portal.join]
      generalize Device.checkWifiReset poll
        { board with
          outputs := controlLed greenLed state board.outputs } = sampled
        at polled ⊢
      generalize portal.sample poll.pressed = seen at polled counted ⊢
      have countedOn : countReset sampled resetCount =
          seen.count.closing.getD 0 := by
        rw [countReset, polled.closing, counted, Portal.count]
        cases seen.closing <;> rfl
      have fifth : (sampled.resetDevice &&
          countReset sampled resetCount = 5) = true ↔
            seen.count.closing = some 5 := by
        rw [countedOn, polled.closing, Portal.count]
        cases seen.closing with
        | none => simp
        | some passes => simp
      have shown : BoardShows sampled seen.count := by
        refine ⟨polled.texts, polled.presses, ?_⟩
        rw [polled.closing, Portal.count, Option.isSome_map]
      by_cases resets : seen.count.closing = some 5
      · rw [if_pos (fifth.mpr resets)]
        simp only [resets, if_true]
        exact .restarts polled.texts
      · rw [if_neg fun both => resets (fifth.mp both)]
        simp only [resets, if_false]
        by_cases tired : 240 < tries + 1
        · rw [if_pos tired, if_pos tired]
          exact .restarts polled.texts
        · rw [if_neg tired, if_neg tired]
          exact inductionHypothesis
            (fun other member => written other (List.mem_cons_of_mem _ member))
            (!state) (tries + 1) shown countedOn

def lifeStay (input : WakeInput F) : Stay where
  firstHold := input.boot.firstHold.map SwitchPoll.pressed
  secondHold := input.boot.secondHold.map SwitchPoll.pressed
  connected := input.boot.connect.alreadyConnected
  joining := input.boot.connect.attempts.map SwitchPoll.pressed
  joined := input.boot.connect.holdPolls.map SwitchPoll.pressed
  visits := input.passes.map passVisit

/-- Every boot on the file starts with these texts. -/
def FileHolds (persistent : Persistent F) (texts : Texts) : Prop :=
  ∃ settings : Settings,
    BootsWith persistent.configFile settings.kept ∧
      settingsTexts settings = texts

theorem HoldsTexts.fileHolds {device : Firmware F} {texts : Texts}
    (holds : HoldsTexts device.board.storage texts) :
    FileHolds device.persistent texts := by
  obtain ⟨settings, coherent, same⟩ := holds
  exact ⟨settings, coherent.bootsWith, same⟩

/-- The texts of a station: those it joined with, or these without their
network. -/
def StationTexts (texts : Texts) (settings : Settings) : Prop :=
  settingsTexts settings = texts ∨ settingsTexts settings = texts.cleared

theorem lasting_stationTexts (texts : Texts) :
    Lasting (StationTexts texts) where
  cleared settings held := by
    rcases held with same | gone
    · right
      rw [← same]
      rfl
    · right
      have again : texts.cleared = texts.cleared.cleared := rfl
      rw [again, ← gone]
      rfl
  renumbered settings changed same held := by
    simp only [fieldTexts, Prod.mk.injEq] at same
    rw [StationTexts, settingsTexts, same.1, same.2.1, same.2.2]
    exact held

theorem BoardShows.connect {input : WakeInput F} {board : Board F}
    {portal : Portal}
    (written : ∀ poll ∈
      (if input.boot.connect.alreadyConnected then [] else
        input.boot.connect.attempts ++ input.boot.connect.holdPolls),
      poll.write = .complete)
    (shows : BoardShows board portal) (opened : portal.closing.getD 0 = 0) :
    Joins (connect input.boot.connect board)
      (Portal.connect (lifeStay input) portal) := by
  rw [Device.connect, Portal.connect]
  by_cases already : input.boot.connect.alreadyConnected = true
  · have there : (lifeStay input).connected = true := already
    rw [if_pos already, if_pos there]
    exact .connected ⟨shows.texts, shows.presses, shows.closing⟩
  · have there : ¬(lifeStay input).connected = true := already
    rw [if_neg already] at written
    rw [if_neg already, if_neg there]
    have joins := shows.associate
      (fun poll member => written poll (List.mem_append_left _ member))
      true 0 opened.symm
    simp only [lifeStay] at joins ⊢
    generalize Device.associate input.boot.connect.attempts true 0 0 board =
      associated at joins ⊢
    generalize Portal.join
      (input.boot.connect.attempts.map SwitchPoll.pressed) 0 portal =
        ended at joins ⊢
    cases joins with
    | connected shown =>
        have held := shown.holdSwitch fun poll member =>
          written poll (List.mem_append_right _ member)
        exact .connected ⟨held.texts, held.presses, held.closing⟩
    | restarts holds => exact .restarts holds

variable [DoubleArith F]

theorem life_of_lifeEnd {toInt : Bytes → BitVec 32} {input : WakeInput F}
    {persistent : Persistent F} {final : Firmware F}
    (ended : lifeEnd toInt input persistent = some final) :
    life toInt input persistent = .again final.persistent := by
  rw [life, ended]

/-- A station ends with settings of the kind it joined with. -/
theorem lifeEnd_station {kind : Settings → Prop} (lasting : Lasting kind)
    (toInt : Bytes → BitVec 32) {input : WakeInput F}
    {persistent : Persistent F} (through : WritesThroughLife input)
    (joined : Firmware F) (station : joined.accessPoint = false)
    (keeps : Keeps kind joined.board.storage)
    (boots : setup input.boot persistent =
      match Time.validateClock input.boot.attempts with
      | .sleeps _ => .sleeps joined
      | .online _ =>
          .loops { joined with hubConnected := input.boot.hubCreated }) :
    ∃ final, lifeEnd toInt input persistent = some final ∧
      Keeps kind final.board.storage := by
  rw [lifeEnd, boots]
  cases Time.validateClock input.boot.attempts with
  | sleeps attempts => exact ⟨joined, rfl, keeps⟩
  | online attempts =>
      exact ⟨_, rfl, lasting.run_station toInt through.passes station keeps⟩

/-- The device behind `loadConfig`, and what its two hold loops show. -/
structure Booted (input : WakeInput F) (persistent : Persistent F)
    (texts : Texts) (device : Firmware F) : Prop where
  boots : setup input.boot persistent = setupLoaded input.boot device
  held : BoardShows (holdSwitch input.boot.firstHold device.board)
    (Portal.held (lifeStay input) texts)
  ready : BoardShows
    (initBoard input.boot (holdSwitch input.boot.firstHold device.board))
    (Portal.ready (lifeStay input) texts)
  station : device.accessPoint = false
  uncounted : device.resetCount = 0

theorem exists_booted {input : WakeInput F} {persistent : Persistent F}
    {texts : Texts} (through : WritesThroughLife input)
    (holds : FileHolds persistent texts) :
    ∃ device, Booted input persistent texts device := by
  obtain ⟨settings, boots, same⟩ := holds
  obtain ⟨config, booted, represents⟩ := boots input.boot.heap
  have written := through.polled
  simp only [SetupInput.polls, List.mem_append] at written
  have fresh : BoardShows (bootedWith input.boot persistent config).board
      (Portal.opened texts) := by
    refine ⟨⟨settings.kept, ⟨represents, ?_⟩, same⟩, rfl, rfl⟩
    rw [settings.kept_idem]
    exact boots
  have held := fresh.holdSwitch fun poll member =>
    written poll (Or.inl (Or.inl member))
  have again := held.holdSwitch fun poll member =>
    written poll (Or.inl (Or.inr member))
  have setup := setup_eq persistent through.mounts
  rw [booted] at setup
  exact ⟨_, setup, held, ⟨again.texts, again.presses, again.closing⟩, rfl,
    rfl⟩

theorem Portal.ready_count (stay : Stay) (texts : Texts) :
    (Portal.ready stay texts).closing.getD 0 = 0 := by
  rw [Portal.ready, Portal.held, Portal.count_samples, Portal.count_samples]
  rfl

/-- Without a complete file the device serves the form. -/
theorem Booted.leaves_form (toInt : Bytes → BitVec 32)
    {input : WakeInput F} {persistent : Persistent F} {texts : Texts}
    {device : Firmware F} (booted : Booted input persistent texts device)
    (through : WritesThroughLife input)
    (form : (Portal.held (lifeStay input) texts).texts.complete = false) :
    ∃ next after, life toInt input persistent = .again next ∧
      Portal.Leaves (lifeStay input) texts after ∧ FileHolds next after := by
  obtain ⟨boots, held, ready, -, uncounted⟩ := booted
  have shown : Shows
      { device with
        board := initBoard input.boot
          (holdSwitch input.boot.firstHold device.board)
        accessPoint := true }
      (Portal.ready (lifeStay input) texts) :=
    ⟨rfl, ready, uncounted.trans (Portal.ready_count _ _).symm⟩
  have visited := run_visits toInt through.passes shown
  have cut : lifeEnd toInt input persistent = some (endOfPass
      (run (loop toInt) input.passes
        { device with
          board := initBoard input.boot
            (holdSwitch input.boot.firstHold device.board)
          accessPoint := true })) := by
    rw [lifeEnd, boots]
    simp only [setupLoaded, selectsAccessPoint_iff held.texts, form,
      Bool.not_false, if_true]
  exact ⟨_, _, life_of_lifeEnd cut, .form form,
    (HoldsTexts.of_matches visited).fileHolds⟩

/-- With one it joins the network, or restarts while it tries. -/
theorem Booted.leaves_joining (toInt : Bytes → BitVec 32)
    {input : WakeInput F} {persistent : Persistent F} {texts : Texts}
    {device : Firmware F} (booted : Booted input persistent texts device)
    (through : WritesThroughLife input)
    (complete : (Portal.held (lifeStay input) texts).texts.complete = true) :
    ∃ next after, life toInt input persistent = .again next ∧
      Portal.Leaves (lifeStay input) texts after ∧ FileHolds next after := by
  obtain ⟨boots, held, ready, station, -⟩ := booted
  have written := through.polled
  simp only [SetupInput.polls, List.mem_append] at written
  have joins := ready.connect
    (fun poll member => written poll (Or.inr member))
    (Portal.ready_count _ _)
  simp only [setupLoaded, selectsAccessPoint_iff held.texts, complete,
    Bool.not_true, Bool.false_eq_true, if_false] at boots
  generalize connect input.boot.connect (initBoard input.boot
    (holdSwitch input.boot.firstHold device.board)) = joined at joins boots
  generalize ended : Portal.connect (lifeStay input)
    (Portal.ready (lifeStay input) texts) = reached at joins
  cases joins with
  | @restarts restarting final left =>
      have cut : lifeEnd toInt input persistent =
          some { device with board := restarting } := by
        rw [lifeEnd, boots]
      exact ⟨_, _, life_of_lifeEnd cut, .restart complete ended,
        left.fileHolds⟩
  | @connected resetCount connected online shown =>
      obtain ⟨settings, coherent, joinedWith⟩ := shown.texts
      obtain ⟨final, left, after, stored, kept⟩ :=
        lifeEnd_station (lasting_stationTexts online.texts) toInt through
          ({ device with board := connected, resetCount := resetCount })
          station ⟨_, coherent, Or.inl joinedWith⟩ boots
      exact ⟨_, settingsTexts after, life_of_lifeEnd left,
        .station complete ended kept, after, stored.bootsWith, rfl⟩

/-- A life of the device is a stay of the portal. -/
theorem life_leaves (toInt : Bytes → BitVec 32) {input : WakeInput F}
    {persistent : Persistent F} {texts : Texts}
    (through : WritesThroughLife input)
    (holds : FileHolds persistent texts) :
    ∃ next after, life toInt input persistent = .again next ∧
      Portal.Leaves (lifeStay input) texts after ∧ FileHolds next after := by
  obtain ⟨device, booted⟩ := exists_booted through holds
  cases complete : (Portal.held (lifeStay input) texts).texts.complete with
  | false => exact booted.leaves_form toInt through complete
  | true => exact booted.leaves_joining toInt through complete

/-- Across resets, sleeps, power failures and switch presses the firmware is
the portal, from the factory on. -/
theorem portalLives_refine (toInt : Bytes → BitVec 32)
    {lives : List (WakeInput F)} (record : RtcData F)
    (through : ∀ input ∈ lives, WritesThroughLife input) :
    ∃ final texts, run (life toInt) lives ⟨record, none⟩ = .again final ∧
      Runs Portal.Leaves (lives.map lifeStay) ⟨[], [], []⟩ texts ∧
        FileHolds final texts :=
  run_refines lifeStay
    (fun _ _ _ through holds => life_leaves toInt through holds)
    ⟨factorySettings, coherent_factory.bootsWith, rfl⟩
    (everyStep_of_forall (fun _ => through) _)

end Boots

section Submission

variable {F : Type} [DoubleArith F]

/-- The pass serves this request to a released switch. -/
structure Submits (pass : PassInput F) (request : HttpRequest) : Prop where
  released : pass.switchPoll.pressed = false
  posted : pass.portal.map PortalInput.request = some request
  route : request.uri = bytesOf "/"
  present : request.hasArg ssidArg = true

/-- An access point that nothing was saved in. -/
structure Untouched (device : Firmware F) (texts : Texts) : Prop where
  mode : device.accessPoint = true
  holds : HoldsTexts device.board.storage texts
  open_ : device.board.resetDevice = false
  uncounted : device.resetCount = 0

omit [DoubleArith F] in
theorem Submits.visit {pass : PassInput F} {request : HttpRequest}
    (submits : Submits pass request) {portal : Portal}
    (opened : portal.closing = none) :
    portal.visit (passVisit pass) =
      .again
        { texts :=
            { portal.texts with
              ssidName := request.arg ssidArg
              ssidPass := request.arg ssidPassArg }
          presses := 0
          closing := some 0 } := by
  simp only [Portal.visit, Portal.sample, passVisit, submits.released,
    Bool.false_eq_true, if_false, Nat.not_lt_zero, opened, Portal.answer,
    submits.posted, Portal.serve, submits.route, submits.present, and_self,
    if_true, Portal.save, Option.getD_none]

/-- A submission to an access point with a connection string resets the chip
in the twentieth pass behind it, and no sooner.  Every boot after it is a
station that joins the submitted network. -/
theorem submission_provisions (toInt : Bytes → BitVec 32)
    {device : Firmware F} {texts : Texts} {request : HttpRequest}
    (submit : PassInput F) (idle : List (PassInput F))
    (untouched : Untouched device texts)
    (submits : Submits submit request)
    (connected : texts.connectionString ≠ [])
    (named : request.arg ssidArg ≠ [])
    (through : ∀ pass ∈ submit :: idle, WritesThrough pass)
    (quiet : ∀ pass ∈ idle, (passVisit pass).Idle) :
    (idle.length < 20 →
      ∃ next, run (loop toInt) (submit :: idle) device = .again next) ∧
    (20 ≤ idle.length →
      ∃ final,
        run (loop toInt) (submit :: idle) device = .halted (.reset, final) ∧
        ∀ heap, ∃ config,
          bootConfig heap final.board.storage.configFile = some config ∧
          selectsAccessPoint config = false ∧
          beginArguments config =
            (request.arg ssidArg, request.arg ssidPassArg)) := by
  have shows : Shows device
      ⟨texts, device.board.wifiResetCount, none⟩ :=
    ⟨untouched.mode, ⟨untouched.holds, rfl, untouched.open_⟩,
      untouched.uncounted⟩
  have simulated := run_visits toInt through shows
  rw [List.map_cons, run_cons_again (submits.visit rfl)] at simulated
  have begun : Portal.closing
      { texts :=
          { texts with
            ssidName := request.arg ssidArg
            ssidPass := request.arg ssidPassArg }
        presses := 0
        closing := some 0 } = some 0 := rfl
  obtain ⟨stays, closes⟩ :=
    Portal.run_of_closing (idle.map passVisit) begun (by decide)
  rw [List.length_map, Nat.add_zero] at stays closes
  constructor
  · intro early
    obtain ⟨next, reached, count⟩ := stays early
    rw [reached] at simulated
    cases stepped : run (loop toInt) (submit :: idle) device with
    | again next => exact ⟨next, rfl⟩
    | halted result =>
        rw [stepped] at simulated
        cases simulated
  · intro late
    obtain ⟨final, reached⟩ := closes late
    have same := Portal.texts_of_idle (by
      intro visit member
      obtain ⟨pass, inIdle, rfl⟩ := List.mem_map.mp member
      exact quiet pass inIdle) reached
    rw [reached] at simulated
    cases stepped : run (loop toInt) (submit :: idle) device with
    | again next =>
        rw [stepped] at simulated
        cases simulated
    | halted result =>
        rw [stepped] at simulated
        obtain ⟨ending, final⟩ := result
        cases simulated with
        | halted resets =>
            obtain ⟨rfl, holds⟩ := resets
            refine ⟨final, rfl, fun heap => ?_⟩
            obtain ⟨settings, coherent, held⟩ := holds
            obtain ⟨config, booted, again⟩ := coherent.boot heap
            rw [same] at held
            have booting : HoldsTexts ⟨config, _⟩ _ :=
              ⟨settings.kept, again, held⟩
            refine ⟨config, booted, ?_, Prod.ext ?_ ?_⟩
            · rw [selectsAccessPoint_iff booting]
              simp [Texts.complete, connected, named]
            · exact again.represents.ssidName_eq.trans
                (congrArg Texts.ssidName held)
            · exact again.represents.ssidPass_eq.trans
                (congrArg Texts.ssidPass held)

end Submission

theorem factoryPortal_refines :
    ∃ final texts,
      run (life fun _ => 0)
          [⟨sampleBoot, [submitPass]⟩, ⟨sampleBoot, []⟩]
          ⟨sampleRecord, none⟩ = .again final ∧
      Runs Portal.Leaves
          ([⟨sampleBoot, [submitPass]⟩, ⟨sampleBoot, []⟩].map lifeStay)
          ⟨[], [], []⟩ texts ∧
        FileHolds final texts :=
  portalLives_refine (fun _ => 0) sampleRecord (by
    intro input member
    rcases List.mem_pair.mp member with rfl | rfl
    · exact writesThroughLife_sampleBoot (by
        simpa using writesThrough_submitPass)
    · exact writesThroughLife_sampleBoot (by simp))

/-- An access point that has a connection string and no network. -/
def namelessPortal : Firmware ℚ :=
  { bootDevice sampleBoot ⟨sampleRecord, none⟩ with
    board :=
      { Board.powerUp none with
        storage := (clearWifi .complete
          (saveConfig .complete
            ⟨strcpy zeroConfig connectionStringAddress (bytesOf "hub"),
              none⟩).1) }
    accessPoint := true }

/-- Twenty idle passes behind a submission make a station of it. -/
theorem namelessPortal_provisions :
    ∃ final,
      run (loop fun _ => 0) (submitPass :: List.replicate 20 idlePass)
          namelessPortal = .halted (.reset, final) ∧
      ∀ heap, ∃ config,
        bootConfig heap final.board.storage.configFile = some config ∧
        selectsAccessPoint config = false ∧
        beginArguments config =
          (networkRequest.arg ssidArg, networkRequest.arg ssidPassArg) := by
  have stored : HoldsTexts namelessPortal.board.storage
      ⟨bytesOf "hub", [], []⟩ :=
    ⟨_, coherent_clearWifi (coherent_saveConfig
      (represents_zeroConfig.strcpyConnectionString
        ⟨bytesOf "hub", nonzero_of_all (by decide +kernel),
          by decide +kernel⟩) none), rfl⟩
  refine (submission_provisions (fun _ => 0) submitPass
    (List.replicate 20 idlePass)
    ⟨rfl, stored, rfl, rfl⟩ ⟨rfl, rfl, rfl, by decide⟩ (by decide)
    (by decide) ?_ ?_).2 (by decide)
  · intro pass member
    rcases List.mem_cons.mp member with rfl | idle
    · exact writesThrough_submitPass
    · rw [List.eq_of_mem_replicate idle]
      exact writesThrough_idlePass
  · intro pass member
    rw [List.eq_of_mem_replicate member]
    exact ⟨rfl, by rintro request ⟨⟩⟩

end FunnelDispenser.Provisioning
