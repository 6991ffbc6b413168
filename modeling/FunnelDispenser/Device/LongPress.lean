import FunnelDispenser.Device.Setup

/-!
# Long presses

The press count is shared by every call site of the switch handler, in
`setup()`, `connect()`, `loop()` and the confirmation callback.  It counts the
current run of pressed samples modulo five, wherever they were taken.
-/

namespace FunnelDispenser.Device

open CMemory Config StepRuns

section Calls

variable {F : Type}

/-- The calls of `CheckWIFIReset` on the way from one state of the board to
another, each with the state it finds and its sample.  What the firmware does
between two calls leaves the press count alone. -/
inductive SwitchCalls :
    Board F → List (Board F × SwitchPoll) → Board F → Prop where
  | none {before after : Board F}
      (kept : after.wifiResetCount = before.wifiResetCount) :
      SwitchCalls before [] after
  | call {before found after : Board F} {poll : SwitchPoll}
      {later : List (Board F × SwitchPoll)}
      (kept : found.wifiResetCount = before.wifiResetCount)
      (behind : SwitchCalls (checkWifiReset poll found) later after) :
      SwitchCalls before ((found, poll) :: later) after

theorem SwitchCalls.kept_before {before same after : Board F}
    {calls : List (Board F × SwitchPoll)}
    (kept : before.wifiResetCount = same.wifiResetCount)
    (made : SwitchCalls before calls after) : SwitchCalls same calls after := by
  cases made with
  | none count => exact .none (count.trans kept)
  | call count behind => exact .call (count.trans kept) behind

theorem SwitchCalls.append {before middle after : Board F}
    {earlier later : List (Board F × SwitchPoll)}
    (first : SwitchCalls before earlier middle)
    (second : SwitchCalls middle later after) :
    SwitchCalls before (earlier ++ later) after := by
  induction first with
  | none kept => exact second.kept_before kept
  | call kept behind inductionHypothesis =>
      exact .call kept (inductionHypothesis second)

end Calls

section Sites

variable {F : Type}

/-- On the way from one state to another the switch is sampled so. -/
def Samples (polls : List SwitchPoll) (before after : Board F) : Prop :=
  ∃ calls, SwitchCalls before calls after ∧ calls.map Prod.snd = polls

theorem samples_nil {before after : Board F}
    (kept : after.wifiResetCount = before.wifiResetCount) :
    Samples [] before after :=
  ⟨[], .none kept, rfl⟩

theorem Samples.append {first second : List SwitchPoll}
    {before middle after : Board F} (earlier : Samples first before middle)
    (later : Samples second middle after) :
    Samples (first ++ second) before after := by
  obtain ⟨firstCalls, firstMade, rfl⟩ := earlier
  obtain ⟨secondCalls, secondMade, rfl⟩ := later
  exact ⟨firstCalls ++ secondCalls, firstMade.append secondMade,
    List.map_append⟩

/-- A part of the firmware takes some of these samples, in this order. -/
def SamplesAmong (offered : List SwitchPoll) (before after : Board F) : Prop :=
  ∃ taken : List SwitchPoll, taken.Sublist offered ∧ Samples taken before after

theorem SamplesAmong.append {first second : List SwitchPoll}
    {before middle after : Board F} (earlier : SamplesAmong first before middle)
    (later : SamplesAmong second middle after) :
    SamplesAmong (first ++ second) before after := by
  obtain ⟨firstTaken, firstPart, firstMade⟩ := earlier
  obtain ⟨secondTaken, secondPart, secondMade⟩ := later
  exact ⟨firstTaken ++ secondTaken, firstPart.append secondPart,
    firstMade.append secondMade⟩

theorem SamplesAmong.kept_before {offered : List SwitchPoll}
    {before same after : Board F} (made : SamplesAmong offered before after)
    (kept : before.wifiResetCount = same.wifiResetCount) :
    SamplesAmong offered same after := by
  obtain ⟨taken, part, samples⟩ := made
  exact ⟨taken, part, (samples_nil kept).append samples⟩

variable [DoubleArith F]

/-- The samples a pass may take, in their order. -/
def PassInput.polls (input : PassInput F) : List SwitchPoll :=
  input.switchPoll :: input.work.holdPolls

/-- The state a branch leaves. -/
def BranchEnd.device : BranchEnd F → Firmware F
  | .resets device => device
  | .returns device => device
  | .continues device => device

end Sites

end FunnelDispenser.Device
