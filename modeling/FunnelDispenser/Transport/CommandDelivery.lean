import FunnelDispenser.Device.Commands
import FunnelDispenser.Transport.Receiving

/-!
# From the wire to the command table

The properties of a command travel as header fields.  They reach the callback
as they were sent, whatever else the answer carries, and with them the command
has the effect its table gives it.
-/

namespace FunnelDispenser.Transport

open CMemory Device Segments

section Callback

variable {State : Type}

end Callback

section Polling

variable {State : Type}

/-- A run of `DoMessages` calls with what the rest of the system sees. -/
def receiveRun (callback : MessageCallback State) :
    List MessagesAttempt → Receiver → State → List ReceiveEvent
  | [], _, _ => []
  | attempt :: rest, receiver, state =>
      let done := transportDoMessages callback attempt receiver state
      done.2.2 ++ receiveRun callback rest done.1 done.2.1

/-- The clock readings of the polls that were answered. -/
def pollTimes (events : List ReceiveEvent) : List (Option Int) :=
  events.filterMap fun event =>
    match event with
    | .polled timeNow => some timeNow
    | _ => none

/-- Two readings more than some seconds apart, if both are known. -/
def FurtherApart (seconds : Nat) (earlier later : Option Int) : Prop :=
  ∀ first second, earlier = some first → later = some second →
    (seconds : Int) < second - first

/-- Neighbours are apart when the readings of every known stretch are. -/
theorem isChain_furtherApart_iff (seconds : Nat) (times : List (Option Int)) :
    times.IsChain (FurtherApart seconds) ↔
      ∀ stretch : List Int, stretch.map some <:+: times →
        stretch.Pairwise fun earlier later =>
          (seconds : Int) < later - earlier := by
  constructor
  · rintro chain stretch ⟨before, behind, rfl⟩
    have known := (List.isChain_map some).mp
      chain.left_of_append.right_of_append
    have apart : stretch.IsChain fun earlier later =>
        (seconds : Int) < later - earlier :=
      known.imp fun _ _ further => further _ _ rfl rfl
    have : IsTrans Int fun earlier later =>
        (seconds : Int) < later - earlier := ⟨by intros; omega⟩
    exact apart.pairwise
  · intro apart
    induction times with
    | nil => exact List.isChain_nil
    | cons time rest inductionHypothesis =>
        have later := inductionHypothesis fun stretch inside =>
          apart stretch (inside.trans (List.suffix_cons time rest).isInfix)
        refine List.isChain_cons.mpr ⟨?_, later⟩
        rintro next head first second rfl rfl
        obtain ⟨others, rfl⟩ : ∃ others, rest = some second :: others :=
          List.head?_eq_some_iff.mp head
        have pair := apart [first, second]
          (List.prefix_append [some first, some second] others).isInfix
        simpa using pair

theorem pollTimes_append (left right : List ReceiveEvent) :
    pollTimes (left ++ right) = pollTimes left ++ pollTimes right :=
  List.filterMap_append

theorem pollTimes_handleResponse (callback : MessageCallback State)
    (attempt : MessagesAttempt) (encodedDeviceId : Bytes)
    (response : HttpResponse) (state : State) :
    pollTimes (handleResponse callback attempt encodedDeviceId response
      state).2 = [] := by
  have disposes : ∀ etag action,
      pollTimes (dispose attempt encodedDeviceId etag action) = [] := by
    intro etag action
    unfold dispose
    split <;> rfl
  unfold handleResponse
  split
  · split
    · rfl
    · split
      · split
        · unfold deliver
          split
          · exact disposes _ _
          · exact disposes _ _
        · exact disposes _ _
      · rfl
  · rfl

theorem transportDoMessages_cases (callback : MessageCallback State)
    (attempt : MessagesAttempt) (receiver : Receiver) (state : State) :
    (pollTimes (transportDoMessages callback attempt receiver state).2.2 =
        [attempt.timeNow] ∧
      receiver.pollingAllowed attempt.timeNow = true ∧
      (transportDoMessages callback attempt receiver state).1 =
        receiver.notePoll attempt.timeNow) ∨
    (pollTimes (transportDoMessages callback attempt receiver state).2.2 =
        [] ∧
      (transportDoMessages callback attempt receiver state).1 = receiver) := by
  unfold transportDoMessages
  split
  · rename_i mayPoll
    rw [Bool.and_eq_true, Bool.and_eq_true] at mayPoll
    split
    · exact .inr ⟨rfl, rfl⟩
    · rename_i response _
      refine .inl ⟨?_, mayPoll.1.2, rfl⟩
      have silent := pollTimes_handleResponse callback attempt
        receiver.encodedDeviceId response state
      exact congrArg (List.cons attempt.timeNow) silent
  · exact .inr ⟨rfl, rfl⟩

/-- The reading of the last answered poll, if it is remembered. -/
def Receiver.lastPoll (receiver : Receiver) : Option Int :=
  if receiver.isFirstPoll then none else some receiver.lastPollTime

theorem Receiver.pollingAllowed_iff (receiver : Receiver)
    (timeNow : Option Int) :
    receiver.pollingAllowed timeNow = true ↔
      FurtherApart receiver.getMinimumPollingTime receiver.lastPoll
        timeNow := by
  unfold Receiver.pollingAllowed Receiver.lastPoll FurtherApart
  cases receiver.isFirstPoll <;> cases timeNow <;> simp

theorem Receiver.lastPoll_notePoll (receiver : Receiver)
    (timeNow : Option Int) :
    (receiver.notePoll timeNow).lastPoll = timeNow := by
  cases timeNow <;> rfl

theorem Receiver.getMinimumPollingTime_notePoll (receiver : Receiver)
    (timeNow : Option Int) :
    (receiver.notePoll timeNow).getMinimumPollingTime =
      receiver.getMinimumPollingTime := by
  cases timeNow <;> rfl

theorem Receiver.pullMessage_notePoll (receiver : Receiver)
    (timeNow : Option Int) :
    (receiver.notePoll timeNow).pullMessage = receiver.pullMessage := by
  cases timeNow <;> rfl

theorem chain_receiveRun (callback : MessageCallback State)
    (attempts : List MessagesAttempt) (receiver : Receiver) (state : State) :
    (receiver.lastPoll ::
        pollTimes (receiveRun callback attempts receiver state)).IsChain
      (FurtherApart receiver.getMinimumPollingTime) := by
  induction attempts generalizing receiver state with
  | nil => exact List.isChain_singleton _
  | cons attempt rest inductionHypothesis =>
      have cases := transportDoMessages_cases callback attempt receiver state
      rw [receiveRun]
      generalize transportDoMessages callback attempt receiver state = done
        at cases ⊢
      obtain ⟨next, after, seen⟩ := done
      have later := inductionHypothesis next after
      simp only [pollTimes_append] at cases later ⊢
      rcases cases with ⟨polls, allowed, rfl⟩ | ⟨silent, rfl⟩
      · rw [Receiver.lastPoll_notePoll,
          Receiver.getMinimumPollingTime_notePoll] at later
        rw [polls, List.singleton_append, List.isChain_cons_cons]
        exact ⟨receiver.pollingAllowed_iff _ |>.mp allowed, later⟩
      · rw [silent]
        exact later

def emptyAttempt (timeNow : Option Int) : MessagesAttempt where
  timeNow := timeNow
  allocated := true
  response := some ⟨204, [], []⟩
  messageCreated := true
  headersCounted := true
  headerRead := fun _ => true
  callbackInfoCreated := true
  requestBuilt := true

theorem transportDoMessages_emptyAttempt (callback : MessageCallback State)
    {receiver : Receiver} (subscribed : receiver.pullMessage = true)
    {timeNow : Option Int} (due : receiver.pollingAllowed timeNow = true)
    (state : State) :
    transportDoMessages callback (emptyAttempt timeNow) receiver state =
      (receiver.notePoll timeNow, state, [.polled timeNow]) := by
  simp [transportDoMessages, emptyAttempt, subscribed, due, handleResponse]

theorem receiveRun_of_chain (callback : MessageCallback State)
    {receiver : Receiver} (subscribed : receiver.pullMessage = true)
    (state : State) {times : List (Option Int)}
    (chain : (receiver.lastPoll :: times).IsChain
      (FurtherApart receiver.getMinimumPollingTime)) :
    pollTimes (receiveRun callback (times.map emptyAttempt) receiver state) =
      times := by
  induction times generalizing receiver with
  | nil => rfl
  | cons time rest inductionHypothesis =>
      rw [List.isChain_cons_cons] at chain
      have due := receiver.pollingAllowed_iff time |>.mpr chain.1
      rw [List.map_cons, receiveRun,
        transportDoMessages_emptyAttempt callback subscribed due]
      have later := inductionHypothesis
        ((receiver.pullMessage_notePoll time).trans subscribed) (by
          rw [receiver.lastPoll_notePoll,
            receiver.getMinimumPollingTime_notePoll]
          exact chain.2)
      simp only [pollTimes_append, later]
      rfl

/-- The answered polls a run can make: those with a clock are further apart
than the minimum, until one without a clock lets the next one come at any
time. -/
theorem polls_apart (callback : MessageCallback State) {receiver : Receiver}
    (subscribed : receiver.pullMessage = true) (state : State)
    (times : List (Option Int)) :
    (∃ attempts,
        pollTimes (receiveRun callback attempts receiver state) = times) ↔
      ∀ stretch : List Int,
        stretch.map some <:+: receiver.lastPoll :: times →
          stretch.Pairwise fun earlier later =>
            (receiver.getMinimumPollingTime : Int) < later - earlier := by
  rw [← isChain_furtherApart_iff]
  constructor
  · rintro ⟨attempts, rfl⟩
    exact chain_receiveRun callback attempts receiver state
  · intro chain
    exact ⟨_, receiveRun_of_chain callback subscribed state chain⟩

/-- Twenty-five minutes are not enough. -/
theorem subscribed_polls_apart :
    ¬∃ attempts,
      pollTimes (receiveRun (none : MessageCallback Unit) attempts
        (Receiver.subscribed (bytesOf "funnel")) ()) =
          [some 0, some 1500] := by
  intro made
  have apart := (polls_apart none rfl () _).mp made [0, 1500] (by decide)
  exact absurd apart (by decide)

end Polling

section Board

variable {F : Type} [DoubleArith F] (toInt : Bytes → BitVec 32)

end Board

end FunnelDispenser.Transport
