import Mathlib

/-!
# Reading what arrives in segments

A feed is a buffer in front of segments that arrive one after the other.  A
reader takes symbols from its feed, fails, or waits for ever.  What it makes
of the symbols should not depend on where the segments end; `Reads` states
this up to the places, its seams, where the feed must not pause.
-/

namespace FunnelDispenser.Segments

universe u

structure Feed (Symbol : Type u) where
  received : List Symbol
  arriving : List (List Symbol)
deriving DecidableEq, Repr

namespace Feed

variable {Symbol : Type u} (feed : Feed Symbol)

/-- The next segment arrives, if one is left. -/
def receive : Feed Symbol :=
  match feed.arriving with
  | [] => feed
  | segment :: others => ⟨feed.received ++ segment, others⟩

/-- Everything that is there or will arrive. -/
def pending : List Symbol :=
  feed.received ++ feed.arriving.flatten

/-- What is there when `count` more segments have arrived. -/
def arrived (count : Nat) : List Symbol :=
  feed.received ++ (feed.arriving.take count).flatten

/-- At some time exactly `place` symbols are there. -/
def Pauses (place : Nat) : Prop :=
  ∃ count, (feed.arrived count).length = place

/-- `later` is what remains of the feed behind the first symbols. -/
def Consumes (consumed : List Symbol) (later : Feed Symbol) : Prop :=
  ∃ count, later.arriving = feed.arriving.drop count ∧
    feed.arrived count = consumed ++ later.received

variable {feed} {consumed further : List Symbol} {later latest : Feed Symbol}

theorem arrived_append_drop (count : Nat) :
    feed.arrived count ++ (feed.arriving.drop count).flatten =
      feed.pending := by
  rw [arrived, pending, List.append_assoc, ← List.flatten_append,
    List.take_append_drop]

theorem Consumes.pending (consumes : feed.Consumes consumed later) :
    feed.pending = consumed ++ later.pending := by
  obtain ⟨count, arriving, arrived⟩ := consumes
  rw [← feed.arrived_append_drop count, arrived, ← arriving,
    List.append_assoc]
  rfl

theorem Consumes.length_le (consumes : feed.Consumes consumed later) :
    later.arriving.length ≤ feed.arriving.length := by
  obtain ⟨count, arriving, -⟩ := consumes
  rw [arriving, List.length_drop]
  exact Nat.sub_le _ _

/-- What has arrived later has arrived before too, behind what was
consumed. -/
theorem arrived_of_drop {start : Nat}
    (arriving : later.arriving = feed.arriving.drop start)
    (arrived : feed.arrived start = consumed ++ later.received)
    (count : Nat) :
    feed.arrived (start + count) = consumed ++ later.arrived count := by
  have parts : feed.arrived (start + count) =
      feed.arrived start ++
        ((feed.arriving.drop start).take count).flatten := by
    rw [Feed.arrived, Feed.arrived, List.append_assoc, ← List.flatten_append,
      ← List.take_add]
  rw [parts, arrived, ← arriving, List.append_assoc]
  rfl

theorem Consumes.pauses (consumes : feed.Consumes consumed later)
    {place : Nat} (pauses : later.Pauses place) :
    feed.Pauses (consumed.length + place) := by
  obtain ⟨start, arriving, arrived⟩ := consumes
  obtain ⟨count, rfl⟩ := pauses
  refine ⟨start + count, ?_⟩
  rw [arrived_of_drop arriving arrived, List.length_append]

theorem Consumes.trans (consumes : feed.Consumes consumed later)
    (consumesFurther : later.Consumes further latest) :
    feed.Consumes (consumed ++ further) latest := by
  obtain ⟨start, arriving, arrived⟩ := consumes
  obtain ⟨count, arrivingFurther, arrivedFurther⟩ := consumesFurther
  refine ⟨start + count, ?_, ?_⟩
  · rw [arrivingFurther, arriving, List.drop_drop]
  · rw [arrived_of_drop arriving arrived, arrivedFurther, List.append_assoc]

theorem Consumes.refl (feed : Feed Symbol) : feed.Consumes [] feed :=
  ⟨0, by simp, by simp [arrived]⟩

theorem consumes_receive (feed : Feed Symbol) :
    feed.Consumes [] feed.receive := by
  cases segments : feed.arriving with
  | nil =>
      rw [receive, segments]
      exact Consumes.refl feed
  | cons segment others =>
      rw [receive, segments]
      exact ⟨1, by simp [segments], by simp [arrived, segments]⟩

theorem consumes_received (received : List Symbol)
    (arriving : List (List Symbol)) (consumed : List Symbol) :
    (⟨consumed ++ received, arriving⟩ : Feed Symbol).Consumes consumed
      ⟨received, arriving⟩ :=
  ⟨0, by simp, by simp [arrived]⟩

theorem pauses_iff (feed : Feed Symbol) (place : Nat) :
    feed.Pauses place ↔
      ∃ count ∈ List.range (feed.arriving.length + 1),
        (feed.arrived count).length = place := by
  constructor
  · rintro ⟨count, pauses⟩
    by_cases all : count ≤ feed.arriving.length
    · exact ⟨count, List.mem_range.mpr (Nat.lt_succ_of_le all), pauses⟩
    · refine ⟨feed.arriving.length, by simp, ?_⟩
      rw [← pauses, arrived, arrived, List.take_length,
        List.take_of_length_le (by omega)]
  · rintro ⟨count, -, pauses⟩
    exact ⟨count, pauses⟩

instance (feed : Feed Symbol) (place : Nat) :
    Decidable (feed.Pauses place) :=
  decidable_of_iff' _ (feed.pauses_iff place)

theorem length_receive_arriving (feed : Feed Symbol) :
    feed.receive.arriving.length = feed.arriving.length - 1 := by
  cases segments : feed.arriving <;> simp [receive, segments]

end Feed

/-- A reader of a feed; `none` waits for ever. -/
abbrev FeedReader (Symbol : Type u) (Failure : Type u) : Type u → Type u :=
  ExceptT Failure (StateT (Feed Symbol) Option)

section Readers

variable {Symbol Failure α β : Type u}

/-- In a feed that starts with `consumed`, arrives in at most `limit` segments
and does not pause at a seam, the reader takes these symbols for `value`. -/
def Reads (limit : Nat) (reader : FeedReader Symbol Failure α)
    (consumed : List Symbol) (seams : List Nat) (value : α) : Prop :=
  ∀ (feed : Feed Symbol) (rest : List Symbol),
    feed.pending = consumed ++ rest →
      feed.arriving.length ≤ limit →
        (∀ seam ∈ seams, ¬feed.Pauses seam) →
          ∃ later, reader.run.run feed = some (.ok value, later) ∧
            feed.Consumes consumed later

variable {limit : Nat} {reader : FeedReader Symbol Failure α}
variable {consumed further : List Symbol} {seams others : List Nat}
variable {value : α} {result : β}

theorem Reads.pure (limit : Nat) (value : α) :
    Reads limit (Pure.pure value : FeedReader Symbol Failure α) [] []
      value := by
  intro feed rest _ _ _
  exact ⟨feed, rfl, Feed.Consumes.refl feed⟩

/-- Readers in sequence: the seams of the second lie behind what the first
takes. -/
theorem Reads.bind {next : α → FeedReader Symbol Failure β}
    (reads : Reads limit reader consumed seams value)
    (readsNext : Reads limit (next value) further others result) :
    Reads limit (reader >>= next) (consumed ++ further)
      (seams ++ others.map (consumed.length + ·)) result := by
  intro feed rest pending timely unbroken
  obtain ⟨later, taken, consumes⟩ := reads feed (further ++ rest)
    (by rw [pending, List.append_assoc]) timely
    fun seam member => unbroken seam (List.mem_append_left _ member)
  have pendingNext : later.pending = further ++ rest := by
    rw [consumes.pending, List.append_assoc] at pending
    exact List.append_cancel_left pending
  obtain ⟨latest, takenNext, consumesNext⟩ := readsNext later rest pendingNext
    (Nat.le_trans consumes.length_le timely)
    fun seam member pauses =>
      unbroken (consumed.length + seam)
        (List.mem_append_right _ (List.mem_map_of_mem member))
        (consumes.pauses pauses)
  refine ⟨latest, ?_, consumes.trans consumesNext⟩
  rw [ExceptT.run_bind, StateT.run_bind, taken]
  exact takenNext

theorem Reads.bind_of_eq {next : α → FeedReader Symbol Failure β}
    (reads : Reads limit reader consumed seams value)
    (further : List Symbol) (others : List Nat)
    (readsNext : Reads limit (next value) further others result)
    {whole : List Symbol} (text : whole = consumed ++ further)
    {places : List Nat}
    (split : places = seams ++ others.map (consumed.length + ·)) :
    Reads limit (reader >>= next) whole places result := by
  subst text split
  exact reads.bind readsNext

/-- Wait for `count` symbols; without them for ever. -/
def takeArriving (count : Nat) :
    List Symbol → List (List Symbol) → Option (List Symbol × Feed Symbol)
  | received, [] =>
      if count ≤ received.length then
        some (received.take count, ⟨received.drop count, []⟩)
      else
        none
  | received, segment :: others =>
      if count ≤ received.length then
        some (received.take count, ⟨received.drop count, segment :: others⟩)
      else
        takeArriving count (received ++ segment) others

theorem takeArriving_of_le {count : Nat} {received : List Symbol}
    (enough : count ≤ received.length) (arriving : List (List Symbol)) :
    takeArriving count received arriving =
      some (received.take count, ⟨received.drop count, arriving⟩) := by
  cases arriving <;> rw [takeArriving, if_pos enough]

/-- Symbols that are pending are taken, wherever the segments end. -/
theorem takeArriving_consumes {received rest : List Symbol}
    {arriving : List (List Symbol)}
    (pending : received ++ arriving.flatten = consumed ++ rest) :
    ∃ later,
      takeArriving consumed.length received arriving =
          some (consumed, later) ∧
        (⟨received, arriving⟩ : Feed Symbol).Consumes consumed later := by
  induction arriving generalizing received with
  | nil =>
      rw [List.flatten_nil, List.append_nil] at pending
      subst pending
      rw [takeArriving_of_le (by simp), List.take_left, List.drop_left]
      exact ⟨_, rfl, Feed.consumes_received _ _ _⟩
  | cons segment others inductionHypothesis =>
      by_cases enough : consumed.length ≤ received.length
      · have start : consumed <+: received :=
          List.prefix_of_prefix_length_le ⟨rest, pending.symm⟩
            (List.prefix_append _ _) enough
        obtain ⟨left, rfl⟩ := start
        rw [takeArriving_of_le enough, List.take_left, List.drop_left]
        exact ⟨_, rfl, Feed.consumes_received _ _ _⟩
      · rw [List.flatten_cons, ← List.append_assoc] at pending
        obtain ⟨later, taken, consumes⟩ := inductionHypothesis pending
        rw [takeArriving, if_neg enough]
        exact ⟨later, taken, (Feed.consumes_receive _).trans consumes⟩

end Readers

end FunnelDispenser.Segments
