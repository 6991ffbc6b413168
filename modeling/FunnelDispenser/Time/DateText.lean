import FunnelDispenser.Time.RunningClock

/-!
# The date of a report

Six field calls, each with a clock call of its own, make the text.  The
operands of `+` may be evaluated in any order, and a second may end between
two of them.  The text keeps one trace of the cache: before the clock has left
its first second, the month and the day are 0.
-/

namespace FunnelDispenser.Time

open CMemory Decimal

def dateFields : List Field :=
  [.year, .month, .day, .hour, .minute, .second]

/-- The order of the six calls, and what `now()` returns in each of them. -/
structure ClockReads where
  order : List Field
  complete : order.Perm dateFields
  time : Field → BitVec 32

def ClockReads.lookUps (reads : ClockReads) : List LookUp :=
  reads.order.map fun field => (field, reads.time field)

def fieldRead : TimeCache → List LookUp → Field → Nat
  | _, [], _ => 0
  | cache, lookUp :: rest, field =>
      let refreshed := refreshCache lookUp.2 cache
      if lookUp.1 = field then
        field.of refreshed.tm
      else
        fieldRead refreshed rest field

/-- `dateTime` of a report; no field is padded. -/
def dateTimeText (cache : TimeCache) (reads : ClockReads) : Bytes :=
  let value := fieldRead cache reads.lookUps
  printNat (value .year) ++ bytesOf "-" ++ printNat (value .month) ++
    bytesOf "-" ++ printNat (value .day) ++ bytesOf " " ++
    printNat (value .hour) ++ bytesOf ":" ++ printNat (value .minute) ++
    bytesOf ":" ++ printNat (value .second)

def Field.digits : Field → Nat
  | .year => 4
  | .hour | .minute | .second | .day | .weekday | .month => 3

theorem Field.of_lt (field : Field) (tm : TmElements) :
    field.of tm < 10 ^ field.digits := by
  have bytes := And.intro tm.year.isLt <| And.intro tm.month.isLt <|
    And.intro tm.day.isLt <| And.intro tm.hour.isLt <|
    And.intro tm.minute.isLt <| And.intro tm.second.isLt tm.wday.isLt
  cases field <;> simp only [of, digits] <;> omega

theorem fieldRead_lt (cache : TimeCache) (lookUps : List LookUp)
    (field : Field) : fieldRead cache lookUps field < 10 ^ field.digits := by
  induction lookUps generalizing cache with
  | nil => exact Nat.pow_pos (by decide)
  | cons lookUp rest inductionHypothesis =>
      simp only [fieldRead]
      split
      · exact field.of_lt _
      · exact inductionHypothesis _

/-- Whatever the cache holds, four digits for the year and three for each
other field. -/
theorem length_dateTimeText_le (cache : TimeCache) (reads : ClockReads) :
    (dateTimeText cache reads).length ≤ 24 := by
  have short : ∀ field : Field,
      (printNat (fieldRead cache reads.lookUps field)).length ≤
        field.digits := by
    intro field
    apply length_printNat_le_of_lt _ (fieldRead_lt cache _ field)
    cases field <;> decide
  have year := short .year
  have month := short .month
  have day := short .day
  have hour := short .hour
  have minute := short .minute
  have second := short .second
  simp only [Field.digits] at year month day hour minute second
  have dash : (bytesOf "-").length = 1 := by decide
  have blank : (bytesOf " ").length = 1 := by decide
  have colon : (bytesOf ":").length = 1 := by decide
  simp only [dateTimeText, List.length_append, dash, blank, colon]
  omega

/-- Unpadded as they are, the fields can be told apart in the text. -/
theorem fieldReads_eq_of_text {cache other : TimeCache}
    {reads others : ClockReads}
    (same : dateTimeText cache reads = dateTimeText other others) :
    ∀ field ∈ dateFields,
      fieldRead cache reads.lookUps field =
        fieldRead other others.lookUps field := by
  have bound : ∀ (cache : TimeCache) (lookUps : List LookUp) (field : Field),
      fieldRead cache lookUps field < 2 ^ 32 := by
    intro cache lookUps field
    apply Nat.lt_of_lt_of_le (fieldRead_lt cache lookUps field)
    cases field <;> decide
  have dash : bytesOf "-" = [45] := by decide
  have blank : bytesOf " " = [32] := by decide
  have colon : bytesOf ":" = [58] := by decide
  simp only [dateTimeText, dash, blank, colon, List.append_assoc,
    List.singleton_append] at same
  obtain ⟨year, same⟩ :=
    printNat_append_inj (bound _ _ _) (bound _ _ _) rfl same
  obtain ⟨month, same⟩ :=
    printNat_append_inj (bound _ _ _) (bound _ _ _) rfl same
  obtain ⟨day, same⟩ :=
    printNat_append_inj (bound _ _ _) (bound _ _ _) rfl same
  obtain ⟨hour, same⟩ :=
    printNat_append_inj (bound _ _ _) (bound _ _ _) rfl same
  obtain ⟨minute, same⟩ :=
    printNat_append_inj (bound _ _ _) (bound _ _ _) rfl same
  have second := printNat_inj (bound _ _ _) (bound _ _ _) same
  simp only [dateFields, List.forall_mem_cons, List.not_mem_nil,
    false_implies, implies_true, and_true]
  exact ⟨year, month, day, hour, minute, second⟩

/-- The cache behind field calls with these times, from boot on. -/
def cacheAfter (times : List (BitVec 32)) : TimeCache :=
  times.foldl (fun cache time => refreshCache time cache) .initial

theorem refreshCache_idem (time : BitVec 32) (cache : TimeCache) :
    refreshCache time (refreshCache time cache) =
      refreshCache time cache := by
  by_cases other : time ≠ cache.cacheTime
  · have filled : refreshCache time cache = ⟨breakTime time, time⟩ :=
      if_pos other
    rw [filled, refreshCache, if_neg fun differs => differs rfl]
  · have kept : refreshCache time cache = cache := if_neg other
    rw [kept, kept]

theorem cacheAfter_cases (times : List (BitVec 32)) :
    ((∀ time ∈ times, time = 0) ∧ cacheAfter times = .initial) ∨
      (¬(∀ time ∈ times, time = 0) ∧ (cacheAfter times).Coherent) := by
  induction times using List.reverseRecOn with
  | nil => exact Or.inl ⟨by simp, rfl⟩
  | append_singleton times time inductionHypothesis =>
      have last : cacheAfter (times ++ [time]) =
          refreshCache time (cacheAfter times) := by
        rw [cacheAfter, List.foldl_append]
        rfl
      rw [last]
      rcases inductionHypothesis with ⟨zeros, fresh⟩ | ⟨filled, coherent⟩
      · rw [fresh]
        by_cases first : time = 0
        · left
          rw [first]
          refine ⟨fun tested member => ?_, rfl⟩
          rcases List.mem_append.mp member with earlier | latest
          · exact zeros tested earlier
          · exact List.mem_singleton.mp latest
        · right
          have now : refreshCache time .initial = ⟨breakTime time, time⟩ :=
            if_pos first
          refine ⟨fun all => first (all time (by simp)), ?_⟩
          rw [now]
          rfl
      · right
        refine ⟨fun all => filled fun tested member => ?_,
          (refreshCache_coherent coherent time).1⟩
        exact all tested (List.mem_append_left _ member)

theorem fieldRead_of_steady {lookUps : List LookUp} {time : BitVec 32}
    (same : ∀ lookUp ∈ lookUps, lookUp.2 = time) {field : Field}
    (asked : field ∈ lookUps.map Prod.fst) (cache : TimeCache) :
    fieldRead cache lookUps field =
      field.of (refreshCache time cache).tm := by
  induction lookUps generalizing cache with
  | nil => cases asked
  | cons lookUp rest inductionHypothesis =>
      simp only [fieldRead, same lookUp List.mem_cons_self]
      split
      · rfl
      · rename_i other
        rw [List.map_cons] at asked
        have later := List.mem_of_ne_of_mem (Ne.symm other) asked
        rw [inductionHypothesis
          (fun tested member => same tested (List.mem_cons_of_mem _ member))
          later, refreshCache_idem]

def ClockReads.Steady (time : BitVec 32) (reads : ClockReads) : Prop :=
  ∀ field, reads.time field = time

theorem ClockReads.Steady.fieldRead {time : BitVec 32} {reads : ClockReads}
    (steady : reads.Steady time) {field : Field} (asked : field ∈ dateFields)
    (cache : TimeCache) :
    Time.fieldRead cache reads.lookUps field =
      field.of (refreshCache time cache).tm := by
  apply fieldRead_of_steady
  · intro lookUp member
    obtain ⟨tested, -, rfl⟩ := List.mem_map.mp member
    exact steady tested
  · rw [lookUps, List.map_map]
    exact List.mem_map.mpr ⟨field, reads.complete.mem_iff.mpr asked, rfl⟩

/-- Broken times with the same date and time of day are of one second. -/
theorem eq_of_dateFields {time other : BitVec 32}
    (same : ∀ field ∈ dateFields,
      field.of (breakTime time) = field.of (breakTime other)) :
    time = other := by
  simp only [dateFields, List.forall_mem_cons, List.not_mem_nil,
    false_implies, implies_true, and_true, Field.of,
    Nat.add_right_cancel_iff] at same
  obtain ⟨year, month, day, hour, minute, second⟩ := same
  apply BitVec.eq_of_toNat_eq
  rw [← secondsBefore_breakTime time, ← secondsBefore_breakTime other]
  simp only [TmElements.secondsBefore, TmElements.daysBefore, year, month,
    day, hour, minute, second]

/-- The elements a call finds behind these times: those of its own time,
except in the first second. -/
theorem refreshCache_cacheAfter_tm (times : List (BitVec 32))
    (time : BitVec 32) :
    (refreshCache time (cacheAfter times)).tm =
      if time = 0 ∧ ∀ earlier ∈ times, earlier = 0 then TimeCache.initial.tm
      else breakTime time := by
  rcases cacheAfter_cases times with ⟨zeros, fresh⟩ | ⟨filled, coherent⟩
  · rw [fresh]
    by_cases first : time = 0
    · rw [if_pos ⟨first, zeros⟩, first]
      rfl
    · have now : refreshCache time .initial = ⟨breakTime time, time⟩ :=
        if_pos first
      rw [if_neg fun both => first both.1, now]
  · rw [if_neg fun both => filled both.2,
      (refreshCache_coherent coherent time).2]

theorem month_initial_ne (time : BitVec 32) :
    Field.month.of TimeCache.initial.tm ≠
      Field.month.of (breakTime time) := by
  have month := (breakTime_onClock time).month.1
  simp only [Field.of, TimeCache.initial]
  intro same
  rw [← same] at month
  exact absurd month (by decide)

/-- Two texts, each read within one second, are equal exactly when the seconds
are; the first second has two texts, one of them before the clock has ever
left it. -/
theorem dateTimeText_steady_eq_iff (times others : List (BitVec 32))
    {time other : BitVec 32} {reads otherReads : ClockReads}
    (steady : reads.Steady time) (otherSteady : otherReads.Steady other) :
    dateTimeText (cacheAfter times) reads =
        dateTimeText (cacheAfter others) otherReads ↔
      time = other ∧ (time = 0 →
        ((∀ earlier ∈ times, earlier = 0) ↔
          ∀ earlier ∈ others, earlier = 0)) := by
  have values : ∀ field ∈ dateFields,
      fieldRead (cacheAfter times) reads.lookUps field =
          field.of (refreshCache time (cacheAfter times)).tm ∧
        fieldRead (cacheAfter others) otherReads.lookUps field =
          field.of (refreshCache other (cacheAfter others)).tm :=
    fun field asked =>
      ⟨steady.fieldRead asked _, otherSteady.fieldRead asked _⟩
  have elements := refreshCache_cacheAfter_tm times time
  have otherElements := refreshCache_cacheAfter_tm others other
  constructor
  · intro same
    have fields : ∀ field ∈ dateFields,
        field.of (refreshCache time (cacheAfter times)).tm =
          field.of (refreshCache other (cacheAfter others)).tm := by
      intro field asked
      rw [← (values field asked).1, ← (values field asked).2]
      exact fieldReads_eq_of_text same field asked
    have asksMonth : Field.month ∈ dateFields := by decide
    rw [elements, otherElements] at fields
    by_cases first : time = 0 ∧ ∀ earlier ∈ times, earlier = 0
    · by_cases otherFirst : other = 0 ∧ ∀ earlier ∈ others, earlier = 0
      · exact ⟨first.1.trans otherFirst.1.symm,
          fun _ => iff_of_true first.2 otherFirst.2⟩
      · rw [if_pos first, if_neg otherFirst] at fields
        exact absurd (fields _ asksMonth) (month_initial_ne other)
    · by_cases otherFirst : other = 0 ∧ ∀ earlier ∈ others, earlier = 0
      · rw [if_neg first, if_pos otherFirst] at fields
        exact absurd (fields _ asksMonth).symm (month_initial_ne time)
      · rw [if_neg first, if_neg otherFirst] at fields
        have seconds := eq_of_dateFields fields
        refine ⟨seconds, fun zero => iff_of_false ?_ ?_⟩
        · exact fun zeros => first ⟨zero, zeros⟩
        · exact fun zeros => otherFirst ⟨seconds ▸ zero, zeros⟩
  · rintro ⟨rfl, alike⟩
    have found : (refreshCache time (cacheAfter times)).tm =
        (refreshCache time (cacheAfter others)).tm := by
      rw [elements, otherElements]
      by_cases zero : time = 0
      · simp only [zero, true_and, alike zero]
      · simp only [zero, false_and]
    have same : ∀ field ∈ dateFields,
        fieldRead (cacheAfter times) reads.lookUps field =
          fieldRead (cacheAfter others) otherReads.lookUps field := by
      intro field asked
      rw [(values field asked).1, (values field asked).2, found]
    simp only [dateFields, List.forall_mem_cons, List.not_mem_nil,
      false_implies, implies_true, and_true] at same
    obtain ⟨year, month, day, hour, minute, second⟩ := same
    simp only [dateTimeText, year, month, day, hour, minute, second]

def readsAt (time : BitVec 32) : ClockReads :=
  ⟨dateFields, List.Perm.refl _, fun _ => time⟩

/-- The first second before and behind a later one. -/
theorem dateTimeText_steady_first :
    dateTimeText (cacheAfter []) (readsAt 0) =
        dateTimeText (cacheAfter [7, 0]) (readsAt 0) ↔
      (0 : BitVec 32) = 0 ∧ ((0 : BitVec 32) = 0 →
        ((∀ earlier ∈ ([] : List (BitVec 32)), earlier = 0) ↔
          ∀ earlier ∈ ([7, 0] : List (BitVec 32)), earlier = 0)) :=
  dateTimeText_steady_eq_iff [] [7, 0] (fun _ => rfl) (fun _ => rfl)

example : dateTimeText .initial (readsAt 0) = bytesOf "1970-0-0 0:0:0" := by
  decide

end FunnelDispenser.Time
