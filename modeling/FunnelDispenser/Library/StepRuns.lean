import Mathlib

/-!
# Runs of a deterministic step over a list of inputs

A system takes one step per input until it halts.  `EveryStep` states a
property of all executed steps of a run, each seen with the state it starts
from and its input.  The rules below turn a fact about one step into a fact
about a whole run.
-/

namespace FunnelDispenser.StepRuns

universe u v w

/-- What a step leads to: another step, or the end of the run. -/
inductive Outcome (State : Type u) (Result : Type v) where
  | again (next : State)
  | halted (result : Result)

section Runs

variable {Input : Type w} {State : Type u} {Result : Type v}
variable (step : Input → State → Outcome State Result)

def run : List Input → State → Outcome State Result
  | [], state => .again state
  | input :: rest, state =>
      match step input state with
      | .again next => run rest next
      | .halted result => .halted result

/-- Every executed step of the run has the property. -/
def EveryStep (property : State → Input → Prop) :
    List Input → State → Prop
  | [], _ => True
  | input :: rest, state =>
      property state input ∧
        match step input state with
        | .again next => EveryStep property rest next
        | .halted _ => True

variable {step}

theorem run_cons_again
    {input : Input} {rest : List Input} {state next : State}
    (stepped : step input state = .again next) :
    run step (input :: rest) state = run step rest next := by
  simp only [run, stepped]

theorem run_cons_halted
    {input : Input} {rest : List Input} {state : State} {result : Result}
    (stepped : step input state = .halted result) :
    run step (input :: rest) state = .halted result := by
  simp only [run, stepped]

theorem everyStep_cons_again
    {property : State → Input → Prop}
    {input : Input} {rest : List Input} {state next : State}
    (stepped : step input state = .again next) :
    EveryStep step property (input :: rest) state ↔
      property state input ∧ EveryStep step property rest next := by
  simp only [EveryStep, stepped]

theorem everyStep_cons_halted
    {property : State → Input → Prop}
    {input : Input} {rest : List Input} {state : State} {result : Result}
    (stepped : step input state = .halted result) :
    EveryStep step property (input :: rest) state ↔
      property state input := by
  simp only [EveryStep, stepped, and_true]

theorem everyStep_singleton
    {property : State → Input → Prop} {input : Input} {state : State} :
    EveryStep step property [input] state ↔ property state input := by
  cases stepped : step input state with
  | again next =>
      rw [everyStep_cons_again stepped]
      exact and_iff_left trivial
  | halted result => rw [everyStep_cons_halted stepped]

def checkSteps (step : Input → State → Outcome State Result)
    (test : State → Input → Bool) : List Input → State → Bool
  | [], _ => true
  | input :: rest, state =>
      test state input &&
        match step input state with
        | .again next => checkSteps step test rest next
        | .halted _ => true

theorem checkSteps_iff (test : State → Input → Bool)
    (inputs : List Input) (state : State) :
    checkSteps step test inputs state = true ↔
      EveryStep step (fun state input => test state input = true)
        inputs state := by
  induction inputs generalizing state with
  | nil => simp [checkSteps, EveryStep]
  | cons input rest inductionHypothesis =>
      cases stepped : step input state <;>
        simp [checkSteps, EveryStep, stepped, inductionHypothesis]

instance {property : State → Input → Prop}
    [∀ state input, Decidable (property state input)]
    (inputs : List Input) (state : State) :
    Decidable (EveryStep step property inputs state) :=
  decidable_of_iff
    (checkSteps step
      (fun state input => decide (property state input)) inputs state = true)
    (by simp only [checkSteps_iff, decide_eq_true_eq])

/-- The run takes a step on `input` from `middle`, behind the steps on
`earlier`. -/
def Reaches (step : Input → State → Outcome State Result)
    (inputs : List Input) (state : State) (earlier : List Input)
    (input : Input) (middle : State) : Prop :=
  (∃ later, inputs = earlier ++ input :: later) ∧
    run step earlier state = .again middle

theorem everyStep_concat {property : State → Input → Prop}
    {earlier : List Input} {input : Input} {state middle : State}
    (reached : run step earlier state = .again middle) :
    EveryStep step property (earlier ++ [input]) state ↔
      EveryStep step property earlier state ∧ property middle input := by
  induction earlier generalizing state with
  | nil =>
      cases reached
      rw [List.nil_append, everyStep_singleton]
      exact (and_iff_right trivial).symm
  | cons first rest inductionHypothesis =>
      cases stepped : step first state with
      | again next =>
          rw [run_cons_again stepped] at reached
          rw [List.cons_append, everyStep_cons_again stepped,
            everyStep_cons_again stepped, inductionHypothesis reached,
            and_assoc]
      | halted result =>
          rw [run_cons_halted stepped] at reached
          cases reached

/-- A run goes on where the first part of its inputs has stopped. -/
theorem run_append {initial rest : List Input} {state middle : State}
    (reached : run step initial state = .again middle) :
    run step (initial ++ rest) state = run step rest middle := by
  induction initial generalizing state with
  | nil =>
      cases reached
      rfl
  | cons input others inductionHypothesis =>
      cases stepped : step input state with
      | again next =>
          rw [run_cons_again stepped] at reached
          rw [List.cons_append, run_cons_again stepped,
            inductionHypothesis reached]
      | halted result =>
          rw [run_cons_halted stepped] at reached
          cases reached

theorem everyStep_of_append {property : State → Input → Prop}
    {initial rest : List Input} {state : State}
    (holds : EveryStep step property (initial ++ rest) state) :
    EveryStep step property initial state ∧
      ∀ middle, run step initial state = .again middle →
        EveryStep step property rest middle := by
  induction initial generalizing state with
  | nil =>
      refine ⟨trivial, fun middle reached => ?_⟩
      cases reached
      exact holds
  | cons input others inductionHypothesis =>
      cases stepped : step input state with
      | again next =>
          rw [List.cons_append, everyStep_cons_again stepped] at holds
          obtain ⟨before, behind⟩ := inductionHypothesis holds.2
          rw [everyStep_cons_again stepped, run_cons_again stepped]
          exact ⟨⟨holds.1, before⟩, behind⟩
      | halted result =>
          rw [List.cons_append, everyStep_cons_halted stepped] at holds
          rw [everyStep_cons_halted stepped, run_cons_halted stepped]
          exact ⟨holds, by rintro middle ⟨⟩⟩

/-- The invariant rule.  An invariant that steps meeting the condition
preserve carries the property along every run of such steps. -/
theorem EveryStep.of_invariant (invariant : State → Prop)
    {condition property : State → Input → Prop} {inputs : List Input}
    (establish : ∀ state, ∀ input ∈ inputs,
      invariant state → condition state input → property state input)
    (preserve : ∀ state, ∀ input ∈ inputs, ∀ next,
      invariant state → condition state input →
        step input state = .again next → invariant next)
    {state : State} (initial : invariant state)
    (conditions : EveryStep step condition inputs state) :
    EveryStep step property inputs state := by
  induction inputs generalizing state with
  | nil => trivial
  | cons input rest inductionHypothesis =>
      have member : input ∈ input :: rest := List.mem_cons_self
      have later := fun next (kept : invariant next) =>
        inductionHypothesis
          (fun state input inRest =>
            establish state input (List.mem_cons_of_mem _ inRest))
          (fun state input inRest =>
            preserve state input (List.mem_cons_of_mem _ inRest)) kept
      cases stepped : step input state with
      | again next =>
          rw [everyStep_cons_again stepped] at conditions ⊢
          exact ⟨establish state input member initial conditions.1,
            later next
              (preserve state input member next initial conditions.1 stepped)
              conditions.2⟩
      | halted result =>
          rw [everyStep_cons_halted stepped] at conditions ⊢
          exact establish state input member initial conditions

/-- A condition on the inputs alone holds along every run. -/
theorem everyStep_of_forall
    {property : State → Input → Prop} {inputs : List Input}
    (holds : ∀ state, ∀ input ∈ inputs, property state input)
    (state : State) : EveryStep step property inputs state := by
  induction inputs generalizing state with
  | nil => trivial
  | cons input rest inductionHypothesis =>
      have here := holds state input List.mem_cons_self
      have later := inductionHypothesis fun other tested inRest =>
        holds other tested (List.mem_cons_of_mem _ inRest)
      cases stepped : step input state with
      | again next =>
          rw [everyStep_cons_again stepped]
          exact ⟨here, later next⟩
      | halted result =>
          rw [everyStep_cons_halted stepped]
          exact here

/-- Properties that agree on every state satisfying an invariant, which steps
with the property preserve, hold along the same runs. -/
theorem everyStep_congr_of_invariant (invariant : State → Prop)
    {left right : State → Input → Prop} {inputs : List Input}
    {state : State} (initial : invariant state)
    (agree : ∀ state, ∀ input ∈ inputs,
      invariant state → (left state input ↔ right state input))
    (preserve : ∀ state, ∀ input ∈ inputs, ∀ next,
      invariant state → left state input →
        step input state = .again next → invariant next) :
    EveryStep step left inputs state ↔ EveryStep step right inputs state := by
  induction inputs generalizing state with
  | nil => exact Iff.rfl
  | cons input rest inductionHypothesis =>
      have member : input ∈ input :: rest := List.mem_cons_self
      have here := agree state input member initial
      have later := fun next (kept : invariant next) =>
        inductionHypothesis kept
          (fun state input inRest =>
            agree state input (List.mem_cons_of_mem _ inRest))
          (fun state input inRest =>
            preserve state input (List.mem_cons_of_mem _ inRest))
      cases stepped : step input state with
      | again next =>
          rw [everyStep_cons_again stepped, everyStep_cons_again stepped,
            ← here]
          exact and_congr_right fun holds => later next <|
            preserve state input member next initial holds stepped
      | halted result =>
          rw [everyStep_cons_halted stepped, everyStep_cons_halted stepped,
            here]

/-- Inputs that keep an invariant without halting lead to a state that
satisfies it. -/
theorem run_append_of_invariant (invariant : State → Prop)
    {initial rest : List Input} {state : State} (holds : invariant state)
    (advance : ∀ state, ∀ input ∈ initial, invariant state →
      ∃ next, step input state = .again next ∧ invariant next) :
    ∃ next, run step (initial ++ rest) state = run step rest next ∧
      invariant next := by
  induction initial generalizing state with
  | nil => exact ⟨state, rfl, holds⟩
  | cons input others inductionHypothesis =>
      obtain ⟨next, stepped, kept⟩ :=
        advance state input List.mem_cons_self holds
      rw [List.cons_append, run_cons_again stepped]
      exact inductionHypothesis kept fun state input inOthers =>
        advance state input (List.mem_cons_of_mem _ inOthers)

/-- What steps meeting the condition preserve holds where a run stops. -/
theorem run_of_invariant (invariant : State → Prop)
    {condition : State → Input → Prop} {inputs : List Input}
    (preserve : ∀ state, ∀ input ∈ inputs, ∀ next,
      invariant state → condition state input →
        step input state = .again next → invariant next)
    {state final : State} (initial : invariant state)
    (conditions : EveryStep step condition inputs state)
    (reached : run step inputs state = .again final) : invariant final := by
  induction inputs generalizing state with
  | nil =>
      cases reached
      exact initial
  | cons input rest inductionHypothesis =>
      cases stepped : step input state with
      | again next =>
          rw [run_cons_again stepped] at reached
          rw [everyStep_cons_again stepped] at conditions
          exact inductionHypothesis
            (fun state input inRest =>
              preserve state input (List.mem_cons_of_mem _ inRest))
            (preserve state input List.mem_cons_self next initial
              conditions.1 stepped) conditions.2 reached
      | halted result =>
          rw [run_cons_halted stepped] at reached
          cases reached

/-- The state behind an outcome, or its result. -/
def Outcome.Satisfies (invariant : State → Prop) (goal : Result → Prop) :
    Outcome State Result → Prop
  | .again state => invariant state
  | .halted result => goal result

/-- Steps that keep an invariant or halt at a goal lead a run to either. -/
theorem run_satisfies (invariant : State → Prop) (goal : Result → Prop)
    {inputs : List Input} {state : State}
    (advance : ∀ state, ∀ input ∈ inputs, invariant state →
      (step input state).Satisfies invariant goal)
    (initial : invariant state) :
    (run step inputs state).Satisfies invariant goal := by
  induction inputs generalizing state with
  | nil => exact initial
  | cons input rest inductionHypothesis =>
      have here := advance state input List.mem_cons_self initial
      cases stepped : step input state with
      | again next =>
          rw [stepped] at here
          rw [run_cons_again stepped]
          exact inductionHypothesis
            (fun state input inRest =>
              advance state input (List.mem_cons_of_mem _ inRest)) here
      | halted result =>
          rw [stepped] at here
          rw [run_cons_halted stepped]
          exact here

/-- A run whose steps all go on under an invariant uses up its inputs. -/
theorem run_goesOn (invariant : State → Prop)
    {condition : State → Input → Prop}
    (advance : ∀ state input, invariant state → condition state input →
      ∃ next, step input state = .again next ∧ invariant next)
    {inputs : List Input} {state : State} (initial : invariant state)
    (conditions : EveryStep step condition inputs state) :
    ∃ final, run step inputs state = .again final ∧ invariant final := by
  induction inputs generalizing state with
  | nil => exact ⟨state, rfl, initial⟩
  | cons input rest inductionHypothesis =>
      obtain ⟨next, stepped, kept⟩ :=
        advance state input initial conditions.1
      rw [everyStep_cons_again stepped] at conditions
      rw [run_cons_again stepped]
      exact inductionHypothesis kept conditions.2

/-- A property of the result of a run is one of its halting step. -/
theorem everyStep_halted_iff {goal : Result → Prop}
    {inputs : List Input} {state : State} :
    EveryStep step
        (fun state input => ∀ result,
          step input state = .halted result → goal result)
        inputs state ↔
      ∀ result, run step inputs state = .halted result → goal result := by
  induction inputs generalizing state with
  | nil => simp [EveryStep, run]
  | cons input rest inductionHypothesis =>
      cases stepped : step input state with
      | again next =>
          rw [everyStep_cons_again stepped, inductionHypothesis,
            run_cons_again stepped, stepped]
          simp
      | halted result =>
          rw [everyStep_cons_halted stepped, run_cons_halted stepped, stepped]

/-- What holds of every halting step holds of the result of a halted run. -/
theorem result_of_run (invariant : State → Prop)
    (condition : State → Input → Prop) (goal : Result → Prop)
    {inputs : List Input}
    (preserve : ∀ state, ∀ input ∈ inputs, ∀ next,
      invariant state → condition state input →
        step input state = .again next → invariant next)
    (finish : ∀ state, ∀ input ∈ inputs,
      invariant state → condition state input →
        ∀ result, step input state = .halted result → goal result)
    {state : State} {result : Result} (initial : invariant state)
    (conditions : EveryStep step condition inputs state)
    (reached : run step inputs state = .halted result) :
    goal result :=
  everyStep_halted_iff.mp
    (EveryStep.of_invariant invariant finish preserve initial conditions)
    result reached

variable {View : Type*}

/-- What an observer sees of the executed steps. -/
def trace (step : Input → State → Outcome State Result)
    (observe : Input → State → View) : List Input → State → List View
  | [], _ => []
  | input :: rest, state =>
      observe input state ::
        match step input state with
        | .again next => trace step observe rest next
        | .halted _ => []

/-- The lockstep rule.  Two runs look the same when each pair of steps from
one state looks the same and leads to one state again, or halts twice. -/
theorem trace_eq_of_lockstep {Twin : Type*} {observe : Input → State → View}
    (left right : Twin → Input) {condition : State → Twin → Prop}
    (views : ∀ state twin, condition state twin →
      observe (left twin) state = observe (right twin) state)
    (nexts : ∀ state twin, condition state twin →
      ∀ next, step (left twin) state = .again next ↔
        step (right twin) state = .again next)
    {twins : List Twin} {state : State}
    (conditions : EveryStep (fun twin => step (left twin)) condition
      twins state) :
    trace step observe (twins.map left) state =
      trace step observe (twins.map right) state := by
  induction twins generalizing state with
  | nil => rfl
  | cons twin rest inductionHypothesis =>
      have here := conditions.1
      rw [List.map_cons, List.map_cons, trace, trace, views state twin here]
      congr 1
      cases stepped : step (left twin) state with
      | again next =>
          have later := conditions.2
          simp only [stepped] at later
          rw [(nexts state twin here next).mp stepped]
          exact inductionHypothesis later
      | halted result =>
          cases other : step (right twin) state with
          | again next =>
              rw [(nexts state twin here next).mpr other] at stepped
              cases stepped
          | halted otherResult => rfl

variable {Event : Type*} {Model : Type*} {End : Type*}
variable {related : State → Model → Prop} {ends : Result → End → Prop}

/-- Two outcomes go on or end together, in related states. -/
inductive Outcome.Matches (related : State → Model → Prop)
    (ends : Result → End → Prop) :
    Outcome State Result → Outcome Model End → Prop where
  | again {state : State} {model : Model} (holds : related state model) :
      Matches related ends (.again state) (.again model)
  | halted {result : Result} {final : End} (holds : ends result final) :
      Matches related ends (.halted result) (.halted final)

theorem Outcome.Matches.imp {left : Outcome State Result}
    {right : Outcome Model End} {weaker : State → Model → Prop}
    (weaken : ∀ state model, related state model → weaker state model)
    (matched : Outcome.Matches related ends left right) :
    Outcome.Matches weaker ends left right := by
  cases matched with
  | again holds => exact .again (weaken _ _ holds)
  | halted holds => exact .halted holds

/-- The simulation rule.  When each step matches a step of the model, so does
each run. -/
theorem run_simulates {modelStep : Event → Model → Outcome Model End}
    (view : Input → Event) {condition : State → Input → Prop}
    (simulate : ∀ state input model,
      condition state input → related state model →
        Outcome.Matches related ends (step input state)
          (modelStep (view input) model))
    {inputs : List Input} {state : State} {model : Model}
    (initial : related state model)
    (conditions : EveryStep step condition inputs state) :
    Outcome.Matches related ends (run step inputs state)
      (run modelStep (inputs.map view) model) := by
  induction inputs generalizing state model with
  | nil => exact .again initial
  | cons input rest inductionHypothesis =>
      have here := simulate state input model conditions.1 initial
      rw [List.map_cons]
      cases stepped : step input state with
      | again next =>
          cases modelled : modelStep (view input) model with
          | again other =>
              rw [stepped, modelled] at here
              cases here with
              | again holds =>
                  rw [run_cons_again stepped, run_cons_again modelled]
                  rw [everyStep_cons_again stepped] at conditions
                  exact inductionHypothesis holds conditions.2
          | halted final =>
              rw [stepped, modelled] at here
              cases here
      | halted result =>
          cases modelled : modelStep (view input) model with
          | again other =>
              rw [stepped, modelled] at here
              cases here
          | halted final =>
              rw [stepped, modelled] at here
              cases here with
              | halted holds =>
                  rw [run_cons_halted stepped, run_cons_halted modelled]
                  exact .halted holds

/-- The runs of a model that may have a choice of steps on an event. -/
inductive Runs (modelStep : Event → Model → Model → Prop) :
    List Event → Model → Model → Prop where
  | nil (model : Model) : Runs modelStep [] model model
  | cons {event : Event} {rest : List Event} {model middle final : Model}
      (steps : modelStep event model middle)
      (later : Runs modelStep rest middle final) :
      Runs modelStep (event :: rest) model final

/-- The refinement rule.  When each step goes on and is one of the model's, so
is each run. -/
theorem run_refines {modelStep : Event → Model → Model → Prop}
    (view : Input → Event) {condition : State → Input → Prop}
    (refines : ∀ state input model,
      condition state input → related state model →
        ∃ next after, step input state = .again next ∧
          modelStep (view input) model after ∧ related next after)
    {inputs : List Input} {state : State} {model : Model}
    (initial : related state model)
    (conditions : EveryStep step condition inputs state) :
    ∃ final after, run step inputs state = .again final ∧
      Runs modelStep (inputs.map view) model after ∧ related final after := by
  induction inputs generalizing state model with
  | nil => exact ⟨state, model, rfl, .nil model, initial⟩
  | cons input rest inductionHypothesis =>
      obtain ⟨next, middle, stepped, taken, holds⟩ :=
        refines state input model conditions.1 initial
      rw [everyStep_cons_again stepped] at conditions
      obtain ⟨final, after, reached, later, ends⟩ :=
        inductionHypothesis holds conditions.2
      exact ⟨final, after, (run_cons_again stepped).trans reached,
        .cons taken later, ends⟩

end Runs

end FunnelDispenser.StepRuns
