import FunnelDispenser.Library.Decimal
import FunnelDispenser.Library.Loops
import FunnelDispenser.Provisioning.WebServer

/-!
# Unknown pages

`handleNotFound` answers with a text that lists the arguments of the request.
Its loop counts with a byte.
-/

namespace FunnelDispenser.Provisioning

open CMemory Decimal Loops StepRuns

inductive HttpMethod where
  | get
  | post
deriving DecidableEq, Repr

def notFoundHeader (method : HttpMethod) (request : HttpRequest) : Bytes :=
  bytesOf "File Not Found\n\n" ++ bytesOf "URI: " ++ request.uri ++
    bytesOf "\nMethod: " ++
    bytesOf (if method = .get then "GET" else "POST") ++
    bytesOf "\nArguments: " ++ printNat request.args.length ++ bytesOf "\n"

def argumentLine (arg : Bytes × Bytes) : Bytes :=
  bytesOf " " ++ arg.1 ++ bytesOf ": " ++ arg.2 ++ bytesOf "\n"

/-- The loop variables: the `uint8_t` index and the message. -/
structure NotFoundLoop where
  i : UInt8
  message : Bytes
deriving DecidableEq, Repr

/-- One test of the loop, with the body behind it. -/
def notFoundStep (request : HttpRequest) (_ : Unit) (state : NotFoundLoop) :
    Outcome NotFoundLoop Bytes :=
  match request.args[state.i.toNat]? with
  | some arg => .again ⟨state.i + 1, state.message ++ argumentLine arg⟩
  | none => .halted state.message

/-- `handleNotFound` within `fuel` tests of its loop: how often the body ran,
and the response. -/
def handleNotFound (fuel : Nat) (method : HttpMethod)
    (request : HttpRequest) : Option (Nat × Response) :=
  match rounds (notFoundStep request) (fun _ => ()) fuel 0
      ⟨0, notFoundHeader method request⟩ with
  | some (made, message) => some (made, .text 404 message)
  | none => none

/-- The handler ends after one round for each argument, and the body lists
them all in their order. -/
def ListsArguments (method : HttpMethod) (request : HttpRequest) : Prop :=
  ∃ fuel, handleNotFound fuel method request =
    some (request.args.length,
      .text 404 (notFoundHeader method request ++
        request.args.flatMap argumentLine))

section Counting

variable {request : HttpRequest}

/-- While the index does not wrap, the loop lists what is left. -/
theorem rounds_notFoundStep (few : request.args.length ≤ 255)
    (left made : Nat) (state : NotFoundLoop)
    (rest : state.i.toNat + left = request.args.length) :
    rounds (notFoundStep request) (fun _ => ()) (left + 1) made state =
      some (made + left, state.message ++
        (request.args.drop state.i.toNat).flatMap argumentLine) := by
  induction left generalizing made state with
  | zero =>
      have ended : request.args[state.i.toNat]? = none :=
        List.getElem?_eq_none (by omega)
      have nothing : request.args.drop state.i.toNat = [] :=
        List.drop_of_length_le (by omega)
      have stepped : notFoundStep request () state =
          .halted state.message := by
        rw [notFoundStep, ended]
      rw [rounds_halted stepped, nothing, List.flatMap_nil, List.append_nil]
      rfl
  | succ left inductionHypothesis =>
      have inside : state.i.toNat < request.args.length := by omega
      have stepped : notFoundStep request () state =
          .again ⟨state.i + 1,
            state.message ++ argumentLine request.args[state.i.toNat]⟩ := by
        rw [notFoundStep, List.getElem?_eq_getElem inside]
      have next : (state.i + 1).toNat = state.i.toNat + 1 := by
        rw [UInt8.toNat_add]
        exact Nat.mod_eq_of_lt (by simp; omega)
      rw [rounds_again stepped, inductionHypothesis (made + 1) _
        (by rw [next]; omega)]
      simp only [next, List.append_assoc]
      rw [List.drop_eq_getElem_cons inside, List.flatMap_cons,
        Nat.add_assoc, Nat.add_comm 1 left]

/-- A byte never reaches 256. -/
theorem not_ends_notFoundStep (many : 256 ≤ request.args.length)
    (state : NotFoundLoop) :
    ¬ Ends (notFoundStep request) (fun _ => ()) state := by
  apply not_ends_of_invariant (fun _ => True) _ trivial
  intro made state _
  have inside : state.i.toNat < request.args.length :=
    Nat.lt_of_lt_of_le state.i.toNat_lt many
  refine ⟨⟨state.i + 1, state.message ++
    argumentLine request.args[state.i.toNat]⟩, ?_, trivial⟩
  rw [notFoundStep, List.getElem?_eq_getElem inside]

theorem not_listsArguments_of_many (method : HttpMethod)
    (many : 256 ≤ request.args.length) :
    ¬ ListsArguments method request := by
  rintro ⟨fuel, answered⟩
  apply not_ends_notFoundStep many ⟨0, notFoundHeader method request⟩
  refine ⟨fuel, ?_⟩
  rw [handleNotFound] at answered
  split at answered
  · rename_i ended
    rw [ended]
    rfl
  · cases answered

end Counting

/-- The 404 page comes and lists every argument exactly when there are at
most 255. -/
theorem listsArguments_iff (method : HttpMethod) (request : HttpRequest) :
    ListsArguments method request ↔ request.args.length ≤ 255 := by
  constructor
  · intro lists
    by_contra many
    exact not_listsArguments_of_many method (by omega) lists
  · intro few
    refine ⟨request.args.length + 1, ?_⟩
    rw [handleNotFound, rounds_notFoundStep few request.args.length 0
      ⟨0, notFoundHeader method request⟩ (Nat.zero_add _)]
    simp

/-- A request to an unknown page with 256 empty arguments. -/
def manyArgumentsRequest : HttpRequest where
  uri := bytesOf "/missing"
  args := List.replicate 256 ([], [])

theorem not_listsArguments_manyArguments :
    ¬ ListsArguments .get manyArgumentsRequest :=
  not_listsArguments_of_many .get
    (Nat.le_of_eq (List.length_replicate (n := 256)).symm)

end FunnelDispenser.Provisioning
