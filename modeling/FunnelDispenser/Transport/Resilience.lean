import FunnelDispenser.Library.Ladder
import FunnelDispenser.Transport.HttpHeaders

/-!
# Requests that survive a broken connection

`HTTPAPIEX_ExecuteRequest` keeps its connection from request to request and
sets it up again when a request fails.  `ApiUse` says how the HTTP layer below
wants to be used: every connection is closed once, no request goes through a
closed one, and none before the saved options are set.
-/

namespace FunnelDispenser.Transport

open CMemory Ladder

/-- `HTTPAPI_RESULT`, as far as the options tell it apart. -/
inductive HttpApiResult where
  | ok
  | invalidArg
  | error
deriving DecidableEq, Repr

/-- What the HTTP layer answers; a connection is known by a number, and `none`
is the null handle. -/
structure HttpApi (Platform Request : Type) where
  init : Platform → Bool × Platform
  createConnection : Platform → Option Nat × Platform
  setOption : Option Nat → Bytes → Bytes → Platform → HttpApiResult × Platform
  executeRequest : Option Nat → Request → Platform → Bool × Platform
  closeConnection : Option Nat → Platform → Platform
  deinit : Platform → Platform

/-- A call of the HTTP layer, or an option the client wants. -/
inductive ApiEvent where
  | init (done : Bool)
  | createConnection (made : Option Nat)
  | setOption (connection : Option Nat) (name value : Bytes)
  | executeRequest (connection : Option Nat) (done : Bool)
  | closeConnection (connection : Option Nat)
  | deinit
  | wanted (name value : Bytes)
deriving DecidableEq, Repr

/-- `HTTPAPIEX_HANDLE_DATA`, with the world it works on and what it did so
far. -/
structure HttpApiEx (Platform : Type) where
  k : Int
  httpHandle : Option Nat
  savedOptions : PropertyMap
  platform : Platform
  events : List ApiEvent
deriving DecidableEq, Repr

inductive HttpApiExResult where
  | ok
  | invalidArg
  | error
  | recoveryFailed
deriving DecidableEq, Repr

section Calls

variable {Platform Request : Type} (api : HttpApi Platform Request)

def httpApiExCreate (platform : Platform) : HttpApiEx Platform where
  k := -1
  httpHandle := none
  savedOptions := []
  platform := platform
  events := []

/-- One saved option is set; a failure is ignored. -/
def setSavedOption (handle : HttpApiEx Platform) (option : Bytes × Bytes) :
    HttpApiEx Platform :=
  { handle with
    platform := (api.setOption handle.httpHandle option.1 option.2
      handle.platform).2
    events := handle.events ++
      [.setOption handle.httpHandle option.1 option.2] }

/-- The step of each rung: `HTTPAPI_Init`, `HTTPAPI_CreateConnection` with the
saved options, and `HTTPAPI_ExecuteRequest`. -/
def tryStep (request : Request) :
    Nat → HttpApiEx Platform → Bool × HttpApiEx Platform
  | 0, handle =>
      let answered := api.init handle.platform
      (answered.1,
        { handle with
          platform := answered.2
          events := handle.events ++ [.init answered.1] })
  | 1, handle =>
      let answered := api.createConnection handle.platform
      let created : HttpApiEx Platform :=
        { handle with
          httpHandle := answered.1
          platform := answered.2
          events := handle.events ++ [.createConnection answered.1] }
      if answered.1 = none then
        (false, created)
      else
        (true, created.savedOptions.foldl (setSavedOption api) created)
  | 2, handle =>
      let answered :=
        api.executeRequest handle.httpHandle request handle.platform
      (answered.1,
        { handle with
          platform := answered.2
          events := handle.events ++
            [.executeRequest handle.httpHandle answered.1] })
  | _, handle => (false, handle)

/-- What going down to a step undoes: `HTTPAPI_Deinit` or
`HTTPAPI_CloseConnection`. -/
def undoStep : Nat → HttpApiEx Platform → HttpApiEx Platform
  | 0, handle =>
      { handle with
        platform := api.deinit handle.platform
        events := handle.events ++ [.deinit] }
  | 1, handle =>
      { handle with
        httpHandle := none
        platform := api.closeConnection handle.httpHandle handle.platform
        events := handle.events ++ [.closeConnection handle.httpHandle] }
  | _, handle => handle

/-- The rounds of the loop that are more than enough. -/
def recoveryRounds : Nat := 15

/-- The step a request starts with, behind the number of steps below it. -/
def HttpApiEx.position (handle : HttpApiEx Platform) : Nat :=
  if handle.k = -1 then 1 else (handle.k + 1).toNat

/-- The handle and the result behind the loop. -/
def finishRequest (ended : Bool × HttpApiEx Platform) :
    HttpApiExResult × HttpApiEx Platform :=
  if ended.1 then
    (.ok, { ended.2 with k := 2 })
  else
    (.recoveryFailed, { ended.2 with k := -1 })

/-- `HTTPAPIEX_ExecuteRequest` for a valid request; `built` says whether its
headers and buffers could be had.  `none` is a loop that does not end. -/
def httpApiExExecuteRequest (request : Request) (built : Bool)
    (handle : HttpApiEx Platform) :
    Option (HttpApiExResult × HttpApiEx Platform) :=
  if built then
    if handle.k > 2 then
      some (.recoveryFailed, handle)
    else
      (loop 2 (tryStep api request) (undoStep api) recoveryRounds
        handle.position (fun _ => false) handle).map finishRequest
  else
    some (.error, handle)

/-- `HTTPAPIEX_SetOption`; `cloned` is the result of `HTTPAPI_CloneOption`, and
`stored` says whether there was memory for the option. -/
def httpApiExSetOption (name value : Bytes) (cloned : HttpApiResult)
    (stored : Bool) (handle : HttpApiEx Platform) :
    HttpApiExResult × HttpApiEx Platform :=
  match cloned with
  | .invalidArg => (.invalidArg, handle)
  | .error => (.error, handle)
  | .ok =>
      if stored then
        let saved : HttpApiEx Platform :=
          { handle with
            savedOptions := addOrUpdate name value handle.savedOptions
            events := handle.events ++ [.wanted name value] }
        if saved.httpHandle = none then
          (.ok, saved)
        else
          let answered :=
            api.setOption saved.httpHandle name value saved.platform
          (match answered.1 with
            | .ok => .ok
            | .invalidArg => .invalidArg
            | .error => .error,
            setSavedOption api saved (name, value))
      else
        (.error, handle)

/-- `HTTPAPIEX_Destroy`, as far as the HTTP layer sees it. -/
def httpApiExDestroy (handle : HttpApiEx Platform) : HttpApiEx Platform :=
  if handle.k = 2 then
    { handle with
      platform := api.deinit (api.closeConnection handle.httpHandle
        handle.platform)
      events := handle.events ++
        [.closeConnection handle.httpHandle, .deinit] }
  else
    handle

inductive ExCall (Request : Type) where
  | setOption (name value : Bytes) (cloned : HttpApiResult) (stored : Bool)
  | executeRequest (request : Request) (built : Bool)

def exStep (handle : HttpApiEx Platform) :
    ExCall Request → Option (HttpApiEx Platform)
  | .setOption name value cloned stored =>
      some (httpApiExSetOption api name value cloned stored handle).2
  | .executeRequest request built =>
      (httpApiExExecuteRequest api request built handle).map Prod.snd

def exRun (calls : List (ExCall Request)) (platform : Platform) :
    Option (HttpApiEx Platform) :=
  calls.foldlM (exStep api) (httpApiExCreate platform)

end Calls

inductive ApiPhase where
  | down
  | up
  | connected (connection : Nat) (options : PropertyMap)
deriving DecidableEq, Repr

/-- A legal use of the HTTP layer by a client that wants some options. -/
structure ApiUse where
  wanted : PropertyMap
  phase : ApiPhase
deriving DecidableEq, Repr

namespace ApiUse

def start : ApiUse := ⟨[], .down⟩

/-- What one call makes of the use; `none` is a call that is not allowed. -/
def next (use : ApiUse) (event : ApiEvent) : Option ApiUse :=
  match event, use.phase with
  | .wanted name value, _ =>
      some { use with wanted := addOrUpdate name value use.wanted }
  | .init done, .down => some { use with phase := if done then .up else .down }
  | .deinit, .up => some { use with phase := .down }
  | .createConnection none, .up => some use
  | .createConnection (some connection), .up =>
      some { use with phase := .connected connection [] }
  | .setOption (some used) name value, .connected connection options =>
      if used = connection then
        some { use with
          phase := .connected connection (addOrUpdate name value options) }
      else
        none
  | .executeRequest (some used) _, .connected connection options =>
      if used = connection ∧ options = use.wanted then some use else none
  | .closeConnection (some used), .connected connection _ =>
      if used = connection then some { use with phase := .up } else none
  | _, _ => none

def run (use : ApiUse) (events : List ApiEvent) : Option ApiUse :=
  events.foldlM next use

theorem run_append {events : List ApiEvent} {use middle : ApiUse}
    (legal : use.run events = some middle) (rest : List ApiEvent) :
    use.run (events ++ rest) = middle.run rest := by
  rw [run, List.foldlM_append]
  change (use.run events >>= fun reached => reached.run rest) = _
  rw [legal]
  rfl

theorem run_concat {events : List ApiEvent} {use middle after : ApiUse}
    {event : ApiEvent} (legal : use.run events = some middle)
    (step : middle.next event = some after) :
    use.run (events ++ [event]) = some after := by
  rw [run_append legal]
  simp [run, step]

end ApiUse

section Obeys

variable {Platform Request : Type} (api : HttpApi Platform Request)
variable (request : Request)

theorem addOrUpdate_fst (name value : Bytes) (map : PropertyMap) :
    (addOrUpdate name value map).map Prod.fst =
      if name ∈ map.map Prod.fst then map.map Prod.fst
      else map.map Prod.fst ++ [name] := by
  induction map with
  | nil => rfl
  | cons entry rest inductionHypothesis =>
      rw [addOrUpdate]
      by_cases here : entry.1 = name
      · simp [here]
      · rw [if_neg here, List.map_cons, inductionHypothesis]
        by_cases later : name ∈ rest.map Prod.fst
        · simp [later]
        · simp [later, Ne.symm here]

theorem distinct_addOrUpdate (name value : Bytes) {map : PropertyMap}
    (distinct : (map.map Prod.fst).Nodup) :
    ((addOrUpdate name value map).map Prod.fst).Nodup := by
  rw [addOrUpdate_fst]
  by_cases known : name ∈ map.map Prod.fst
  · rw [if_pos known]
    exact distinct
  · rw [if_neg known, List.nodup_append]
    refine ⟨distinct, List.nodup_singleton name, ?_⟩
    rintro other member _ same rfl
    exact known (List.mem_singleton.mp same ▸ member)

/-- The handle used the HTTP layer legally and left it in a phase. -/
structure Used (handle : HttpApiEx Platform) (phase : ApiPhase) : Prop where
  legal : ApiUse.start.run handle.events = some ⟨handle.savedOptions, phase⟩
  distinct : (handle.savedOptions.map Prod.fst).Nodup

/-- What is held on each rung. -/
def StandsOn : Nat → HttpApiEx Platform → Prop
  | 0, handle => Used handle .down ∧ handle.httpHandle = none
  | 1, handle => Used handle .up ∧ handle.httpHandle = none
  | _, handle => ∃ connection, handle.httpHandle = some connection ∧
      Used handle (.connected connection handle.savedOptions)

theorem used_foldl_setSavedOption {connection : Nat}
    (rest : List (Bytes × Bytes)) {options : PropertyMap}
    {handle : HttpApiEx Platform}
    (connected : handle.httpHandle = some connection)
    (used : Used handle (.connected connection options))
    (fresh : ((options ++ rest).map Prod.fst).Nodup) :
    (rest.foldl (setSavedOption api) handle).httpHandle = some connection ∧
      (rest.foldl (setSavedOption api) handle).savedOptions =
        handle.savedOptions ∧
      Used (rest.foldl (setSavedOption api) handle)
        (.connected connection (options ++ rest)) := by
  induction rest generalizing options handle with
  | nil =>
      rw [List.append_nil]
      exact ⟨connected, rfl, used⟩
  | cons option rest inductionHypothesis =>
      have joined : options ++ option :: rest = options ++ [option] ++ rest :=
        by simp
      have new : option.1 ∉ options.map Prod.fst := by
        rw [List.map_append, List.nodup_append] at fresh
        exact fun member => fresh.2.2 _ member _ (by simp) rfl
      have usedNext : Used (setSavedOption api handle option)
          (.connected connection (options ++ [option])) :=
        { legal := by
            apply ApiUse.run_concat used.legal
            simp [ApiUse.next, connected, addOrUpdate_of_fresh new]
            rfl
          distinct := used.distinct }
      rw [joined] at fresh ⊢
      exact inductionHypothesis (by rw [← connected]; rfl) usedNext fresh

theorem used_init {handle : HttpApiEx Platform}
    (used : Used handle .down) :
    Used (tryStep api request 0 handle).2
      (if (tryStep api request 0 handle).1 then .up else .down) where
  legal := ApiUse.run_concat used.legal rfl
  distinct := used.distinct

theorem standsOn_createConnection {handle : HttpApiEx Platform}
    (stands : StandsOn 1 handle) :
    StandsOn (if (tryStep api request 1 handle).1 then 2 else 1)
      (tryStep api request 1 handle).2 := by
  obtain ⟨used, -⟩ := stands
  rw [tryStep]
  cases made : (api.createConnection handle.platform).1 with
  | none =>
      simp only [if_true, Bool.false_eq_true, if_false]
      refine ⟨⟨?_, used.distinct⟩, rfl⟩
      exact ApiUse.run_concat used.legal rfl
  | some connection =>
      simp only [reduceCtorEq, if_false, if_true]
      have usedHere : Used { handle with
          httpHandle := some connection
          platform := (api.createConnection handle.platform).2
          events := handle.events ++ [.createConnection (some connection)] }
          (.connected connection []) :=
        ⟨ApiUse.run_concat used.legal rfl, used.distinct⟩
      obtain ⟨connected, saved, usedAll⟩ := used_foldl_setSavedOption api
        handle.savedOptions rfl usedHere used.distinct
      refine ⟨connection, connected, ?_⟩
      rw [saved]
      exact usedAll

theorem standsOn_executeRequest {handle : HttpApiEx Platform}
    (stands : StandsOn 2 handle) :
    StandsOn 2 (tryStep api request 2 handle).2 := by
  obtain ⟨connection, connected, used⟩ := stands
  refine ⟨connection, connected, ?_, used.distinct⟩
  apply ApiUse.run_concat used.legal
  simp [ApiUse.next, connected]
  rfl

theorem standsOn_holds :
    Holds 2 (tryStep api request) (undoStep api) StandsOn where
  climbs := by
    intro rung handle below stands done
    match rung with
    | 0 =>
        have used := used_init api request stands.1
        rw [done] at used
        exact ⟨used, stands.2⟩
    | 1 =>
        have created := standsOn_createConnection api request stands
        rw [done] at created
        exact created
  fails := by
    intro rung handle stands failed
    match rung with
    | 0 =>
        have used := used_init api request stands.1
        rw [failed] at used
        exact ⟨used, stands.2⟩
    | 1 =>
        have created := standsOn_createConnection api request stands
        rw [failed] at created
        exact created
    | 2 => exact standsOn_executeRequest api request stands
    | _ + 3 => exact stands
  reaches := by
    intro handle stands _
    exact standsOn_executeRequest api request stands
  releases := by
    intro rung handle stands
    match rung with
    | 0 =>
        refine ⟨⟨?_, stands.1.distinct⟩, stands.2⟩
        exact ApiUse.run_concat stands.1.legal rfl
    | 1 =>
        obtain ⟨connection, connected, used⟩ := stands
        refine ⟨⟨?_, used.distinct⟩, rfl⟩
        apply ApiUse.run_concat used.legal
        simp [ApiUse.next, connected]
        rfl
    | _ + 2 => exact stands

/-- Where a handle is between two calls. -/
inductive Rests (handle : HttpApiEx Platform) : Prop where
  | closed (k : handle.k = -1) (stands : StandsOn 0 handle)
  | connected (k : handle.k = 2) (stands : StandsOn 2 handle)

theorem HttpApiEx.position_le {handle : HttpApiEx Platform}
    (most : handle.k ≤ 2) : handle.position ≤ 2 + 1 := by
  rw [HttpApiEx.position]
  split <;> omega

/-- The loop has rounds enough. -/
theorem executeRequest_eq {handle : HttpApiEx Platform}
    (most : handle.k ≤ 2) :
    httpApiExExecuteRequest api request true handle =
      some (finishRequest (recover 2 (tryStep api request) (undoStep api)
        handle.position handle)) := by
  have inside := handle.position_le most
  rw [httpApiExExecuteRequest, if_pos rfl, if_neg (by omega),
    loop_eq_recover inside recoveryRounds (by rw [recoveryRounds]; omega)
      (fun _ _ => rfl)]
  rfl

def requestCount (handle : HttpApiEx Platform) : Nat :=
  handle.events.countP fun event =>
    match event with
    | .executeRequest _ _ => true
    | _ => false

theorem requestCount_foldl_setSavedOption (options : List (Bytes × Bytes))
    (handle : HttpApiEx Platform) :
    requestCount (options.foldl (setSavedOption api) handle) =
      requestCount handle := by
  induction options generalizing handle with
  | nil => rfl
  | cons option rest inductionHypothesis =>
      rw [List.foldl_cons, inductionHypothesis]
      simp [requestCount, setSavedOption]

theorem requestCount_countsTop :
    CountsTop 2 (tryStep api request) (undoStep api)
      requestCount where
  top_le := by
    intro handle
    simp [requestCount, tryStep]
  below := by
    intro rung handle inside
    match rung with
    | 0 => simp [requestCount, tryStep]
    | 1 =>
        rw [tryStep]
        split
        · simp [requestCount]
        · rw [requestCount_foldl_setSavedOption]
          simp [requestCount]
  releases := by
    intro rung handle
    match rung with
    | 0 => simp [requestCount, undoStep]
    | 1 => simp [requestCount, undoStep]
    | _ + 2 => rfl

theorem requestCount_finishRequest (ended : Bool × HttpApiEx Platform) :
    requestCount (finishRequest ended).2 = requestCount ended.2 := by
  unfold finishRequest
  split <;> rfl

/-- The loop with its marks is one straight climb from each step, from the
one the handle rests on down, and sends the request once on each at most. -/
theorem executeRequest_recovers {handle : HttpApiEx Platform}
    (most : handle.k ≤ 2) :
    ∃ result after,
      httpApiExExecuteRequest api request true handle =
        some (result, after) ∧
      (result, after) =
        finishRequest (recover 2 (tryStep api request) (undoStep api)
          handle.position handle) ∧
      requestCount after ≤ requestCount handle + handle.position := by
  have counts := (requestCount_countsTop api request).recover
    (handle.position_le most) handle
  refine ⟨_, _, executeRequest_eq api request most, rfl, ?_⟩
  exact (requestCount_finishRequest _).symm ▸ counts

/-- A request that was built ends connected, or with everything released. -/
theorem Rests.executeRequest {handle : HttpApiEx Platform}
    (rests : Rests handle) (built : Bool) :
    ∃ result after,
      httpApiExExecuteRequest api request built handle =
        some (result, after) ∧ Rests after := by
  cases built with
  | false => exact ⟨.error, handle, rfl, rests⟩
  | true =>
      have starts : handle.k ≤ 2 ∧ StandsOn (handle.position - 1) handle := by
        cases rests with
        | closed k stands =>
            have position : handle.position = 1 := by
              rw [HttpApiEx.position, if_pos k]
            exact ⟨by omega, by rw [position]; exact stands⟩
        | connected k stands =>
            have position : handle.position = 3 := by
              rw [HttpApiEx.position, if_neg (by omega), k]
              rfl
            exact ⟨by omega, by rw [position]; exact stands⟩
      obtain ⟨most, stands⟩ := starts
      have ends := (standsOn_holds api request).recover
        (handle.position_le most) stands
      rw [executeRequest_eq api request most]
      generalize recover 2 (tryStep api request) (undoStep api)
        handle.position handle = ended at ends ⊢
      obtain ⟨reached, after⟩ := ended
      refine ⟨_, _, rfl, ?_⟩
      cases reached with
      | false =>
          obtain ⟨used, disconnected⟩ := ends
          exact .closed rfl ⟨⟨used.legal, used.distinct⟩, disconnected⟩
      | true =>
          obtain ⟨connection, connected, used⟩ := ends
          exact .connected rfl
            ⟨connection, connected, used.legal, used.distinct⟩

/-- A new option is set at once on a connection that is there. -/
theorem Rests.setOption {handle : HttpApiEx Platform} (rests : Rests handle)
    (name value : Bytes) (cloned : HttpApiResult) (stored : Bool) :
    Rests (httpApiExSetOption api name value cloned stored handle).2 := by
  cases cloned with
  | invalidArg => exact rests
  | error => exact rests
  | ok =>
      cases stored with
      | false => exact rests
      | true =>
          cases rests with
          | closed k stands =>
              obtain ⟨used, disconnected⟩ := stands
              simp only [httpApiExSetOption, if_true, disconnected]
              refine .closed k ⟨⟨?_, ?_⟩, rfl⟩
              · exact ApiUse.run_concat used.legal rfl
              · exact distinct_addOrUpdate name value used.distinct
          | connected k stands =>
              obtain ⟨connection, connected, used⟩ := stands
              simp only [httpApiExSetOption, if_true, connected, reduceCtorEq,
                if_false]
              refine .connected k ⟨connection, rfl, ?_, ?_⟩
              · apply ApiUse.run_concat
                · exact ApiUse.run_concat used.legal rfl
                · simp [ApiUse.next]
                  rfl
              · exact distinct_addOrUpdate name value used.distinct

theorem rests_httpApiExCreate (platform : Platform) :
    Rests (httpApiExCreate platform) :=
  .closed rfl ⟨⟨rfl, List.nodup_nil⟩, rfl⟩

/-- Every run of calls ends, and the handle rests behind it. -/
theorem rests_foldlM_exStep (calls : List (ExCall Request))
    {handle : HttpApiEx Platform} (rests : Rests handle) :
    ∃ after, calls.foldlM (exStep api) handle = some after ∧ Rests after := by
  induction calls generalizing handle with
  | nil => exact ⟨handle, rfl, rests⟩
  | cons call rest inductionHypothesis =>
      have stepped : ∃ next, exStep api handle call = some next ∧
          Rests next := by
        cases call with
        | setOption name value cloned stored =>
            exact ⟨_, rfl, rests.setOption api name value cloned stored⟩
        | executeRequest request built =>
            obtain ⟨result, after, done, restsAfter⟩ :=
              rests.executeRequest api request built
            refine ⟨after, ?_, restsAfter⟩
            rw [exStep, done]
            rfl
      obtain ⟨next, step, restsNext⟩ := stepped
      obtain ⟨after, ran, restsAfter⟩ := inductionHypothesis restsNext
      refine ⟨after, ?_, restsAfter⟩
      rw [List.foldlM_cons, step]
      exact ran

/-- Whatever the network does, every call ends, the HTTP layer is used as it
wants to be, and the destruction leaves nothing open. -/
theorem exRun_legal (calls : List (ExCall Request)) (platform : Platform) :
    ∃ handle,
      exRun api calls platform = some handle ∧
      ApiUse.start.run (httpApiExDestroy api handle).events =
        some ⟨handle.savedOptions, .down⟩ := by
  obtain ⟨handle, ran, rests⟩ :=
    rests_foldlM_exStep api calls (rests_httpApiExCreate platform)
  refine ⟨handle, ran, ?_⟩
  cases rests with
  | closed k stands =>
      rw [httpApiExDestroy, if_neg (by omega)]
      exact stands.1.legal
  | connected k stands =>
      obtain ⟨connection, connected, used⟩ := stands
      have closes := ApiUse.run_append used.legal
        [.closeConnection (some connection), .deinit]
      rw [httpApiExDestroy, if_pos k, connected]
      refine closes.trans ?_
      simp [ApiUse.run, ApiUse.next]

end Obeys

/-- A network that answers from a list, and fails when it is used up. -/
def scriptedApi : HttpApi (List Bool) Unit where
  init answers := (answers.headD false, answers.tail)
  createConnection answers :=
    (if answers.headD false then some answers.length else none, answers.tail)
  setOption _ _ _ answers := (.ok, answers)
  executeRequest _ _ answers := (answers.headD false, answers.tail)
  closeConnection _ answers := answers
  deinit answers := answers

/-- A kept connection breaks, and so does the next one. -/
def brokenHandle : HttpApiEx (List Bool) where
  k := 2
  httpHandle := some 9
  savedOptions := []
  platform := [false, true, false, true, true, true]
  events := [.init true, .createConnection (some 9)]

theorem brokenHandle_recovers :
    ∃ result after,
      httpApiExExecuteRequest scriptedApi () true brokenHandle =
        some (result, after) ∧
      (result, after) =
        finishRequest (recover 2 (tryStep scriptedApi ())
          (undoStep scriptedApi) 3 brokenHandle) ∧
      requestCount after ≤ 3 :=
  executeRequest_recovers scriptedApi () (by decide : brokenHandle.k ≤ 2)

/-- The third try succeeds, on the third connection. -/
example :
    (httpApiExExecuteRequest scriptedApi () true brokenHandle).map
        (fun ended => (ended.1, ended.2.httpHandle, requestCount ended.2)) =
      some (.ok, some 2, 3) := by
  decide

end FunnelDispenser.Transport
