import PyrePersistent.Republish

namespace PyrePersistent.Subscription

open PyrePersistent.Containers PyrePersistent.Protocol PyrePersistent.Session
open PyrePersistent.Diagnostics PyrePersistent.Republish PyM

variable (env : Env)

/-- `SubscriptionResponse`; `name` is whatever JSON value the response holds under `"name"`. -/
structure SubscriptionResponse where
  name : Json
  body : List Error

/-- `parse_subscription_response`. An `InvalidServerResponse` raised by
`incremental.parse_type_error_response_json` propagates unchanged. -/
def parseSubscriptionResponse (response : String) :
    Except InvalidServerResponse SubscriptionResponse :=
  match env.jsonLoads response with
  | .error decodeError => .error (.cannotParseJson decodeError)
  | .ok responseJson =>
    match responseJson with
    | .obj fields =>
      match Json.get fields "name", Json.get fields "body" with
      | some name, some body => do
        let body ← env.parseTypeErrorResponseJson body
        pure ⟨name, body⟩
      | _, _ => .error (.unexpectedJson responseJson)
    | _ => .error (.unexpectedJson responseJson)

def nameEquals (subscriptionName : String) : Json → Bool
  | .str name => subscriptionName == name
  | _ => false

def subscriptionName : String := "persistent_" ++ toString env.pid

def parsed {α : Type} : Except InvalidServerResponse α → PyM α
  | .ok a => pure a
  | .error e => raise (.invalidServerResponse e)

/-- `async with self._read_server_response(server_input_channel) as raw: body(raw)`: the
line is read inside the `try`, and an `InvalidServerResponse` raised by the body is thrown
back at the `yield`, logged and suppressed. -/
def _readServerResponse (body : String → PyM Unit) : PyM Unit := fun w =>
  ((readline >>= body) w).suppressInvalidServerResponse

def firstResponseBody (firstResponse : String) : PyM Unit := do
  let initialTypeErrors ← parsed (env.parseTypeErrorResponse firstResponse)
  updateTypeErrors initialTypeErrors
  awaitShowTypeErrorsToClient

def subscriptionBody (subscriptionName rawSubscriptionResponse : String) : PyM Unit := do
  let subscriptionResponse ← parsed (parseSubscriptionResponse env rawSubscriptionResponse)
  if nameEquals subscriptionName subscriptionResponse.name then
    updateTypeErrors subscriptionResponse.body
    awaitShowTypeErrorsToClient

def subscriptionLoop : Nat → PyM Unit :=
  whileTrue fun _ => do
    _readServerResponse (subscriptionBody env (subscriptionName env))
    pure none

def subscribeRequest : String := "[\"SubscribeToTypeErrors\", \"" ++ subscriptionName env ++ "\"]\n"

/-- `PyreServerHandler.subscribe_to_type_error`, given the socket `PyreServerHandler.run`
connected. -/
def subscribeToTypeError (fuel : Nat) : PyM Unit := do
  writeSocket (subscribeRequest env)
  _readServerResponse (firstResponseBody env)
  subscriptionLoop env fuel

/-- The type errors a subscription line carries when `parse_subscription_response` accepts it
and its name equals `name`. -/
def acceptedBody (name line : String) : Option (List Error) :=
  match parseSubscriptionResponse env line with
  | .ok response => if nameEquals name response.name then some response.body else none
  | .error _ => none

def firstBody (firstResponse : String) : Option (List Error) :=
  match env.parseTypeErrorResponse firstResponse with
  | .ok typeErrors => some typeErrors
  | .error _ => none

def received : Option (List Error) → World → World
  | some typeErrors, w => refreshed (typeErrorsToDiagnostics typeErrors) w
  | none, w => w

section Received

variable (update : Option (List Error)) (w : World)

theorem received_socket (input : List String) (closed reset : Bool) :
    received update { w with socketInput := input, socketClosed := closed, socketReset := reset } =
      { received update w with socketInput := input, socketClosed := closed, socketReset := reset } := by
  cases update <;> rfl

@[simp] theorem received_socketClosed : (received update w).socketClosed = w.socketClosed := by
  cases update <;> rfl

@[simp] theorem received_socketReset : (received update w).socketReset = w.socketReset := by
  cases update <;> rfl

theorem received_writes :
    ∃ out, (received update w).output = w.output ++ out ∧ OnlyDiagnostics out := by
  cases update with
  | some typeErrors => exact ⟨_, rfl, republishAll_onlyDiagnostics _ _⟩
  | none => exact ⟨[], by simp [received], onlyDiagnostics_nil⟩

end Received

theorem subscriptionBody_apply (name line : String) (w : World) :
    (subscriptionBody env name line w).suppressInvalidServerResponse =
      .ok () (received (acceptedBody env name line) w) := by
  unfold subscriptionBody acceptedBody
  cases parseSubscriptionResponse env line with
  | error e => rfl
  | ok response =>
    by_cases hname : nameEquals name response.name
    · simpa [parsed, hname, received] using congrArg Result.suppressInvalidServerResponse
        (update_then_show response.body w)
    · simp [parsed, hname, received]

theorem firstResponseBody_apply (line : String) (w : World) :
    (firstResponseBody env line w).suppressInvalidServerResponse =
      .ok () (received (firstBody env line) w) := by
  unfold firstResponseBody firstBody
  cases env.parseTypeErrorResponse line with
  | error e => rfl
  | ok typeErrors =>
    simpa [parsed, received] using congrArg Result.suppressInvalidServerResponse
      (update_then_show typeErrors w)

section Iteration

variable {env} {w w₁ : World} {line : String}

theorem subscriptionLoop_succ (h : readline w = .ok line w₁) (n : Nat) :
    subscriptionLoop env (n + 1) w =
      subscriptionLoop env n (received (acceptedBody env (subscriptionName env) line) w₁) := by
  simp [subscriptionLoop, whileTrue_succ, _readServerResponse, h, subscriptionBody_apply]

theorem readServerResponse_first (h : readline w = .ok line w₁) :
    _readServerResponse (firstResponseBody env) w = .ok () (received (firstBody env line) w₁) := by
  simp [_readServerResponse, h, firstResponseBody_apply]

theorem readServerResponse_pending {body : String → PyM Unit} (h : readline w = .pending w) :
    _readServerResponse body w = .pending w := by
  simp [_readServerResponse, h]

theorem readServerResponse_reset {body : String → PyM Unit} (h : readline w = .raised .osError w) :
    _readServerResponse body w = .raised .osError w := by
  simp [_readServerResponse, h]

theorem subscriptionLoop_pending (h : readline w = .pending w) (n : Nat) :
    subscriptionLoop env (n + 1) w = .pending w := by
  simp [subscriptionLoop, whileTrue_succ, readServerResponse_pending h]

theorem subscriptionLoop_reset (h : readline w = .raised .osError w) (n : Nat) :
    subscriptionLoop env (n + 1) w = .raised .osError w := by
  simp [subscriptionLoop, whileTrue_succ, readServerResponse_reset h]

end Iteration

theorem subscriptionLoop_raised (n : Nat) :
    ∀ {w w' : World} {e : PyExc}, subscriptionLoop env n w = .raised e w' → e = .osError := by
  induction n with
  | zero => exact fun h => Result.noConfusion h
  | succ n ih =>
    intro w w' e h
    rcases readline_cases w with ⟨line, w₁, hr⟩ | hr | hr
    · rw [subscriptionLoop_succ hr] at h
      exact ih h
    · rw [subscriptionLoop_reset hr] at h
      exact (Result.raised.inj h).1.symm
    · rw [subscriptionLoop_pending hr] at h
      exact Result.noConfusion h

theorem subscribeToTypeError_raised {fuel : Nat} {w w' : World} {e : PyExc}
    (h : subscribeToTypeError env fuel w = .raised e w') : e = .osError := by
  simp only [subscribeToTypeError, bind_apply] at h
  rcases writeSocket_cases (subscribeRequest env) w with hw | hw <;> rw [hw] at h
  · generalize { w with socketOutput := _ } = w₀ at h
    rw [Result.bind_ok, bind_apply] at h
    rcases readline_cases w₀ with ⟨line, w₁, hr⟩ | hr | hr
    · rw [readServerResponse_first hr, Result.bind_ok] at h
      exact subscriptionLoop_raised env fuel h
    · rw [readServerResponse_reset hr] at h
      exact (Result.raised.inj h).1.symm
    · rw [readServerResponse_pending hr] at h
      exact Result.noConfusion h
  · exact (Result.raised.inj h).1.symm

theorem readline_output {w w₁ : World} {line : String} (h : readline w = .ok line w₁) :
    w₁.output = w.output := by
  rw [readline_ok h]

theorem subscriptionLoop_writes (n : Nat) :
    ∀ w : World, ∃ out, (subscriptionLoop env n w).world.output = w.output ++ out ∧
      OnlyDiagnostics out := by
  induction n with
  | zero => exact fun w => ⟨[], by simp [subscriptionLoop, whileTrue, Result.world],
      onlyDiagnostics_nil⟩
  | succ n ih =>
    intro w
    rcases readline_cases w with ⟨line, w₁, h⟩ | h | h
    · obtain ⟨out, hout, hd⟩ := received_writes (acceptedBody env (subscriptionName env) line) w₁
      obtain ⟨out', hout', hd'⟩ := ih (received (acceptedBody env (subscriptionName env) line) w₁)
      refine ⟨out ++ out', ?_, onlyDiagnostics_append hd hd'⟩
      rw [subscriptionLoop_succ h, hout', hout, readline_output h, List.append_assoc]
    · rw [subscriptionLoop_reset h]
      exact ⟨[], by simp [Result.world], onlyDiagnostics_nil⟩
    · rw [subscriptionLoop_pending h]
      exact ⟨[], by simp [Result.world], onlyDiagnostics_nil⟩

theorem subscribeToTypeError_writes (fuel : Nat) (w : World) :
    ∃ out, (subscribeToTypeError env fuel w).world.output = w.output ++ out ∧
      OnlyDiagnostics out := by
  simp only [subscribeToTypeError, bind_apply]
  rcases writeSocket_cases (subscribeRequest env) w with hw | hw <;> rw [hw]
  · rw [Result.bind_ok, bind_apply]
    rcases readline_cases { w with socketOutput := _ } with ⟨line, w₁, h⟩ | h | h
    · rw [readServerResponse_first h, Result.bind_ok]
      obtain ⟨out, hout, hd⟩ := received_writes (firstBody env line) w₁
      obtain ⟨out', hout', hd'⟩ := subscriptionLoop_writes env fuel (received (firstBody env line) w₁)
      refine ⟨out ++ out', ?_, onlyDiagnostics_append hd hd'⟩
      rw [hout', hout, readline_output h, List.append_assoc]
    · rw [readServerResponse_reset h]
      exact ⟨[], by simp [Result.world], onlyDiagnostics_nil⟩
    · rw [readServerResponse_pending h]
      exact ⟨[], by simp [Result.world], onlyDiagnostics_nil⟩
  · exact ⟨[], by simp [Result.world], onlyDiagnostics_nil⟩

theorem subscriptionLoop_closed (n : Nat) :
    ∀ w : World, w.socketClosed = true → ∃ w', subscriptionLoop env n w = .outOfFuel w' := by
  induction n with
  | zero => exact fun w _ => ⟨w, rfl⟩
  | succ n ih =>
    intro w hw
    obtain ⟨line, w₁, hread, hclosed⟩ := readline_closed hw
    rw [subscriptionLoop_succ hread]
    exact ih _ (by simpa using hclosed)

theorem foldl_received_diagnostics (parse : String → Option (List Error)) (lines : List String) :
    ∀ w : World, (lines.foldl (fun w line => received (parse line) w) w).state.diagnostics =
      match (lines.filterMap parse).getLast? with
      | some typeErrors => typeErrorsToDiagnostics typeErrors
      | none => w.state.diagnostics := by
  induction lines with
  | nil => exact fun w => rfl
  | cons line lines ih =>
    intro w
    rw [List.foldl_cons, ih, List.filterMap_cons]
    cases hline : parse line with
    | none => simp [received]
    | some typeErrors =>
      rw [List.getLast?_cons]
      cases (lines.filterMap parse).getLast? <;> simp [received, refreshed]

theorem subscriptionLoop_open (lines : List String) (k : Nat) :
    ∀ w : World, subscriptionLoop env (lines.length + k + 1)
        { w with socketInput := lines, socketClosed := false, socketReset := false } =
      .pending { lines.foldl (fun w line => received (acceptedBody env (subscriptionName env) line) w) w
        with socketInput := [], socketClosed := false, socketReset := false } := by
  induction lines with
  | nil => exact fun w => by simp [subscriptionLoop, whileTrue_succ, _readServerResponse, readline]
  | cons line lines ih =>
    intro w
    have hread : readline
        { w with socketInput := line :: lines, socketClosed := false, socketReset := false } =
        .ok line { w with socketInput := lines, socketClosed := false, socketReset := false } :=
      readline_cons rfl
    rw [List.length_cons, Nat.add_right_comm lines.length 1 k, subscriptionLoop_succ hread,
      received_socket]
    exact ih _

theorem first_then_loop_closed (fuel : Nat) (w : World) (hw : w.socketClosed = true) :
    ∃ w', (_readServerResponse (firstResponseBody env) w).bind (fun _ => subscriptionLoop env fuel) =
      .outOfFuel w' := by
  obtain ⟨first, w₁, hread, hclosed⟩ := readline_closed hw
  rw [readServerResponse_first hread, Result.bind_ok]
  exact subscriptionLoop_closed env fuel _ (by simpa using hclosed)

theorem first_then_loop_open (first : String) (lines : List String) (k : Nat) (w : World)
    (hw : w.socketInput = first :: lines) (hopen : w.socketClosed = false)
    (hreset : w.socketReset = false) :
    (_readServerResponse (firstResponseBody env) w).bind
        (fun _ => subscriptionLoop env (lines.length + k + 1)) =
      .pending { lines.foldl (fun w line => received (acceptedBody env (subscriptionName env) line) w)
          (received (firstBody env first) w) with
        socketInput := [], socketClosed := false, socketReset := false } := by
  have hw₁ : ({ w with socketInput := lines } : World) =
      { w with socketInput := lines, socketClosed := false, socketReset := false } := by
    simp only [hopen, hreset]
  rw [readServerResponse_first (readline_cons hw), Result.bind_ok, hw₁, received_socket]
  exact subscriptionLoop_open env lines k _

/-- Once the daemon has closed the socket, `readline` returns `""` on every call and the loop
treats it as one more line to process and skip: whatever the daemon wrote before closing,
`subscribe_to_type_error` exhausts every bound on its iterations and never ends. -/
theorem subscription_outlives_closed_socket (lines : List String) (fuel : Nat) (w : World) :
    ∃ w', subscribeToTypeError env fuel
      { w with socketInput := lines, socketClosed := true } = .outOfFuel w' := by
  rw [subscribeToTypeError, bind_apply, writeSocket_of_closed _ rfl, Result.bind_ok, bind_apply]
  exact first_then_loop_closed env fuel _ rfl

/-- Modelled from the spec: the type errors of a line that `parse_subscription_response` accepts
with the name `persistent_<pid>`. -/
def namedBody (line : String) : Option (List Error) :=
  match parseSubscriptionResponse env line with
  | .ok response =>
    if response.name = .str ("persistent_" ++ toString env.pid) then some response.body else none
  | .error _ => none

/-- The code's test `subscription_name == subscription_response.name` is the spec's. -/
theorem acceptedBody_subscriptionName : acceptedBody env (subscriptionName env) = namedBody env := by
  funext line
  unfold acceptedBody namedBody
  cases parseSubscriptionResponse env line with
  | error _ => rfl
  | ok response =>
    obtain ⟨name, body⟩ := response
    cases name with
    | str name =>
      simp only [nameEquals, subscriptionName, beq_iff_eq, Json.str.injEq]
      exact if_congr eq_comm rfl rfl
    | _ => rfl

/-- Last writer wins: the diagnostics of the last line accepted with the subscription's name,
else of the first response, else the ones from before the subscription. -/
def lastAcceptedDiagnostics (before : PyDict Path (List Diagnostic)) (first : String)
    (lines : List String) : PyDict Path (List Diagnostic) :=
  match (lines.filterMap (namedBody env)).getLast? with
  | some typeErrors => typeErrorsToDiagnostics typeErrors
  | none =>
    match env.parseTypeErrorResponse first with
    | .ok typeErrors => typeErrorsToDiagnostics typeErrors
    | .error _ => before

/-- After the first response and any lines on an open connection, `subscribe_to_type_error` has
processed them all and waits for the next line, with the diagnostics of the last accepted line;
a rejected or foreign line neither changes them nor ends the loop. -/
theorem subscription_keeps_last_accepted (first : String) (lines : List String) (k : Nat)
    (w : World) :
    ∃ w', subscribeToTypeError env (lines.length + k + 1)
        { w with socketInput := first :: lines, socketClosed := false, socketReset := false } =
        .pending w' ∧
      w'.state.diagnostics = lastAcceptedDiagnostics env w.state.diagnostics first lines := by
  rw [subscribeToTypeError, bind_apply, writeSocket_of_not_reset _ rfl, Result.bind_ok, bind_apply]
  refine ⟨_, first_then_loop_open env first lines k _ rfl rfl rfl, ?_⟩
  rw [foldl_received_diagnostics, acceptedBody_subscriptionName, lastAcceptedDiagnostics]
  split
  · rfl
  · unfold firstBody
    split <;> rfl

end PyrePersistent.Subscription
