import PyrePersistent.Session

namespace PyrePersistent.Server

open PyrePersistent.Containers PyrePersistent.Protocol PyrePersistent.Session PyM

variable (env : Env)

def processInitializeRequest (_parameters : InitializeParameters) : InitializeResult where
  capabilities := ⟨⟨true, .none, ⟨false⟩⟩⟩
  serverInfo := ⟨"pyre", env.version⟩

inductive InitializationResult where
  | success (clientCapabilities : Json)
  | failure (exception : Option JSONRPCException)
  | exit

/-- `try: x = await first; body(x) except JSONRPCException as error: handler(x, error)`.
The handler is given `none` for `x` when `first` itself raised, leaving `x` unbound. -/
def tryBinding {α β : Type} (first : PyM α) (body : α → PyM β)
    (handler : Option α → JSONRPCException → PyM β) : PyM β := fun w =>
  match first w with
  | .ok a w' => catchJsonRpc (body a) (handler (some a)) w'
  | .raised (.jsonRpc e) w' => handler none e w'
  | .raised e w' => .raised e w'
  | .pending w' => .pending w'
  | .outOfFuel w' => .outOfFuel w'

def decoded {α : Type} : Except JSONRPCException α → PyM α
  | .ok a => pure a
  | .error e => raise (.jsonRpc e)

def tryInitializeBody (request : Request) : PyM InitializationResult :=
  match request.id with
  | none => pure (if request.method = "exit" then .exit else .failure none)
  | some requestId =>
    if request.method ≠ "initialize" then
      raise (.jsonRpc ⟨.serverNotInitialized, "An initialize request is needed."⟩)
    else match request.parameters with
      | none => raise (.jsonRpc ⟨.serverNotInitialized, "Missing parameters for initialize request."⟩)
      | some requestParameters => do
        let initializeParameters ← decoded (env.initializeParameters requestParameters)
        let result := processInitializeRequest env initializeParameters
        writeJsonRpc (.successResponse (some requestId) (some result))
        pure (.success initializeParameters.capabilities)

/-- The `except` clause of `try_initialize`, which reads `request.id`. -/
def initializeFailed (request : Option Request) (error : JSONRPCException) :
    PyM InitializationResult := do
  let request ← local? "request" request
  writeJsonRpc (.errorResponse request.id error.kind error.message
    (some (.obj [("retry", .bool false)])))
  pure (.failure (some error))

def tryInitialize : PyM InitializationResult :=
  tryBinding readJsonRpc (tryInitializeBody env) initializeFailed

/-- `async with _read_lsp_request(input_channel, output_channel) as request: body(request)`.
The body gives `some value` for a `return` and `none` when it falls through. A
`JSONRPCException` it raises is answered, keyed by the request's id, and suppressed; when the
read itself raised, the handler meets `message` unbound. -/
def _readLspRequest {α : Type} (body : Request → PyM (Option α)) : PyM (Option α) :=
  tryBinding readJsonRpc body fun message error => do
    let message ← local? "message" message
    writeJsonRpc (.errorResponse message.id error.kind error.message none)
    pure none

def waitForExitBody (request : Request) : PyM (Option Int) :=
  if request.method = "exit" then pure (some 0)
  else raise (.jsonRpc ⟨.invalidRequest, "LSP server has been shut down"⟩)

def waitForExit : Nat → PyM Int :=
  whileTrue fun _ => _readLspRequest waitForExitBody

def processOpenRequest (parameters : DidOpenTextDocumentParameters) : PyM Unit := do
  let some documentPath := toFilePath parameters.textDocument.uri
    | raise (.jsonRpc ⟨.invalidRequest,
        "Document URI is not a file: " ++ parameters.textDocument.uri⟩)
  let state ← getState
  setState { state with openedDocuments := state.openedDocuments.add documentPath }
  match (← getState).diagnostics.get documentPath with
  | some documentDiagnostics => publishDiagnostics documentPath documentDiagnostics
  | none => pure ()

def processCloseRequest (parameters : DidCloseTextDocumentParameters) : PyM Unit := do
  let some documentPath := toFilePath parameters.textDocument.uri
    | raise (.jsonRpc ⟨.invalidRequest,
        "Document URI is not a file: " ++ parameters.textDocument.uri⟩)
  let state ← getState
  match state.openedDocuments.remove documentPath with
  | none => pure ()
  | some openedDocuments => do
    setState { state with openedDocuments }
    if documentPath ∈ state.diagnostics then publishDiagnostics documentPath [] else pure ()

/-- The body of the loop of `Server._run`. On `shutdown` the success response is built by
calling `lsp.write_json_rpc` without `await`: the coroutine is dropped and nothing is
written. -/
def dispatch (fuel : Nat) (request : Request) : PyM (Option Int) :=
  if request.method = "exit" then pure (some env.failure)
  else if request.method = "shutdown" then do
    let _response := writeJsonRpc (.successResponse request.id none)
    some <$> waitForExit fuel
  else if request.method = "textDocument/didOpen" then
    match request.parameters with
    | none => raise (.jsonRpc ⟨.invalidRequest, "Missing parameters for didOpen method"⟩)
    | some parameters => do
      processOpenRequest (← decoded (env.didOpenParameters parameters))
      pure none
  else if request.method = "textDocument/didClose" then
    match request.parameters with
    | none => raise (.jsonRpc ⟨.invalidRequest, "Missing parameters for didClose method"⟩)
    | some parameters => do
      processCloseRequest (← decoded (env.didCloseParameters parameters))
      pure none
  else if request.id.isSome then
    raise (.jsonRpc ⟨.requestCancelled, "Request not supported yet"⟩)
  else pure none

def _run : Nat → PyM Int :=
  whileTrue fun fuel => _readLspRequest (dispatch env fuel)

/-- Modelled from the spec: `BackgroundTaskManager.ensure_task_running`, which starts the
supervised task unless it is live. -/
def ensureTaskRunning : PyM Unit := fun w => .ok () { w with pyreTaskRunning := true }

/-- Modelled from the spec: `BackgroundTaskManager.ensure_task_stop`, which cancels the task
and waits for it. -/
def ensureTaskStop : PyM Unit := fun w => .ok () { w with pyreTaskRunning := false }

def run (fuel : Nat) : PyM Int :=
  tryFinally (do ensureTaskRunning; _run env fuel) ensureTaskStop

def runPersistentBody (fuel : Nat) : PyM (Option Int) := do
  match ← tryInitialize env with
  | .exit => pure (some 0)
  | .success _ => do
    setState ServerState.initial
    some <$> run env fuel
  | .failure _ => pure none

/-- `run_persistent`. Every iteration of its loops starts by reading one frame, so the frames
already sent bound the iterations that can run before a read waits. -/
def runPersistent : PyM Int := fun w =>
  whileTrue (runPersistentBody env) (w.input.length + 1) w

def openDocument (p : Path) (w : World) : World :=
  let w' : World :=
    { w with state := { w.state with openedDocuments := w.state.openedDocuments.add p } }
  match w.state.diagnostics.get p with
  | some ds => { w' with output := w'.output ++ [.publishDiagnostics p ds] }
  | none => w'

def closeDocument (p : Path) (w : World) : World :=
  match w.state.openedDocuments.remove p with
  | none => w
  | some opened =>
    let w' : World := { w with state := { w.state with openedDocuments := opened } }
    if p ∈ w.state.diagnostics then { w' with output := w'.output ++ [.publishDiagnostics p []] }
    else w'

@[simp] theorem openDocument_input (p : Path) (w : World) : (openDocument p w).input = w.input := by
  unfold openDocument
  split <;> rfl

@[simp] theorem closeDocument_input (p : Path) (w : World) : (closeDocument p w).input = w.input := by
  unfold closeDocument
  split
  · rfl
  · split <;> rfl

@[simp] theorem openDocument_diagnostics (p : Path) (w : World) :
    (openDocument p w).state.diagnostics = w.state.diagnostics := by
  unfold openDocument
  split <;> rfl

@[simp] theorem closeDocument_diagnostics (p : Path) (w : World) :
    (closeDocument p w).state.diagnostics = w.state.diagnostics := by
  unfold closeDocument
  split
  · rfl
  · split <;> rfl

theorem openDocument_opened (p : Path) (w : World) :
    (openDocument p w).state.openedDocuments = w.state.openedDocuments.add p := by
  unfold openDocument
  split <;> rfl

def notAFile (uri : String) : PyExc := .jsonRpc ⟨.invalidRequest, "Document URI is not a file: " ++ uri⟩

theorem processOpenRequest_apply (parameters : DidOpenTextDocumentParameters) (w : World) :
    processOpenRequest parameters w = match toFilePath parameters.textDocument.uri with
      | none => .raised (notAFile parameters.textDocument.uri) w
      | some p => .ok () (openDocument p w) := by
  unfold processOpenRequest
  cases toFilePath parameters.textDocument.uri with
  | none => rfl
  | some p =>
    simp only [bind_apply, getState_apply, Result.bind_ok, setState_apply, openDocument]
    cases w.state.diagnostics.get p <;> rfl

theorem processCloseRequest_apply (parameters : DidCloseTextDocumentParameters) (w : World) :
    processCloseRequest parameters w = match toFilePath parameters.textDocument.uri with
      | none => .raised (notAFile parameters.textDocument.uri) w
      | some p => .ok () (closeDocument p w) := by
  unfold processCloseRequest
  cases toFilePath parameters.textDocument.uri with
  | none => rfl
  | some p =>
    simp only [bind_apply, getState_apply, Result.bind_ok, closeDocument]
    cases w.state.openedDocuments.remove p with
    | none => rfl
    | some opened =>
      simp only [bind_apply, setState_apply, Result.bind_ok]
      split <;> rfl

section Frames

variable {α β : Type} {w : World} {r : Request} {fs : List Frame} {e : JSONRPCException}

theorem tryBinding_message {body : Request → PyM β}
    {handler : Option Request → JSONRPCException → PyM β} (h : w.input = .message r :: fs) :
    tryBinding readJsonRpc body handler w =
      (body r { w with input := fs }).catchJsonRpc (handler (some r)) := by
  simp [tryBinding, readJsonRpc_message h]

theorem tryBinding_malformed {body : Request → PyM β}
    {handler : Option Request → JSONRPCException → PyM β} (h : w.input = .malformed e :: fs) :
    tryBinding readJsonRpc body handler w = handler none e { w with input := fs } := by
  simp [tryBinding, readJsonRpc_malformed h]

theorem tryBinding_nil {body : Request → PyM β}
    {handler : Option Request → JSONRPCException → PyM β} (h : w.input = []) :
    tryBinding readJsonRpc body handler w = .pending w := by
  simp [tryBinding, readJsonRpc_nil h]

def answered (r : Request) (error : JSONRPCException) (w : World) : World :=
  { w with output := w.output ++ [.errorResponse r.id error.kind error.message none] }

theorem readLspRequest_message {body : Request → PyM (Option α)}
    (h : w.input = .message r :: fs) :
    _readLspRequest body w = (body r { w with input := fs }).catchJsonRpc
      fun error w' => .ok none (answered r error w') := by
  rw [_readLspRequest, tryBinding_message h]
  rfl

theorem readLspRequest_malformed {body : Request → PyM (Option α)}
    (h : w.input = .malformed e :: fs) :
    _readLspRequest body w = .raised (.unboundLocal "message") { w with input := fs } := by
  simp [_readLspRequest, tryBinding_malformed h]

theorem readLspRequest_nil {body : Request → PyM (Option α)} (h : w.input = []) :
    _readLspRequest body w = .pending w := tryBinding_nil h

end Frames

end PyrePersistent.Server
