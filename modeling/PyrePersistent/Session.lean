import PyrePersistent.Protocol

namespace PyrePersistent.Session

open PyrePersistent.Containers PyrePersistent.Protocol

/-- `ServerState`, shared by reference between the editor loop and the analyzer bridge. -/
structure ServerState where
  openedDocuments : PySet Path
  diagnostics : PyDict Path (List Diagnostic)

def ServerState.initial : ServerState := ⟨PySet.empty, PyDict.empty⟩

/-- Everything the client's coroutines read and change: the frames the editor sent that were
not read yet, what was written to the editor, the shared state, whether the background task
manager has its task running, the analyzer socket (unread lines, whether the daemon closed
it, whether the connection was reset, what the client wrote to it) and whether a daemon listens
on that socket. -/
structure World where
  input : List Frame
  output : List Message
  state : ServerState
  pyreTaskRunning : Bool
  socketInput : List String
  socketClosed : Bool
  socketOutput : List String
  daemonListening : Bool
  socketReset : Bool

def World.start (input : List Frame) : World :=
  ⟨input, [], ServerState.initial, false, [], false, [], false, false⟩

/-- How a coroutine leaves a world: returning, raising, blocked on a read whose data has not
arrived, or stopped by the iteration bound of a `while True` loop. -/
inductive Result (α : Type) where
  | ok (value : α) (world : World)
  | raised (error : PyExc) (world : World)
  | pending (world : World)
  | outOfFuel (world : World)

namespace Result

variable {α β : Type}

def world : Result α → World
  | ok _ w | raised _ w | pending w | outOfFuel w => w

def bind (r : Result α) (f : α → World → Result β) : Result β :=
  match r with
  | ok a w => f a w
  | raised e w => raised e w
  | pending w => pending w
  | outOfFuel w => outOfFuel w

@[simp] theorem bind_ok (a : α) (w : World) (f : α → World → Result β) :
    (ok a w).bind f = f a w := rfl

@[simp] theorem bind_raised (e : PyExc) (w : World) (f : α → World → Result β) :
    (raised e w).bind f = raised e w := rfl

@[simp] theorem bind_pending (w : World) (f : α → World → Result β) :
    (pending w).bind f = pending w := rfl

@[simp] theorem bind_outOfFuel (w : World) (f : α → World → Result β) :
    (outOfFuel w).bind f = outOfFuel w := rfl

theorem bind_eq_ok {r : Result α} {f : α → World → Result β} {b : β} {w : World}
    (h : r.bind f = ok b w) : ∃ a w₁, r = ok a w₁ ∧ f a w₁ = ok b w := by
  cases r with
  | ok a w₁ => exact ⟨a, w₁, rfl, h⟩
  | _ => cases h

def catchJsonRpc (r : Result α) (handler : JSONRPCException → World → Result α) : Result α :=
  match r with
  | raised (.jsonRpc e) w => handler e w
  | r => r

@[simp] theorem catchJsonRpc_ok (a : α) (w : World) (h : JSONRPCException → World → Result α) :
    (ok a w).catchJsonRpc h = ok a w := rfl

@[simp] theorem catchJsonRpc_jsonRpc (e : JSONRPCException) (w : World)
    (h : JSONRPCException → World → Result α) :
    (raised (.jsonRpc e) w).catchJsonRpc h = h e w := rfl

@[simp] theorem catchJsonRpc_unboundLocal (n : String) (w : World)
    (h : JSONRPCException → World → Result α) :
    (raised (.unboundLocal n) w).catchJsonRpc h = raised (.unboundLocal n) w := rfl

@[simp] theorem catchJsonRpc_pending (w : World) (h : JSONRPCException → World → Result α) :
    (pending w).catchJsonRpc h = pending w := rfl

@[simp] theorem catchJsonRpc_outOfFuel (w : World) (h : JSONRPCException → World → Result α) :
    (outOfFuel w).catchJsonRpc h = outOfFuel w := rfl

def suppressInvalidServerResponse : Result Unit → Result Unit
  | raised (.invalidServerResponse _) w => ok () w
  | r => r

@[simp] theorem suppressInvalidServerResponse_ok (w : World) :
    (ok () w).suppressInvalidServerResponse = ok () w := rfl

@[simp] theorem suppressInvalidServerResponse_pending (w : World) :
    (pending w).suppressInvalidServerResponse = pending w := rfl

@[simp] theorem suppressInvalidServerResponse_raised (e : InvalidServerResponse) (w : World) :
    (raised (.invalidServerResponse e) w).suppressInvalidServerResponse = ok () w := rfl

@[simp] theorem suppressInvalidServerResponse_osError (w : World) :
    (raised .osError w).suppressInvalidServerResponse = raised .osError w := rfl

end Result

/-- An `async def` of the client, run against a world. -/
def PyM (α : Type) : Type := World → Result α

instance : Monad PyM where
  pure a w := .ok a w
  bind m f w := (m w).bind f

namespace PyM

variable {α β : Type}

@[simp] theorem pure_apply (a : α) (w : World) : (pure a : PyM α) w = .ok a w := rfl

@[simp] theorem bind_apply (m : PyM α) (f : α → PyM β) (w : World) :
    (m >>= f) w = (m w).bind f := rfl

@[simp] theorem map_apply (f : α → β) (m : PyM α) (w : World) :
    (f <$> m) w = (m w).bind fun a => .ok (f a) := rfl

def raise (e : PyExc) : PyM α := fun w => .raised e w

@[simp] theorem raise_apply (e : PyExc) (w : World) : (raise e : PyM α) w = .raised e w := rfl

/-- A name bound by an assignment the exception interrupted: reading it raises
`UnboundLocalError`. -/
def local? (name : String) : Option α → PyM α
  | some a => pure a
  | none => raise (.unboundLocal name)

/-- `try: body except json_rpc.JSONRPCException as error: handler(error)`. -/
def catchJsonRpc (body : PyM α) (handler : JSONRPCException → PyM α) : PyM α := fun w =>
  (body w).catchJsonRpc handler

@[simp] theorem catchJsonRpc_apply (body : PyM α) (handler : JSONRPCException → PyM α)
    (w : World) : catchJsonRpc body handler w = (body w).catchJsonRpc handler := rfl

/-- `try: body finally: cleanup`; a coroutine still suspended has not left the `try`. -/
def tryFinally (body : PyM α) (cleanup : PyM Unit) : PyM α := fun w =>
  match body w with
  | .ok a w' => (cleanup w').bind fun _ => .ok a
  | .raised e w' => (cleanup w').bind fun _ => .raised e
  | r => r

@[simp] theorem local?_some (name : String) (a : α) : local? name (some a) = pure a := rfl

@[simp] theorem local?_none (name : String) : (local? name none : PyM α) = raise (.unboundLocal name) :=
  rfl

def getState : PyM ServerState := fun w => .ok w.state w

def setState (s : ServerState) : PyM Unit := fun w => .ok () { w with state := s }

@[simp] theorem getState_apply (w : World) : getState w = .ok w.state w := rfl

@[simp] theorem setState_apply (s : ServerState) (w : World) :
    setState s w = .ok () { w with state := s } := rfl

def readJsonRpc : PyM Request := fun w =>
  match w.input with
  | [] => .pending w
  | .message r :: rest => .ok r { w with input := rest }
  | .malformed e :: rest => .raised (.jsonRpc e) { w with input := rest }

def writeJsonRpc (message : Message) : PyM Unit := fun w =>
  .ok () { w with output := w.output ++ [message] }

@[simp] theorem writeJsonRpc_apply (message : Message) (w : World) :
    writeJsonRpc message w = .ok () { w with output := w.output ++ [message] } := rfl

theorem readJsonRpc_nil {w : World} (h : w.input = []) : readJsonRpc w = .pending w := by
  simp [readJsonRpc, h]

theorem readJsonRpc_message {w : World} {r : Request} {fs : List Frame}
    (h : w.input = .message r :: fs) : readJsonRpc w = .ok r { w with input := fs } := by
  simp [readJsonRpc, h]

theorem readJsonRpc_malformed {w : World} {e : JSONRPCException} {fs : List Frame}
    (h : w.input = .malformed e :: fs) :
    readJsonRpc w = .raised (.jsonRpc e) { w with input := fs } := by
  simp [readJsonRpc, h]

def publishDiagnostics (path : Path) (diagnostics : List Diagnostic) : PyM Unit :=
  writeJsonRpc (.publishDiagnostics path diagnostics)

@[simp] theorem publishDiagnostics_apply (path : Path) (diagnostics : List Diagnostic) (w : World) :
    publishDiagnostics path diagnostics w =
      .ok () { w with output := w.output ++ [.publishDiagnostics path diagnostics] } := rfl

/-- `server_input_channel.readline()`: the next line; `""` once the daemon has closed the
socket; `ConnectionResetError`, an `OSError`, once the connection was reset; and no answer while
the connection stays open without a line. A close the client saw first wins over a reset. -/
def readline : PyM String := fun w =>
  match w.socketInput with
  | line :: rest => .ok line { w with socketInput := rest }
  | [] => if w.socketClosed then .ok "" w else if w.socketReset then .raised .osError w else .pending w

theorem readline_cases (w : World) :
    (∃ line w', readline w = .ok line w') ∨ readline w = .raised .osError w ∨
      readline w = .pending w := by
  unfold readline
  split
  · exact .inl ⟨_, _, rfl⟩
  · split
    · exact .inl ⟨_, _, rfl⟩
    · split
      · exact .inr (.inl rfl)
      · exact .inr (.inr rfl)

theorem readline_ok {w w₁ : World} {line : String} (h : readline w = .ok line w₁) :
    w₁ = { w with socketInput := w₁.socketInput } := by
  unfold readline at h
  split at h
  · cases h
    rfl
  · split at h
    · cases h
      rfl
    · split at h <;> cases h

theorem readline_cons {w : World} {line : String} {rest : List String}
    (h : w.socketInput = line :: rest) : readline w = .ok line { w with socketInput := rest } := by
  simp [readline, h]

theorem readline_eof {w : World} (hin : w.socketInput = []) (hc : w.socketClosed = true) :
    readline w = .ok "" w := by
  simp [readline, hin, hc]

theorem readline_waits {w : World} (hin : w.socketInput = []) (hc : w.socketClosed = false)
    (hr : w.socketReset = false) : readline w = .pending w := by
  simp [readline, hin, hc, hr]

theorem readline_closed {w : World} (h : w.socketClosed = true) :
    ∃ line w', readline w = .ok line w' ∧ w'.socketClosed = true := by
  cases hin : w.socketInput with
  | nil => exact ⟨"", w, readline_eof hin h, h⟩
  | cons line rest => exact ⟨line, _, readline_cons hin, h⟩

/-- `server_output_channel.write(data)`, awaited: the drain raises the `ConnectionResetError` of
a reset connection; after a close the client saw first, the data goes nowhere. -/
def writeSocket (data : String) : PyM Unit := fun w =>
  if w.socketReset && !w.socketClosed then .raised .osError w
  else .ok () { w with socketOutput := w.socketOutput ++ [data] }

theorem writeSocket_of_closed (data : String) {w : World} (h : w.socketClosed = true) :
    writeSocket data w = .ok () { w with socketOutput := w.socketOutput ++ [data] } := by
  simp [writeSocket, h]

theorem writeSocket_of_not_reset (data : String) {w : World} (h : w.socketReset = false) :
    writeSocket data w = .ok () { w with socketOutput := w.socketOutput ++ [data] } := by
  simp [writeSocket, h]

theorem writeSocket_cases (data : String) (w : World) :
    writeSocket data w = .ok () { w with socketOutput := w.socketOutput ++ [data] } ∨
      writeSocket data w = .raised .osError w := by
  unfold writeSocket
  split
  · exact .inr rfl
  · exact .inl rfl

/-- `while True: body`, with at most `fuel` iterations; the body returns `some value` to
leave the function, and is told how many iterations remain after its own. -/
def whileTrue (body : Nat → PyM (Option α)) : Nat → PyM α
  | 0 => fun w => .outOfFuel w
  | fuel + 1 => do
    match ← body fuel with
    | some a => pure a
    | none => whileTrue body fuel

theorem whileTrue_succ (body : Nat → PyM (Option α)) (n : Nat) (w : World) :
    whileTrue body (n + 1) w = (body n w).bind fun o => match o with
      | some a => .ok a
      | none => whileTrue body n := rfl

end PyM

end PyrePersistent.Session
