import PyrePersistent.Interleaving

namespace PyrePersistent.Handler

open PyrePersistent.Containers PyrePersistent.Protocol PyrePersistent.Session
open PyrePersistent.Republish PyrePersistent.Subscription PyrePersistent.Interleaving PyM

structure Arguments where
  logPath : String

/-- The fields of a `PyreServerHandler` its methods read; its output channel is the editor's and
its `ServerState` is the world's. -/
structure PyreServerHandler where
  binaryLocation : String
  serverIdentifier : String
  pyreArguments : Arguments

variable (env : Env)

def showMessageToClient (message : String) (level : MessageType) : PyM Unit :=
  writeJsonRpc (.showMessage level message)

def logAndShowMessageToClient (message : String) (level : MessageType) : PyM Unit :=
  showMessageToClient message level

def establishedMessage (serverIdentifier : String) : String :=
  "Established connection with existing pyre server at `" ++ serverIdentifier ++ "`."

def startingMessage (serverIdentifier : String) : String :=
  "Starting a new Pyre server at `" ++ serverIdentifier ++ "` in the background..."

def initializedMessage (serverIdentifier : String) : String :=
  "Pyre server at `" ++ serverIdentifier ++ "` has been initialized."

def cannotStartMessage (serverIdentifier : String) : String :=
  "Cannot start a new Pyre server at `" ++ serverIdentifier ++ "`."

/-- `connection.connect_in_text_mode(socket_path)`: the connection, or `OSError` when no daemon
listens on the socket. -/
def connectInTextMode : PyM Unit := fun w =>
  if w.daemonListening then .ok () w else .raised .osError w

theorem connectInTextMode_of_listening {w : World} (h : w.daemonListening = true) :
    connectInTextMode w = .ok () w := by
  simp [connectInTextMode, h]

theorem connectInTextMode_of_not_listening {w : World} (h : w.daemonListening = false) :
    connectInTextMode w = .raised .osError w := by
  simp [connectInTextMode, h]

/-- `{**os.environ, "TMPDIR": tempfile.gettempdir()}`. -/
def serverEnvironment : PyDict String String := env.environ.insert "TMPDIR" env.tempDir

/-- The subprocess `_start_pyre_server` spawns: `binary_location newserver <argument file>`, its
stdout piped to the client, its stderr in the background log file of `log_path`, in a session of
its own. -/
def serverProcess (binaryLocation : String) (pyreArguments : Arguments) : SpawnRequest where
  program := binaryLocation
  arguments := ["newserver", env.serverArgumentFile]
  environment := serverEnvironment env
  stdoutPiped := true
  stderrLog := env.backgroundServerLogFile pyreArguments.logPath
  startNewSession := true

def daemonStarted (w : World) : World :=
  { w with daemonListening := true, socketInput := [], socketClosed := false, socketReset := false }

def _startPyreServer (binaryLocation : String) (pyreArguments : Arguments) : PyM Bool := fun w =>
  if env.startServer (serverProcess env binaryLocation pyreArguments) then .ok true (daemonStarted w)
  else .ok false w

/-- The `except OSError` clause of `PyreServerHandler.run`. The first message is built by
calling `log_and_show_message_to_client` without `await`: the coroutine is dropped and
nothing is written. -/
def spawnAndSubscribe (handler : PyreServerHandler) (fuel : Nat) : PyM Unit := do
  let _message := logAndShowMessageToClient (startingMessage handler.serverIdentifier) .info
  if ← _startPyreServer env handler.binaryLocation handler.pyreArguments then
    logAndShowMessageToClient (initializedMessage handler.serverIdentifier) .info
    connectInTextMode
    subscribeToTypeError env fuel
  else
    showMessageToClient (cannotStartMessage handler.serverIdentifier) .error

/-- `PyreServerHandler.run`; an `OSError` raised inside its `try`, by the connection or by a read
or write on it, leads to the spawn. -/
def run (handler : PyreServerHandler) (fuel : Nat) : PyM Unit := fun w =>
  match (do
      connectInTextMode
      logAndShowMessageToClient (establishedMessage handler.serverIdentifier) .info
      subscribeToTypeError env fuel) w with
  | .raised .osError w' => spawnAndSubscribe env handler fuel w'
  | r => r

theorem serverEnvironment_get (key : String) :
    (serverEnvironment env).get key = if key = "TMPDIR" then some env.tempDir else env.environ.get key :=
  PyDict.get_insert _ _ _ _

def ConnectedTranscript (serverIdentifier : String) (out : List Message) : Prop :=
  ∃ rest, out = .showMessage .info (establishedMessage serverIdentifier) :: rest ∧ OnlyDiagnostics rest

def SpawnTranscript (serverIdentifier : String) (out : List Message) : Prop :=
  out = [.showMessage .error (cannotStartMessage serverIdentifier)] ∨
    ∃ rest, out = .showMessage .info (initializedMessage serverIdentifier) :: rest ∧ OnlyDiagnostics rest

section Run

variable {env} (handler : PyreServerHandler) (fuel : Nat) {w : World}

theorem spawnAndSubscribe_writes :
    ∃ out, (spawnAndSubscribe env handler fuel w).world.output = w.output ++ out ∧
      SpawnTranscript handler.serverIdentifier out := by
  by_cases hs : env.startServer (serverProcess env handler.binaryLocation handler.pyreArguments)
  · obtain ⟨out, hout, hd⟩ := subscribeToTypeError_writes env fuel { daemonStarted w with
      output := w.output ++ [.showMessage .info (initializedMessage handler.serverIdentifier)] }
    refine ⟨_, ?_, .inr ⟨out, rfl, hd⟩⟩
    simpa [spawnAndSubscribe, _startPyreServer, hs, connectInTextMode, daemonStarted,
      logAndShowMessageToClient, showMessageToClient] using hout
  · exact ⟨_, by simp [spawnAndSubscribe, _startPyreServer, hs, showMessageToClient, Result.world],
      .inl rfl⟩

theorem run_of_not_listening (h : w.daemonListening = false) :
    run env handler fuel w = spawnAndSubscribe env handler fuel w := by
  simp [run, connectInTextMode, h]

theorem run_of_listening (h : w.daemonListening = true) :
    run env handler fuel w = match subscribeToTypeError env fuel { w with
        output := w.output ++ [.showMessage .info (establishedMessage handler.serverIdentifier)] } with
      | .raised .osError w' => spawnAndSubscribe env handler fuel w'
      | r => r := by
  simp [run, connectInTextMode, h, logAndShowMessageToClient, showMessageToClient]

end Run

/-- `PyreServerHandler.run` writes to the editor, in order: with a daemon listening, that it
connected and then diagnostics; and, when no daemon listened or the connection raised an
`OSError` such as a reset, what the spawn path writes. The announcement of the spawn is never
written, and at most two `showMessage`s are. -/
theorem run_writes (handler : PyreServerHandler) (fuel : Nat) (w : World) :
    ∃ out, (run env handler fuel w).world.output = w.output ++ out ∧
      (w.daemonListening = false → SpawnTranscript handler.serverIdentifier out) ∧
      (w.daemonListening = true → ∃ pre post, out = pre ++ post ∧
        ConnectedTranscript handler.serverIdentifier pre ∧
        (post = [] ∨ SpawnTranscript handler.serverIdentifier post)) := by
  cases hl : w.daemonListening
  · rw [run_of_not_listening handler fuel hl]
    obtain ⟨out, hout, ht⟩ := @spawnAndSubscribe_writes env handler fuel w
    exact ⟨out, hout, fun _ => ht, fun h => Bool.noConfusion h⟩
  · rw [run_of_listening handler fuel hl]
    generalize hw₁ : { w with output := _ } = w₁
    obtain ⟨pre, hpre, hd⟩ := subscribeToTypeError_writes env fuel w₁
    have hpre' : (subscribeToTypeError env fuel w₁).world.output = w.output ++
        (.showMessage .info (establishedMessage handler.serverIdentifier) :: pre) := by
      rw [hpre, ← hw₁]
      simp
    cases hr : subscribeToTypeError env fuel w₁ with
    | raised e w' =>
      obtain rfl := subscribeToTypeError_raised env hr
      obtain ⟨post, hpost, ht⟩ := @spawnAndSubscribe_writes env handler fuel w'
      rw [hr] at hpre'
      refine ⟨_ ++ post, ?_, fun h => Bool.noConfusion h, fun _ => ⟨_, post, rfl, ⟨pre, rfl, hd⟩, .inr ht⟩⟩
      rw [hpost, show w'.output = _ from hpre', List.append_assoc]
    | _ =>
      rw [hr] at hpre'
      exact ⟨_, hpre', fun h => Bool.noConfusion h, fun _ => ⟨_, [], by simp, ⟨pre, rfl, hd⟩, .inl rfl⟩⟩

def projectHandler : PyreServerHandler := ⟨"pyre.bin", "/project", ⟨"/project/.pyre"⟩⟩

def resetConnection : World := { World.start [] with daemonListening := true, socketReset := true }

end PyrePersistent.Handler
