import PyrePersistent.Server

namespace PyrePersistent.Lifecycle

open PyrePersistent.Protocol PyrePersistent.Session PyrePersistent.Server PyM

/-- What a session shows once it has read every frame the editor sent. -/
inductive Status where
  | returned (code : Int)
  | raised (error : PyExc)
  | pending
  | outOfFuel

def status : Result Int → Status
  | .ok code _ => .returned code
  | .raised e _ => .raised e
  | .pending _ => .pending
  | .outOfFuel _ => .outOfFuel

/-- The phases of the lifecycle table of the spec. -/
inductive Phase where
  | preInitialization
  | active
  | shutdown

def isExitNotification (r : Request) : Bool := r.method = "exit" && r.id.isNone

def acceptsInitialize (env : Env) (r : Request) : Bool :=
  r.method = "initialize" && r.id.isSome &&
    (r.parameters.map fun p => (env.initializeParameters p).isOk).getD false

variable (env : Env)

/-- The lifecycle table: the next phase, or the code the session ends with. -/
def Phase.next : Phase → Request → Phase ⊕ Int
  | .preInitialization, r =>
    if isExitNotification r then .inr 0
    else if acceptsInitialize env r then .inl .active
    else .inl .preInitialization
  | .active, r =>
    if r.method = "exit" then .inr env.failure
    else if r.method = "shutdown" then .inl .shutdown
    else .inl .active
  | .shutdown, r => if r.method = "exit" then .inr 0 else .inl .shutdown

def Phase.run : Phase → List Request → Phase ⊕ Int
  | ph, [] => .inl ph
  | ph, r :: rs => match ph.next env r with
    | .inl ph' => ph'.run rs
    | .inr code => .inr code

def Phase.readCount : Phase → List Request → Nat
  | _, [] => 0
  | ph, r :: rs => match ph.next env r with
    | .inl ph' => ph'.readCount rs + 1
    | .inr _ => 1

def Phase.unboundName : Phase → String
  | .preInitialization => "request"
  | _ => "message"

/-- The table over frames as the code reads them: a frame that does not decode ends the
session with the `UnboundLocalError` of the handler that was to answer it. -/
def Phase.runFrames : Phase → List Frame → Status
  | _, [] => .pending
  | ph, .message r :: fs => match ph.next env r with
    | .inl ph' => ph'.runFrames fs
    | .inr code => .returned code
  | ph, .malformed _ :: _ => .raised (.unboundLocal ph.unboundName)

/-- The loop of the code that reads the frames of each phase. -/
def Phase.loop : Phase → Nat → PyM Int
  | .preInitialization => whileTrue (runPersistentBody env)
  | .active => _run env
  | .shutdown => waitForExit

def initializationNext : InitializationResult → Phase ⊕ Int
  | .exit => .inr 0
  | .success _ => .inl .active
  | .failure _ => .inl .preInitialization

variable {env} {w : World} {r : Request} {fs : List Frame} {e : JSONRPCException} {n : Nat}

theorem waitForExit_message (h : w.input = .message r :: fs) :
    waitForExit (n + 1) w = if r.method = "exit" then .ok 0 { w with input := fs }
      else waitForExit n
        (answered r ⟨.invalidRequest, "LSP server has been shut down"⟩ { w with input := fs }) := by
  rw [waitForExit, whileTrue_succ, readLspRequest_message h, waitForExitBody]
  split <;> rfl

theorem waitForExit_malformed (h : w.input = .malformed e :: fs) :
    waitForExit (n + 1) w = .raised (.unboundLocal "message") { w with input := fs } := by
  rw [waitForExit, whileTrue_succ, readLspRequest_malformed h]
  rfl

theorem waitForExit_nil (h : w.input = []) : waitForExit (n + 1) w = .pending w := by
  rw [waitForExit, whileTrue_succ, readLspRequest_nil h]
  rfl

theorem waitForExit_ne_jsonRpc (n : Nat) (w w' : World) (e : JSONRPCException) :
    waitForExit n w ≠ .raised (.jsonRpc e) w' := by
  induction n generalizing w with
  | zero => exact fun h => Result.noConfusion h
  | succ n ih =>
    cases hw : w.input with
    | nil => rw [waitForExit_nil hw]; exact fun h => Result.noConfusion h
    | cons f fs =>
      cases f with
      | message r =>
        rw [waitForExit_message hw]
        split
        · exact fun h => Result.noConfusion h
        · exact ih _
      | malformed e' =>
        rw [waitForExit_malformed hw]
        exact fun h => PyExc.noConfusion (Result.raised.inj h).1

theorem run_exit (h : w.input = .message r :: fs) (hr : r.method = "exit") :
    _run env (n + 1) w = .ok env.failure { w with input := fs } := by
  rw [_run, whileTrue_succ, readLspRequest_message h, dispatch, if_pos hr]
  rfl

theorem run_shutdown (h : w.input = .message r :: fs) (hr : r.method = "shutdown") :
    _run env (n + 1) w = waitForExit n { w with input := fs } := by
  rw [_run, whileTrue_succ, readLspRequest_message h, dispatch, if_neg (by rw [hr]; decide),
    if_pos hr]
  simp only [map_apply]
  cases hres : waitForExit n { w with input := fs } with
  | raised err w' =>
    cases err with
    | jsonRpc e => exact absurd hres (waitForExit_ne_jsonRpc _ _ _ _)
    | _ => rfl
  | _ => rfl

theorem dispatch_cases (hexit : r.method ≠ "exit") (hshut : r.method ≠ "shutdown") (w : World) :
    ∃ w', (dispatch env n r w).catchJsonRpc (fun error w'' => .ok none (answered r error w'')) =
      .ok none w' ∧
      ((w' = w ∧ r.id = none ∧ r.method ≠ "textDocument/didOpen" ∧
          r.method ≠ "textDocument/didClose") ∨
        (∃ e, w' = answered r e w) ∨
        (r.method = "textDocument/didOpen" ∧ ∃ p, w' = openDocument p w) ∨
        (r.method = "textDocument/didClose" ∧ ∃ p, w' = closeDocument p w)) := by
  unfold dispatch
  rw [if_neg hexit, if_neg hshut]
  split_ifs with hopen hclose hid
  · cases r.parameters with
    | none => exact ⟨_, rfl, .inr (.inl ⟨_, rfl⟩)⟩
    | some p =>
      dsimp only
      cases env.didOpenParameters p with
      | error e => exact ⟨_, rfl, .inr (.inl ⟨_, rfl⟩)⟩
      | ok params =>
        simp only [bind_apply, decoded, pure_apply, Result.bind_ok, processOpenRequest_apply]
        cases toFilePath params.textDocument.uri with
        | none => exact ⟨_, rfl, .inr (.inl ⟨_, rfl⟩)⟩
        | some p => exact ⟨_, rfl, .inr (.inr (.inl ⟨hopen, p, rfl⟩))⟩
  · cases r.parameters with
    | none => exact ⟨_, rfl, .inr (.inl ⟨_, rfl⟩)⟩
    | some p =>
      dsimp only
      cases env.didCloseParameters p with
      | error e => exact ⟨_, rfl, .inr (.inl ⟨_, rfl⟩)⟩
      | ok params =>
        simp only [bind_apply, decoded, pure_apply, Result.bind_ok, processCloseRequest_apply]
        cases toFilePath params.textDocument.uri with
        | none => exact ⟨_, rfl, .inr (.inl ⟨_, rfl⟩)⟩
        | some p => exact ⟨_, rfl, .inr (.inr (.inr ⟨hclose, p, rfl⟩))⟩
  · exact ⟨_, rfl, .inr (.inl ⟨_, rfl⟩)⟩
  · exact ⟨_, rfl, .inl ⟨rfl, Option.not_isSome_iff_eq_none.mp hid, hopen, hclose⟩⟩

theorem dispatch_handled (hexit : r.method ≠ "exit") (hshut : r.method ≠ "shutdown") (w : World) :
    ∃ w', (dispatch env n r w).catchJsonRpc (fun error w'' => .ok none (answered r error w'')) =
      .ok none w' ∧ w'.input = w.input := by
  obtain ⟨w', hd, hw'⟩ := dispatch_cases hexit hshut w
  refine ⟨w', hd, ?_⟩
  rcases hw' with ⟨rfl, -⟩ | ⟨e, rfl⟩ | ⟨-, p, rfl⟩ | ⟨-, p, rfl⟩ <;> simp [answered]

theorem run_handled (h : w.input = .message r :: fs) (hexit : r.method ≠ "exit")
    (hshut : r.method ≠ "shutdown") :
    ∃ w', w'.input = fs ∧ _run env (n + 1) w = _run env n w' := by
  obtain ⟨w', hd, hw'⟩ : ∃ w', (dispatch env n r { w with input := fs }).catchJsonRpc
      (fun error w'' => .ok none (answered r error w'')) = .ok none w' ∧ w'.input = fs :=
    dispatch_handled hexit hshut _
  refine ⟨w', hw', ?_⟩
  rw [_run, whileTrue_succ, readLspRequest_message h, hd]
  rfl

theorem run_malformed (h : w.input = .malformed e :: fs) :
    _run env (n + 1) w = .raised (.unboundLocal "message") { w with input := fs } := by
  rw [_run, whileTrue_succ, readLspRequest_malformed h]
  rfl

theorem run_nil (h : w.input = []) : _run env (n + 1) w = .pending w := by
  rw [_run, whileTrue_succ, readLspRequest_nil h]
  rfl

theorem tryInitialize_message (h : w.input = .message r :: fs) :
    ∃ res w', tryInitialize env w = .ok res w' ∧ w'.input = fs ∧
      initializationNext res = Phase.next env .preInitialization r := by
  rw [tryInitialize, tryBinding_message h]
  obtain ⟨method, id, parameters⟩ := r
  simp only [tryInitializeBody, Phase.next, isExitNotification, acceptsInitialize]
  cases id with
  | none =>
    by_cases hm : method = "exit" <;> exact ⟨_, _, rfl, rfl, by simp [hm, initializationNext]⟩
  | some i =>
    by_cases hm : method = "initialize"
    · simp only [hm, ne_eq, not_true_eq_false, if_false]
      cases parameters with
      | none => exact ⟨_, _, rfl, rfl, by simp [initializationNext]⟩
      | some p =>
        dsimp only
        cases hd : env.initializeParameters p <;>
          exact ⟨_, _, rfl, rfl, by simp [initializationNext, hd, Except.isOk, Except.toBool]⟩
    · simp only [hm, ne_eq, not_false_eq_true, if_true]
      exact ⟨_, _, rfl, rfl, by simp [initializationNext, hm]⟩

theorem run_status (n : Nat) (w : World) :
    status (run env n w) = status (_run env n { w with pyreTaskRunning := true }) := by
  have h : (do ensureTaskRunning; _run env n : PyM Int) w =
      _run env n { w with pyreTaskRunning := true } := rfl
  unfold run PyM.tryFinally
  rw [h]
  cases _run env n { w with pyreTaskRunning := true } <;> rfl

theorem run_stops_task (n : Nat) (w : World) :
    (∀ code w', run env n w = .ok code w' → w'.pyreTaskRunning = false) ∧
    (∀ e w', run env n w = .raised e w' → w'.pyreTaskRunning = false) := by
  have h : (do ensureTaskRunning; _run env n : PyM Int) w =
      _run env n { w with pyreTaskRunning := true } := rfl
  unfold run PyM.tryFinally
  rw [h]
  refine ⟨fun code w' hr => ?_, fun e w' hr => ?_⟩ <;>
    cases hres : _run env n { w with pyreTaskRunning := true } <;>
    simp only [hres, ensureTaskStop, Result.bind_ok, Result.ok.injEq, Result.raised.injEq] at hr <;>
    first | (obtain ⟨-, rfl⟩ := hr; rfl) | cases hr

theorem bind_some_match {α : Type} (r : Result α) (k : PyM α) :
    ((r.bind fun a => .ok (some a)).bind fun o => match o with
      | some a => .ok a
      | none => k) = r := by
  cases r <;> rfl

theorem loop_nil_eq (ph : Phase) (h : w.input = []) : ph.loop env (n + 1) w = .pending w := by
  cases ph
  · rw [Phase.loop, whileTrue_succ, runPersistentBody, bind_apply, tryInitialize, tryBinding_nil h]
    rfl
  · exact run_nil h
  · exact waitForExit_nil h

theorem loop_nil (ph : Phase) (h : w.input = []) : status (ph.loop env (n + 1) w) = .pending := by
  rw [loop_nil_eq ph h]
  rfl

theorem loop_malformed (ph : Phase) (h : w.input = .malformed e :: fs) :
    status (ph.loop env (n + 1) w) = .raised (.unboundLocal ph.unboundName) := by
  cases ph
  · rw [Phase.loop, whileTrue_succ, runPersistentBody, bind_apply, tryInitialize,
      tryBinding_malformed h]
    rfl
  · rw [Phase.loop, run_malformed h]; rfl
  · rw [Phase.loop, waitForExit_malformed h]; rfl

theorem loop_message (ph : Phase) (h : w.input = .message r :: fs) :
    match ph.next env r with
    | .inl ph' => ∃ w', w'.input = fs ∧ status (ph.loop env (n + 1) w) = status (ph'.loop env n w')
    | .inr code => status (ph.loop env (n + 1) w) = .returned code := by
  cases ph with
  | preInitialization =>
    obtain ⟨res, w', he, hw', hnext⟩ : ∃ res w', tryInitialize env w = .ok res w' ∧
        w'.input = fs ∧ initializationNext res = Phase.next env .preInitialization r :=
      tryInitialize_message h
    rw [← hnext, Phase.loop, whileTrue_succ, runPersistentBody, bind_apply, he]
    cases res with
    | exit => rfl
    | success caps =>
      refine ⟨{ w' with state := ServerState.initial, pyreTaskRunning := true }, hw', ?_⟩
      rw [Result.bind_ok]
      erw [bind_some_match]
      exact run_status n _
    | failure err => exact ⟨w', hw', rfl⟩
  | active =>
    by_cases hexit : r.method = "exit"
    · simp [Phase.next, hexit, Phase.loop, run_exit h hexit, status]
    by_cases hshut : r.method = "shutdown"
    · simpa [Phase.next, hexit, hshut, Phase.loop] using
        ⟨_, rfl, congrArg status (run_shutdown h hshut)⟩
    · obtain ⟨w', hw', he⟩ : ∃ w', w'.input = fs ∧ _run env (n + 1) w = _run env n w' :=
        run_handled h hexit hshut
      simpa [Phase.next, hexit, hshut, Phase.loop, he] using ⟨w', hw', rfl⟩
  | shutdown =>
    by_cases hexit : r.method = "exit"
    · simp [Phase.next, hexit, Phase.loop, waitForExit_message h, status]
    · simpa [Phase.next, hexit, Phase.loop, waitForExit_message h] using ⟨_, rfl, rfl⟩

theorem loop_status (ph : Phase) (fs : List Frame) (n : Nat) (w : World) (hn : fs.length < n)
    (hw : w.input = fs) : status (ph.loop env n w) = ph.runFrames env fs := by
  obtain ⟨m, rfl⟩ : ∃ m, n = m + 1 := ⟨n - 1, by omega⟩
  induction fs generalizing ph m w with
  | nil => exact loop_nil ph hw
  | cons f fs ih =>
    cases f with
    | malformed e => exact loop_malformed ph hw
    | message r =>
      have hstep := @loop_message env w r fs m ph hw
      rw [Phase.runFrames]
      split at hstep
      · obtain ⟨w', hw', hst⟩ := hstep
        obtain ⟨k, rfl⟩ : ∃ k, m = k + 1 := ⟨m - 1, by simp at hn; omega⟩
        rw [hst]
        exact ih _ w' hw' k (by simpa using hn)
      · exact hstep

theorem runFrames_map_message (ph : Phase) (rs : List Request) :
    ph.runFrames env (rs.map .message) = match ph.run env rs with
      | .inl _ => .pending
      | .inr code => .returned code := by
  induction rs generalizing ph with
  | nil => rfl
  | cons r rs ih =>
    simp only [List.map_cons, Phase.runFrames, Phase.run]
    cases ph.next env r with
    | inl ph' => exact ih ph'
    | inr code => rfl

theorem runFrames_malformed (ph : Phase) (rs : List Request) (fs : List Frame) :
    ph.runFrames env (rs.map .message ++ .malformed e :: fs) = match ph.run env rs with
      | .inl ph' => .raised (.unboundLocal ph'.unboundName)
      | .inr code => .returned code := by
  induction rs generalizing ph with
  | nil => rfl
  | cons r rs ih =>
    simp only [List.map_cons, List.cons_append, Phase.runFrames, Phase.run]
    cases ph.next env r with
    | inl ph' => exact ih ph'
    | inr code => rfl

/-- `run_persistent` refines the lifecycle table: over messages that all decode it returns
exactly the code the table ends with, waits for more input while the table has not ended, and
lets no exception escape. -/
theorem run_persistent_refines_lifecycle (rs : List Request) (w : World) :
    status (runPersistent env { w with input := rs.map .message }) =
      match Phase.run env .preInitialization rs with
      | .inl _ => .pending
      | .inr code => .returned code := by
  rw [← runFrames_map_message]
  exact loop_status .preInitialization _ _ _ (Nat.lt_succ_self _) rfl

/-- A frame that does not decode, read in any phase before the session ended, makes
`run_persistent` raise `UnboundLocalError`: both handlers read the id of a message whose read
failed. -/
theorem decode_failure_escapes (rs : List Request) (fs : List Frame) (w : World) :
    status (runPersistent env { w with input := rs.map .message ++ .malformed e :: fs }) =
      match Phase.run env .preInitialization rs with
      | .inl ph => .raised (.unboundLocal ph.unboundName)
      | .inr code => .returned code := by
  rw [← runFrames_malformed]
  exact loop_status .preInitialization _ _ _ (Nat.lt_succ_self _) rfl

/-- `_run` meets a `shutdown` request by entering `wait_for_exit` with nothing written: the
success response is never sent. -/
theorem shutdown_request_unanswered (id : Option RequestId) (parameters : Option Json)
    (n : Nat) (w : World) (fs : List Frame) :
    _run env (n + 1) { w with input := .message ⟨"shutdown", id, parameters⟩ :: fs } =
      waitForExit n { w with input := fs } :=
  run_shutdown rfl rfl

/-- After shutdown every notification but `exit` is answered with an error response that has
no id. -/
theorem notification_answered_after_shutdown (method : String) (hm : method ≠ "exit")
    (parameters : Option Json) (n : Nat) (w : World) (fs : List Frame) :
    waitForExit (n + 1) { w with input := .message ⟨method, none, parameters⟩ :: fs } =
      waitForExit n { w with
        input := fs
        output := w.output ++ [.errorResponse none .invalidRequest "LSP server has been shut down" none] } := by
  rw [waitForExit_message rfl, if_neg hm]
  rfl

theorem notification_answered_after_shutdown_initialized :
    "initialized" ≠ "exit" ∧
    waitForExit 1 (World.start [.message ⟨"initialized", none, none⟩]) =
      waitForExit 0 { World.start [] with
        output := [.errorResponse none .invalidRequest "LSP server has been shut down" none] } :=
  ⟨by decide, notification_answered_after_shutdown "initialized" (by decide) none 0 (World.start []) []⟩

end PyrePersistent.Lifecycle
