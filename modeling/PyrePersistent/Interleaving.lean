import PyrePersistent.Server
import PyrePersistent.Subscription

namespace PyrePersistent.Interleaving

open PyrePersistent.Containers PyrePersistent.Protocol PyrePersistent.Session
open PyrePersistent.Diagnostics PyrePersistent.Server PyrePersistent.Republish
open PyrePersistent.Subscription PyM

def seen (p : Path) (view : List Diagnostic) : Message → List Diagnostic
  | .publishDiagnostics q diagnostics => if q = p then diagnostics else view
  | _ => view

/-- `V(p)`: the diagnostics of the last `publishDiagnostics` written for `p`, `[]` if none. -/
def shown (output : List Message) (p : Path) : List Diagnostic := output.foldl (seen p) []

@[simp] theorem shown_nil (p : Path) : shown [] p = [] := rfl

theorem shown_append (output output' : List Message) (p : Path) :
    shown (output ++ output') p = output'.foldl (seen p) (shown output p) :=
  List.foldl_append _ _ _ _

@[simp] theorem shown_append_publish (output : List Message) (q p : Path)
    (diagnostics : List Diagnostic) :
    shown (output ++ [.publishDiagnostics q diagnostics]) p =
      if q = p then diagnostics else shown output p := by
  simp [shown_append, seen]

@[simp] theorem shown_append_errorResponse (output : List Message) (id : Option RequestId)
    (code : ErrorKind) (message : String) (data : Option Json) (p : Path) :
    shown (output ++ [.errorResponse id code message data]) p = shown output p := by
  simp [shown_append, seen]

theorem foldl_seen_republishAll (d : PyDict Path (List Diagnostic)) (p : Path) :
    ∀ (ps : List Path) (view : List Diagnostic), (republishAll d ps).foldl (seen p) view =
      if p ∈ ps then (d.get p).getD [] else view
  | [], view => rfl
  | q :: qs, view => by
    have ih := foldl_seen_republishAll d p qs
    by_cases hqp : q = p
    · subst hqp
      cases hd : d.get q <;> simp [republishAll, hd, ih, seen]
    · cases hd : d.get q <;> simp [republishAll, hd, ih, seen, hqp, Ne.symm hqp]

theorem shown_append_republishAll (d : PyDict Path (List Diagnostic)) (p : Path)
    (ps : List Path) (output : List Message) :
    shown (output ++ republishAll d ps) p =
      if p ∈ ps then (d.get p).getD [] else shown output p := by
  rw [shown_append, foldl_seen_republishAll]

/-- The editor's view agrees with the store: an open document shows its diagnostics, any
other path shows none. -/
def Consistent (w : World) : Prop :=
  ∀ p, shown w.output p =
    if p ∈ w.state.openedDocuments then (w.state.diagnostics.get p).getD [] else []

theorem consistent_start (input : List Frame) : Consistent (World.start input) := fun p => by
  simp [World.start, ServerState.initial]

section Preservation

variable {w : World}

theorem consistent_openDocument (h : Consistent w) (p : Path) : Consistent (openDocument p w) := by
  intro q
  have hq := h q
  unfold openDocument
  by_cases hqp : q = p
  · subst hqp
    cases hd : w.state.diagnostics.get q <;> simp_all
  · cases w.state.diagnostics.get p <;> simp_all [Ne.symm hqp]

theorem consistent_closeDocument (h : Consistent w) (p : Path) :
    Consistent (closeDocument p w) := by
  unfold closeDocument
  cases hr : w.state.openedDocuments.remove p with
  | none => exact h
  | some opened =>
    intro q
    have hq := h q
    have hmem := PySet.mem_of_remove hr q
    by_cases hqp : q = p
    · subst hqp
      by_cases hd : q ∈ w.state.diagnostics
      · simp [hd, hmem]
      · have hnone := (PyDict.get_eq_none _ _).mpr hd
        simp_all
    · by_cases hd : p ∈ w.state.diagnostics <;> simp_all [Ne.symm hqp]

theorem consistent_refreshed (h : Consistent w) (d : PyDict Path (List Diagnostic)) :
    Consistent (refreshed d w) := by
  intro q
  have hq := h q
  by_cases hopen : q ∈ w.state.openedDocuments <;>
    simp_all [refreshed, shown_append_republishAll, ← PySet.mem_def]

end Preservation

def handled (handler : PyM Unit) : PyM Unit := fun w =>
  (handler w).catchJsonRpc fun error w' =>
    .ok () { w' with output := w'.output ++ [.errorResponse none error.kind error.message none] }

def rejected (uri : String) (w : World) : World :=
  { w with output := w.output ++
    [.errorResponse none .invalidRequest ("Document URI is not a file: " ++ uri) none] }

theorem handled_processOpenRequest (parameters : DidOpenTextDocumentParameters) (w : World) :
    handled (processOpenRequest parameters) w = .ok ()
      (match toFilePath parameters.textDocument.uri with
        | none => rejected parameters.textDocument.uri w
        | some p => openDocument p w) := by
  rw [handled, processOpenRequest_apply]
  cases toFilePath parameters.textDocument.uri <;> rfl

theorem handled_processCloseRequest (parameters : DidCloseTextDocumentParameters) (w : World) :
    handled (processCloseRequest parameters) w = .ok ()
      (match toFilePath parameters.textDocument.uri with
        | none => rejected parameters.textDocument.uri w
        | some p => closeDocument p w) := by
  rw [handled, processCloseRequest_apply]
  cases toFilePath parameters.textDocument.uri <;> rfl

@[simp] theorem rejected_state (uri : String) (w : World) : (rejected uri w).state = w.state := rfl

theorem consistent_rejected {w : World} (h : Consistent w) (uri : String) :
    Consistent (rejected uri w) :=
  fun q => by simpa [rejected] using h q

/-- What either task can do next: the LSP loop handles a notification whose parameters
decoded, the bridge takes an accepted analyzer update, or the bridge resumes after a write. -/
inductive Event where
  | didOpen (parameters : DidOpenTextDocumentParameters)
  | didClose (parameters : DidCloseTextDocumentParameters)
  | update (typeErrors : List Error)
  | resume

/-- One event with its handler run to the end before the other task moves, the order in
which the spec argues that either task keeps the view consistent. -/
def atomicStep (w : World) : Event → World
  | .didOpen parameters => (handled (processOpenRequest parameters) w).world
  | .didClose parameters => (handled (processCloseRequest parameters) w).world
  | .update typeErrors => ((do updateTypeErrors typeErrors; awaitShowTypeErrorsToClient) w).world
  | .resume => w

theorem consistent_atomicStep {w : World} (h : Consistent w) :
    ∀ e, Consistent (atomicStep w e)
  | .didOpen parameters => by
    simp only [atomicStep, handled_processOpenRequest, Result.world]
    split
    · exact consistent_rejected h _
    · exact consistent_openDocument h _
  | .didClose parameters => by
    simp only [atomicStep, handled_processCloseRequest, Result.world]
    split
    · exact consistent_rejected h _
    · exact consistent_closeDocument h _
  | .update typeErrors => by
    simpa only [atomicStep, update_then_show] using consistent_refreshed h _
  | .resume => h

theorem atomicStep_input (w : World) (fs : List Frame) :
    ∀ e, atomicStep { w with input := fs } e = { atomicStep w e with input := fs }
  | .didOpen parameters => by
    simp only [atomicStep, handled_processOpenRequest, Result.world]
    cases toFilePath parameters.textDocument.uri with
    | none => rfl
    | some p =>
      simp only [openDocument]
      cases w.state.diagnostics.get p <;> rfl
  | .didClose parameters => by
    simp only [atomicStep, handled_processCloseRequest, Result.world]
    cases toFilePath parameters.textDocument.uri with
    | none => rfl
    | some p =>
      simp only [closeDocument]
      cases w.state.openedDocuments.remove p with
      | none => rfl
      | some opened => by_cases hd : p ∈ w.state.diagnostics <;> simp [hd]
  | .update typeErrors => by simp only [atomicStep, update_then_show]; rfl
  | .resume => rfl

theorem received_some (typeErrors : List Error) (w : World) :
    received (some typeErrors) w = atomicStep w (.update typeErrors) := by
  simp only [received, atomicStep, update_then_show]
  rfl

theorem foldl_received (parse : String → Option (List Error)) (lines : List String) :
    ∀ w : World, lines.foldl (fun w line => received (parse line) w) w =
      ((lines.filterMap parse).map Event.update).foldl atomicStep w := by
  induction lines with
  | nil => exact fun _ => rfl
  | cons line lines ih =>
    intro w
    rw [List.foldl_cons, ih, List.filterMap_cons]
    cases parse line with
    | none => rfl
    | some typeErrors => rw [List.map_cons, List.foldl_cons, received_some]

section Loop

variable {env : Env} {n : Nat} {w : World} {r : Request} {fs : List Frame} {parameters : Json}

theorem run_didOpen {p : DidOpenTextDocumentParameters} (h : w.input = .message r :: fs)
    (hm : r.method = "textDocument/didOpen") (hid : r.id = none)
    (hp : r.parameters = some parameters) (hd : env.didOpenParameters parameters = .ok p) :
    _run env (n + 1) w = _run env n (atomicStep { w with input := fs } (.didOpen p)) := by
  rw [_run, whileTrue_succ, readLspRequest_message h, dispatch, hm, if_neg (by decide),
    if_neg (by decide), if_pos rfl]
  simp only [hp, hd, decoded, answered, hid, atomicStep, handled_processOpenRequest,
    Result.world, bind_apply, pure_apply, Result.bind_ok, processOpenRequest_apply]
  cases toFilePath p.textDocument.uri <;> rfl

theorem run_didClose {p : DidCloseTextDocumentParameters} (h : w.input = .message r :: fs)
    (hm : r.method = "textDocument/didClose") (hid : r.id = none)
    (hp : r.parameters = some parameters) (hd : env.didCloseParameters parameters = .ok p) :
    _run env (n + 1) w = _run env n (atomicStep { w with input := fs } (.didClose p)) := by
  rw [_run, whileTrue_succ, readLspRequest_message h, dispatch, hm, if_neg (by decide),
    if_neg (by decide), if_neg (by decide), if_pos rfl]
  simp only [hp, hd, decoded, answered, hid, atomicStep, handled_processCloseRequest,
    Result.world, bind_apply, pure_apply, Result.bind_ok, processCloseRequest_apply]
  cases toFilePath p.textDocument.uri <;> rfl

end Loop

def Notifies (env : Env) (r : Request) : Event → Prop
  | .didOpen p => r.method = "textDocument/didOpen" ∧ r.id = none ∧
      ∃ parameters, r.parameters = some parameters ∧ env.didOpenParameters parameters = .ok p
  | .didClose p => r.method = "textDocument/didClose" ∧ r.id = none ∧
      ∃ parameters, r.parameters = some parameters ∧ env.didCloseParameters parameters = .ok p
  | .update _ | .resume => False

theorem run_notification {env : Env} {n : Nat} {w : World} {r : Request} {fs : List Frame}
    {e : Event} (he : Notifies env r e) (h : w.input = .message r :: fs) :
    _run env (n + 1) w = _run env n { atomicStep w e with input := fs } := by
  rw [← atomicStep_input]
  cases e with
  | didOpen p =>
    obtain ⟨hm, hid, parameters, hp, hd⟩ := he
    exact run_didOpen h hm hid hp hd
  | didClose p =>
    obtain ⟨hm, hid, parameters, hp, hd⟩ := he
    exact run_didClose h hm hid hp hd
  | update _ | resume => exact he.elim

/-- Over `didOpen` and `didClose` notifications that decode, `Server._run` refines the atomic
model: once it has read them it has taken their events, in order, and waits for the next
frame. -/
theorem run_refines_notifications {env : Env} {rs : List Request} {events : List Event}
    (h : List.Forall₂ (Notifies env) rs events) (k : Nat) (w : World) :
    _run env (rs.length + k + 1) { w with input := rs.map .message } =
      .pending { events.foldl atomicStep w with input := [] } := by
  induction h generalizing w with
  | nil =>
    rw [_run, whileTrue_succ, readLspRequest_nil rfl]
    rfl
  | @cons r e rs events he _ ih =>
    rw [List.length_cons, Nat.add_right_comm rs.length 1 k, run_notification he rfl, atomicStep_input]
    exact ih (atomicStep w e)

/-- An environment in which nothing the client is sent decodes, `json.loads` rejects every text as
Python's does the empty one, and a spawned daemon reports that it is initialized. -/
def rejectingEnv : Env where
  initializeParameters _ := .error ⟨.invalidParameter, "invalid parameters"⟩
  didOpenParameters _ := .error ⟨.invalidParameter, "invalid parameters"⟩
  didCloseParameters _ := .error ⟨.invalidParameter, "invalid parameters"⟩
  version := "0.0.0"
  failure := 1
  jsonLoads _ := .error ⟨"Expecting value: line 1 column 1 (char 0)"⟩
  parseTypeErrorResponse _ := .error (.malformedBody "Expecting value: line 1 column 1 (char 0)")
  parseTypeErrorResponseJson _ := .error (.malformedBody "Expecting value: line 1 column 1 (char 0)")
  pid := 1
  environ := PyDict.empty
  tempDir := "/tmp"
  serverArgumentFile := "/tmp/pyre_arguments.json"
  backgroundServerLogFile logPath := logPath ++ "/new_server/server.stderr"
  startServer _ := true

def openingEnv : Env := { rejectingEnv with didOpenParameters := fun _ => .ok ⟨⟨"file:///a.py"⟩⟩ }

theorem run_refines_notifications_didOpen :
    List.Forall₂ (Notifies openingEnv) [⟨"textDocument/didOpen", none, some .null⟩]
        [.didOpen ⟨⟨"file:///a.py"⟩⟩] ∧
      _run openingEnv (1 + 0 + 1)
          { World.start [] with input := [.message ⟨"textDocument/didOpen", none, some .null⟩] } =
        .pending { [.didOpen ⟨⟨"file:///a.py"⟩⟩].foldl atomicStep (World.start []) with input := [] } := by
  refine ⟨?h, run_refines_notifications ?h 0 _⟩
  exact .cons (by unfold Notifies; exact ⟨rfl, rfl, .null, rfl, rfl⟩) .nil

/-- Run without suspensions inside a handler, every sequence of opens, closes and analyzer
updates keeps the editor's view consistent with the store. -/
theorem consistent_atomic_run (events : List Event) :
    ∀ w, Consistent w → Consistent (events.foldl atomicStep w) := by
  induction events with
  | nil => exact fun _ h => h
  | cons e events ih => exact fun w h => ih _ (consistent_atomicStep h e)

theorem consistent_atomic_run_open_update_close :
    Consistent (World.start []) ∧
      Consistent ([.didOpen ⟨⟨"file:///a.py"⟩⟩, .update [⟨⟨"/a.py"⟩, 3, 4, 3, 12, "Unbound name [10]"⟩],
        .didClose ⟨⟨"file:///a.py"⟩⟩].foldl atomicStep (World.start [])) :=
  ⟨consistent_start [], consistent_atomic_run _ _ (consistent_start [])⟩

/-- Where the analyzer bridge is: waiting for an update, suspended after a write inside
`show_type_errors_to_client`, or finished because `subscribe_to_type_error` raised; the task
manager logs that failure and does not start the task again. -/
inductive Bridge where
  | idle
  | showing (suspension : Suspension)
  | stopped (error : PyExc)

/-- The two tasks `run_persistent` starts over one `ServerState`. -/
structure System where
  world : World
  bridge : Bridge

def settle : Result (Option Suspension) → System
  | .ok none w => ⟨w, .idle⟩
  | .ok (some s) w => ⟨w, .showing s⟩
  | .raised e w => ⟨w, .stopped e⟩
  | .pending w | .outOfFuel w => ⟨w, .idle⟩

/-- One step of either task, switching only at the bridge's writes: the LSP loop handles a
notification to its end, the bridge takes an update only while idle and resumes only while
suspended. -/
def System.step (sys : System) : Event → System
  | .didOpen parameters =>
    { sys with world := (handled (processOpenRequest parameters) sys.world).world }
  | .didClose parameters =>
    { sys with world := (handled (processCloseRequest parameters) sys.world).world }
  | .update typeErrors =>
    match sys.bridge with
    | .idle => settle ((do updateTypeErrors typeErrors; showTypeErrorsToClient) sys.world)
    | _ => sys
  | .resume =>
    match sys.bridge with
    | .showing s => settle (resume s sys.world)
    | _ => sys

def System.run (sys : System) (events : List Event) : System := events.foldl System.step sys

def System.initial : System := ⟨World.start [], .idle⟩

theorem run_replicate_resume_idle (w : World) (n : Nat) :
    System.run ⟨w, .idle⟩ (List.replicate n .resume) = ⟨w, .idle⟩ := by
  induction n with
  | zero => rfl
  | succ n ih => exact ih

theorem run_resumes_of_drive (fuel : Nat) :
    ∀ (next : Option Suspension) (w w' : World), drive fuel next w = .ok () w' →
      System.run (settle (.ok next w)) (List.replicate fuel .resume) = ⟨w', .idle⟩ := by
  induction fuel with
  | zero =>
    rintro (_ | s) w w' h
    · simp only [drive, pure_apply, Result.ok.injEq] at h
      rw [← h.2]
      rfl
    · cases h
  | succ fuel ih =>
    rintro (_ | s) w w' h
    · simp only [drive, pure_apply, Result.ok.injEq] at h
      rw [← h.2]
      exact run_replicate_resume_idle _ _
    · simp only [drive, bind_apply] at h
      obtain ⟨next, w₁, hr, h⟩ := Result.bind_eq_ok h
      simp only [System.run, List.replicate_succ, List.foldl_cons, settle, System.step, hr]
      exact ih next w₁ w' h

theorem update_settles (w : World) (typeErrors : List Error) :
    ∃ next w₁, (do updateTypeErrors typeErrors; showTypeErrorsToClient) w = .ok next w₁ ∧
      drive (2 * w.state.openedDocuments.size + 1) next w₁ =
        .ok () (atomicStep w (.update typeErrors)) := by
  have h := update_then_show typeErrors w
  simp only [atomicStep, h, Result.world]
  simp only [updateTypeErrors, awaitShowTypeErrorsToClient, bind_apply, getState_apply,
    setState_apply, Result.bind_ok] at h
  obtain ⟨next, w₁, hs, h⟩ := Result.bind_eq_ok h
  exact ⟨next, w₁, by simpa [updateTypeErrors] using hs, h⟩

/-- With no editor event inside `show_type_errors_to_client`, an update followed by enough
resumptions is the atomic update: the interleaved model refines the atomic one. -/
theorem run_update_resumes (w : World) (typeErrors : List Error) :
    System.run ⟨w, .idle⟩
        (.update typeErrors :: List.replicate (2 * w.state.openedDocuments.size + 1) .resume) =
      ⟨atomicStep w (.update typeErrors), .idle⟩ := by
  obtain ⟨next, w₁, hs, hd⟩ := update_settles w typeErrors
  simp only [System.run, List.foldl_cons, System.step, hs]
  exact run_resumes_of_drive _ next w₁ _ hd

theorem not_consistent_of_stale {w : World} {p : Path} (hclosed : p ∉ w.state.openedDocuments)
    (hshown : shown w.output p ≠ []) : ¬ Consistent w := fun h =>
  hshown (by simpa [hclosed] using h p)

def aWithError : World :=
  atomicStep (atomicStep (World.start []) (.didOpen ⟨⟨"file:///a.py"⟩⟩))
    (.update [⟨⟨"/a.py"⟩, 3, 4, 3, 12, "Incompatible return type [7]"⟩])

/-- Wherever the loop has just cleared an open document with diagnostics, closing that document
lets the bridge republish them and then stop: both tasks are idle, the document is closed and
the editor shows its diagnostics. -/
theorem close_while_clearing_leaves_stale_view (it : SetIterator) {w : World} {uri : String}
    {p : Path} {ds : List Diagnostic} (hs : w.state.openedDocuments.size = it.used)
    (hp : toFilePath uri = some p) (hopen : p ∈ w.state.openedDocuments)
    (hd : w.state.diagnostics.get p = some ds) :
    ∃ w', System.run ⟨w, .showing (.cleared it p)⟩ [.didClose ⟨⟨uri⟩⟩, .resume, .resume] =
        ⟨w', .stopped (.runtimeError "Set changed size during iteration")⟩ ∧
      p ∉ w'.state.openedDocuments ∧ shown w'.output p = ds := by
  obtain ⟨opened, hr⟩ := PySet.remove_of_mem hopen
  have hdiag : p ∈ w.state.diagnostics := (PyDict.get_isSome _ p).mp (by simp [hd])
  have hsize : ({ w.state with openedDocuments := opened } : ServerState).openedDocuments.size ≠
      it.used := by
    have := PySet.size_remove hr
    dsimp only
    omega
  refine ⟨{ closeDocument p w with
    output := (closeDocument p w).output ++ [.publishDiagnostics p ds] }, ?_, ?_, ?_⟩
  · simp [System.run, System.step, handled_processCloseRequest, hp, Result.world, closeDocument,
      hr, hdiag, resume, hd, settle, advance_of_size_ne hsize]
  · simp [closeDocument, hr, hdiag, PySet.mem_of_remove hr]
  · simp [closeDocument, hr, hdiag, shown_append, seen]

theorem close_while_clearing_leaves_stale_view_aWithError :
    aWithError.state.openedDocuments.size = 1 ∧ toFilePath "file:///a.py" = some ⟨"/a.py"⟩ ∧
      ⟨"/a.py"⟩ ∈ aWithError.state.openedDocuments ∧
      aWithError.state.diagnostics.get ⟨"/a.py"⟩ =
        some [typeErrorToDiagnostic ⟨⟨"/a.py"⟩, 3, 4, 3, 12, "Incompatible return type [7]"⟩] ∧
      ∃ w', System.run ⟨aWithError, .showing (.cleared ⟨1, 1⟩ ⟨"/a.py"⟩)⟩
          [.didClose ⟨⟨"file:///a.py"⟩⟩, .resume, .resume] =
          ⟨w', .stopped (.runtimeError "Set changed size during iteration")⟩ ∧
        ⟨"/a.py"⟩ ∉ w'.state.openedDocuments ∧
        shown w'.output ⟨"/a.py"⟩ =
          [typeErrorToDiagnostic ⟨⟨"/a.py"⟩, 3, 4, 3, 12, "Incompatible return type [7]"⟩] :=
  ⟨by decide, by decide, by decide, by decide,
    close_while_clearing_leaves_stale_view ⟨1, 1⟩ (by decide) (by decide) (by decide) (by decide)⟩

def closeDuringRepublish : List Event :=
  [.didOpen ⟨⟨"file:///a.py"⟩⟩, .update [⟨⟨"/a.py"⟩, 3, 4, 3, 12, "Incompatible return type [7]"⟩],
    .didClose ⟨⟨"file:///a.py"⟩⟩, .didOpen ⟨⟨"file:///b.py"⟩⟩, .resume, .resume]

/-- After `closeDuringRepublish` both tasks are idle again and the editor shows errors for a
closed document. -/
theorem republish_after_close_leaves_stale_view :
    (System.initial.run closeDuringRepublish).bridge = .idle ∧
      ⟨"/a.py"⟩ ∉ (System.initial.run closeDuringRepublish).world.state.openedDocuments ∧
      shown (System.initial.run closeDuringRepublish).world.output ⟨"/a.py"⟩ =
        [typeErrorToDiagnostic ⟨⟨"/a.py"⟩, 3, 4, 3, 12, "Incompatible return type [7]"⟩] ∧
      ¬ Consistent (System.initial.run closeDuringRepublish).world := by
  have hclosed :
      ⟨"/a.py"⟩ ∉ (System.initial.run closeDuringRepublish).world.state.openedDocuments := by
    decide
  have hshown : shown (System.initial.run closeDuringRepublish).world.output ⟨"/a.py"⟩ =
      [typeErrorToDiagnostic ⟨⟨"/a.py"⟩, 3, 4, 3, 12, "Incompatible return type [7]"⟩] := by
    decide
  exact ⟨rfl, hclosed, hshown, not_consistent_of_stale hclosed (by simp [hshown])⟩

theorem step_stopped {sys : System} {e : PyExc} (h : sys.bridge = .stopped e) (event : Event) :
    (sys.step event).bridge = .stopped e ∧
      (sys.step event).world.state.diagnostics = sys.world.state.diagnostics := by
  cases event with
  | didOpen parameters =>
    refine ⟨h, ?_⟩
    simp only [System.step, handled_processOpenRequest, Result.world]
    split <;> simp
  | didClose parameters =>
    refine ⟨h, ?_⟩
    simp only [System.step, handled_processCloseRequest, Result.world]
    split <;> simp
  | update typeErrors => simp [System.step, h]
  | resume => simp [System.step, h]

theorem run_stopped (events : List Event) :
    ∀ {sys : System} {e : PyExc}, sys.bridge = .stopped e →
      (sys.run events).bridge = .stopped e ∧
        (sys.run events).world.state.diagnostics = sys.world.state.diagnostics := by
  induction events with
  | nil => exact fun h => ⟨h, rfl⟩
  | cons event events ih =>
    intro sys e h
    obtain ⟨hb, hd⟩ := step_stopped h event
    obtain ⟨hb', hd'⟩ := ih hb
    exact ⟨hb', hd'.trans hd⟩

theorem resumes_after_resize (s : Suspension) (w : World)
    (h : w.state.openedDocuments.size ≠ s.iterator.used) :
    (System.run ⟨w, .showing s⟩ [.resume, .resume]).bridge =
      .stopped (.runtimeError "Set changed size during iteration") := by
  cases s with
  | republished it =>
    simp only [Suspension.iterator] at h
    simp [System.run, System.step, resume, advance_of_size_ne h rfl, settle]
  | cleared it p =>
    simp only [Suspension.iterator] at h
    cases hd : w.state.diagnostics.get p <;>
      simp [System.run, System.step, resume, hd, advance_of_size_ne h, settle]

theorem size_didOpen {w : World} {uri : String} {p : Path} (hp : toFilePath uri = some p)
    (hnew : p ∉ w.state.openedDocuments) :
    (atomicStep w (.didOpen ⟨⟨uri⟩⟩)).state.openedDocuments.size =
      w.state.openedDocuments.size + 1 := by
  simp only [atomicStep, handled_processOpenRequest, hp, Result.world, openDocument]
  cases w.state.diagnostics.get p <;> simp [PySet.size_add, hnew]

theorem size_didClose {w : World} {uri : String} {p : Path} (hp : toFilePath uri = some p)
    {opened : PySet Path} (hopen : w.state.openedDocuments.remove p = some opened) :
    (atomicStep w (.didClose ⟨⟨uri⟩⟩)).state.openedDocuments.size + 1 =
      w.state.openedDocuments.size := by
  simp only [atomicStep, handled_processCloseRequest, hp, Result.world, closeDocument, hopen]
  split <;> exact PySet.size_remove hopen

/-- Whatever the analyzer sent and wherever `show_type_errors_to_client` is suspended, opening a
document that is not open yet stops the bridge within two resumptions. -/
theorem open_while_showing_stops_bridge (s : Suspension) {w : World} {uri : String} {p : Path}
    (hs : w.state.openedDocuments.size = s.iterator.used) (hp : toFilePath uri = some p)
    (hnew : p ∉ w.state.openedDocuments) :
    (System.run ⟨w, .showing s⟩ [.didOpen ⟨⟨uri⟩⟩, .resume, .resume]).bridge =
      .stopped (.runtimeError "Set changed size during iteration") := by
  have hsize := size_didOpen hp hnew
  exact resumes_after_resize s (atomicStep w (.didOpen ⟨⟨uri⟩⟩)) (by omega)

theorem open_while_showing_stops_bridge_aWithError :
    aWithError.state.openedDocuments.size = (Suspension.cleared ⟨1, 1⟩ ⟨"/a.py"⟩).iterator.used ∧
      toFilePath "file:///b.py" = some ⟨"/b.py"⟩ ∧ ⟨"/b.py"⟩ ∉ aWithError.state.openedDocuments ∧
      (System.run ⟨aWithError, .showing (.cleared ⟨1, 1⟩ ⟨"/a.py"⟩)⟩
          [.didOpen ⟨⟨"file:///b.py"⟩⟩, .resume, .resume]).bridge =
        .stopped (.runtimeError "Set changed size during iteration") :=
  ⟨by decide, by decide, by decide,
    @open_while_showing_stops_bridge (.cleared ⟨1, 1⟩ ⟨"/a.py"⟩) aWithError "file:///b.py" ⟨"/b.py"⟩
      (by decide) (by decide) (by decide)⟩

theorem close_while_showing_stops_bridge (s : Suspension) {w : World} {uri : String} {p : Path}
    {opened : PySet Path} (hs : w.state.openedDocuments.size = s.iterator.used)
    (hp : toFilePath uri = some p) (hopen : w.state.openedDocuments.remove p = some opened) :
    (System.run ⟨w, .showing s⟩ [.didClose ⟨⟨uri⟩⟩, .resume, .resume]).bridge =
      .stopped (.runtimeError "Set changed size during iteration") := by
  have hsize := size_didClose hp hopen
  exact resumes_after_resize s (atomicStep w (.didClose ⟨⟨uri⟩⟩)) (by omega)

def aClosed : PySet Path := ⟨.dummy :: List.replicate 7 .empty, .firstFree, List.nodup_nil⟩

theorem close_while_showing_stops_bridge_aWithError :
    aWithError.state.openedDocuments.size = (Suspension.republished ⟨1, 1⟩).iterator.used ∧
      toFilePath "file:///a.py" = some ⟨"/a.py"⟩ ∧
      aWithError.state.openedDocuments.remove ⟨"/a.py"⟩ = some aClosed ∧
      (System.run ⟨aWithError, .showing (.republished ⟨1, 1⟩)⟩
          [.didClose ⟨⟨"file:///a.py"⟩⟩, .resume, .resume]).bridge =
        .stopped (.runtimeError "Set changed size during iteration") :=
  ⟨by decide, by decide, rfl,
    @close_while_showing_stops_bridge (.republished ⟨1, 1⟩) aWithError "file:///a.py" ⟨"/a.py"⟩
      aClosed (by decide) (by decide) rfl⟩

def openDuringRepublish : List Event :=
  [.didOpen ⟨⟨"file:///a.py"⟩⟩, .update [], .didOpen ⟨⟨"file:///b.py"⟩⟩, .resume]

/-- After `openDuringRepublish` the next step of the bridge's loop has raised and
`subscribe_to_type_error` has ended: whatever follows, the bridge never takes another
update. -/
theorem open_during_republish_stops_bridge (events : List Event) :
    (System.initial.run (openDuringRepublish ++ events)).bridge =
        .stopped (.runtimeError "Set changed size during iteration") ∧
      (System.initial.run (openDuringRepublish ++ events)).world.state.diagnostics =
        PyDict.empty := by
  have hstopped : (System.initial.run openDuringRepublish).bridge =
      .stopped (.runtimeError "Set changed size during iteration") := rfl
  simpa only [System.run, List.foldl_append] using run_stopped events hstopped

end PyrePersistent.Interleaving
