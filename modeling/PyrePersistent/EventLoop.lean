import PyrePersistent.Handler
import PyrePersistent.Safety

namespace PyrePersistent.EventLoop

open PyrePersistent.Containers PyrePersistent.Protocol PyrePersistent.Session
open PyrePersistent.Server PyrePersistent.Lifecycle PyrePersistent.Republish
open PyrePersistent.Subscription PyrePersistent.Interleaving PyrePersistent.Safety
open PyrePersistent.Transcript PyrePersistent.Handler PyM

/-- Where the task of `PyreServerHandler.run` is: not created; created by
`ensure_task_running` and not run yet; waiting for the first response or for a subscription
line, on its first connection or on the one to a daemon it spawned; suspended after a write of
`show_type_errors_to_client`; or finished, the task manager having logged its exception or
cancelled it. -/
inductive BridgeTask where
  | absent
  | created
  | awaitingFirst (spawned : Bool)
  | listening (spawned : Bool)
  | showing (spawned : Bool) (suspension : Suspension)
  | finished

inductive EditorTask where
  | serving (phase : Phase)
  | finished (status : Status)

variable (env : Env) (handler : PyreServerHandler)

/-- The `except OSError` clause of `PyreServerHandler.run` up to the read of the new daemon's
first response; a daemon that could not be started, or an `OSError` on the new connection, ends
the task. -/
def spawnTurn (w : World) : BridgeTask × World :=
  match (do
      if ← _startPyreServer env handler.binaryLocation handler.pyreArguments then
        logAndShowMessageToClient (initializedMessage handler.serverIdentifier) .info
        connectInTextMode
        writeSocket (subscribeRequest env)
        pure true
      else
        showMessageToClient (cannotStartMessage handler.serverIdentifier) .error
        pure false : PyM Bool) w with
  | .ok true w' => (.awaitingFirst true, w')
  | r => (.finished, r.world)

def startTurn (w : World) : BridgeTask × World :=
  match (do
      connectInTextMode
      logAndShowMessageToClient (establishedMessage handler.serverIdentifier) .info
      writeSocket (subscribeRequest env) : PyM Unit) w with
  | .ok () w' => (.awaitingFirst false, w')
  | r => spawnTurn env handler r.world

def afterOSError (spawned : Bool) (w : World) : BridgeTask × World :=
  if spawned then (.finished, w) else spawnTurn env handler w

def takeUpdate (spawned : Bool) (next : World → Option (BridgeTask × World))
    (update : Option (List Error)) (w : World) : Option (BridgeTask × World) :=
  match update with
  | none => next w
  | some typeErrors =>
    match (do updateTypeErrors typeErrors; showTypeErrorsToClient) w with
    | .ok (some s) w' => some (.showing spawned s, w')
    | .ok none w' => next w'
    | r => some (.finished, r.world)

/-- The loop of `subscribe_to_type_error` from a read to its next suspension, a read that
waits or a write of `show_type_errors_to_client`; `none` when it runs past `fuel` iterations
without one. -/
def listen (spawned : Bool) : Nat → World → Option (BridgeTask × World)
  | 0, _ => none
  | fuel + 1, w =>
    match readline w with
    | .ok line w₁ =>
      takeUpdate spawned (listen spawned fuel) (acceptedBody env (subscriptionName env) line) w₁
    | .raised _ w₁ => some (afterOSError env handler spawned w₁)
    | _ => some (.listening spawned, w)

def bridgeTurn (fuel : Nat) : BridgeTask → World → Option (BridgeTask × World)
  | .created, w => some (startTurn env handler w)
  | .awaitingFirst spawned, w =>
    match readline w with
    | .ok line w₁ => takeUpdate spawned (listen env handler spawned fuel) (firstBody env line) w₁
    | .raised _ w₁ => some (afterOSError env handler spawned w₁)
    | _ => some (.awaitingFirst spawned, w)
  | .listening spawned, w => listen env handler spawned fuel w
  | .showing spawned s, w =>
    match resume s w with
    | .ok (some s') w' => some (.showing spawned s', w')
    | .ok none w' => listen env handler spawned fuel w'
    | r => some (.finished, r.world)
  | .absent, w => some (.absent, w)
  | .finished, w => some (.finished, w)

def leave : Phase → World → World
  | .preInitialization, w => w
  | _, w => (ensureTaskStop w).world

/-- The task of `run_persistent` handles the next frame: one iteration of the loop of its phase,
which goes on in the phase the lifecycle table gives or ends the session; with no frame it
waits. -/
def editorTurn (ph : Phase) (w : World) : EditorTask × World :=
  match w.input with
  | [] => (.serving ph, w)
  | .message r :: _ =>
    match ph.next env r with
    | .inl ph' => (.serving ph', (ph.loop env 1 w).world)
    | .inr _ => (.finished (status (ph.loop env 1 w)), leave ph (ph.loop env 1 w).world)
  | .malformed _ :: _ => (.finished (status (ph.loop env 1 w)), leave ph (ph.loop env 1 w).world)

structure Loop where
  world : World
  editor : EditorTask
  bridge : BridgeTask

def Loop.start : Loop := ⟨World.start [], .serving .preInitialization, .absent⟩

/-- What can happen next: a task's turn, or a peer writing to or closing its channel. -/
inductive Action where
  | editor
  | bridge
  | send (frame : Frame)
  | line (line : String)
  | close
  | reset

def Action.isEditor : Action → Bool
  | .editor => true
  | _ => false

/-- The bridge task once the editor task moved from `ph` to `next`: `ensure_task_running` creates
it when the handshake succeeds, and `ensure_task_stop` cancels it when the session ends. -/
def bridgeAfter (ph : Phase) (next : EditorTask) (b : BridgeTask) : BridgeTask :=
  match ph, next with
  | .preInitialization, .serving .active => .created
  | _, .finished _ => .finished
  | _, _ => b

def Loop.step (fuel : Nat) (l : Loop) : Action → Option Loop
  | .editor =>
    match l.editor with
    | .serving ph =>
      match editorTurn env ph l.world with
      | (next, w) => some ⟨w, next, bridgeAfter ph next l.bridge⟩
    | .finished _ => some l
  | .bridge => (bridgeTurn env handler fuel l.bridge l.world).map fun r => ⟨r.2, l.editor, r.1⟩
  | .send frame => some { l with world := { l.world with input := l.world.input ++ [frame] } }
  | .line line =>
    some { l with world := { l.world with socketInput := l.world.socketInput ++ [line] } }
  | .close => some { l with world := { l.world with socketClosed := true } }
  | .reset => some { l with world := { l.world with socketReset := true } }

def Loop.run (fuel : Nat) : Loop → List Action → Option Loop
  | l, [] => some l
  | l, a :: rest => (l.step env handler fuel a).bind fun l' => Loop.run fuel l' rest

def BridgeTask.republishing : BridgeTask → Bool
  | .showing _ _ => true
  | _ => false

/-- The editor task takes no turn while the bridge is suspended inside
`show_type_errors_to_client`. -/
def disciplined (fuel : Nat) : Loop → List Action → Bool
  | _, [] => true
  | l, a :: rest => !(a.isEditor && l.bridge.republishing) &&
    match l.step env handler fuel a with
    | some l' => disciplined fuel l' rest
    | none => true

theorem consistent_congr {v w : World} (ho : v.output = w.output) (hs : v.state = w.state) :
    Consistent v ↔ Consistent w := by
  unfold Consistent
  rw [ho, hs]

@[simp] theorem shown_append_showMessage (output : List Message) (type : MessageType)
    (message : String) (p : Path) : shown (output ++ [.showMessage type message]) p = shown output p := by
  simp [shown_append, seen]

section Frame

/-- What `show_type_errors_to_client` does from a world it can do from any world with the same
store: it reads the store and appends to the editor's output, nothing else. -/
def Framed {α : Type} (m : PyM α) (w : World) : Prop :=
  ∀ r w', m w = .ok r w' → ∃ out, w' = { w with output := w.output ++ out } ∧
    ∀ v : World, v.state = w.state → m v = .ok r { v with output := v.output ++ out }

theorem advance_framed (it : SetIterator) (w : World) : Framed (advance it) w := by
  intro r w' h
  rw [advance_apply] at h
  rcases hn : it.next w.state.openedDocuments with e | _ | ⟨path, it'⟩ <;> simp only [hn] at h
  · cases h
  · obtain ⟨rfl, rfl⟩ := Result.ok.inj h
    refine ⟨[], by rw [List.append_nil], fun v hv => ?_⟩
    rw [advance_apply, show it.next v.state.openedDocuments = _ from hv ▸ hn, List.append_nil]
  · obtain ⟨rfl, rfl⟩ := Result.ok.inj h
    exact ⟨_, rfl, fun v hv => by rw [advance_apply, show it.next v.state.openedDocuments = _ from hv ▸ hn]⟩

theorem resume_framed (s : Suspension) (w : World) : Framed (resume s) w := by
  cases s with
  | republished it => exact advance_framed it w
  | cleared it p =>
    intro r w' h
    rw [resume_cleared] at h
    cases hd : w.state.diagnostics.get p with
    | none =>
      rw [hd] at h
      obtain ⟨out, hw', hv⟩ := advance_framed it w r w' h
      exact ⟨out, hw', fun v hs => by rw [resume_cleared, show v.state.diagnostics.get p = _ from hs ▸ hd]; exact hv v hs⟩
    | some ds =>
      rw [hd] at h
      obtain ⟨rfl, rfl⟩ := Result.ok.inj h
      exact ⟨_, rfl, fun v hs => by rw [resume_cleared, show v.state.diagnostics.get p = _ from hs ▸ hd]⟩

theorem drive_framed : ∀ (fuel : Nat) (next : Option Suspension) (w : World), Framed (drive fuel next) w
  | _, none, w => fun r w' h => by
    obtain ⟨-, rfl⟩ := Result.ok.inj ((drive_none _ w).symm.trans h)
    exact ⟨[], by rw [List.append_nil], fun v _ => by rw [drive_none, List.append_nil]⟩
  | 0, some _, _ => fun _ _ h => nomatch h
  | fuel + 1, some s, w => fun r w' h => by
    simp only [drive, bind_apply] at h ⊢
    obtain ⟨next, w₁, hr, hd⟩ := Result.bind_eq_ok h
    obtain ⟨out₁, rfl, hv₁⟩ := resume_framed s w next w₁ hr
    obtain ⟨out₂, rfl, hv₂⟩ := drive_framed fuel next _ r w' hd
    refine ⟨out₁ ++ out₂, by simp, fun v hs => ?_⟩
    rw [hv₁ v hs, Result.bind_ok, hv₂ { v with output := v.output ++ out₁ } hs]
    simp

end Frame

/-- The bridge's part of the invariant: the editor's view agrees with the store, or, while the
bridge is suspended inside `show_type_errors_to_client`, it agrees once the bridge has run on
alone. -/
def BridgeSafe : BridgeTask → World → Prop
  | .showing _ s, w => ∃ fuel w', drive fuel (some s) w = .ok () w' ∧ Consistent w'
  | _, w => Consistent w

def Loop.Safe (l : Loop) : Prop :=
  (l.editor = .serving .preInitialization →
      l.world.state = ServerState.initial ∧ l.bridge = .absent) ∧
    BridgeSafe l.bridge l.world

section Safety

variable {env handler} {w : World}

theorem bridgeSafe_iff {b : BridgeTask} (hb : b.republishing = false) : BridgeSafe b w ↔ Consistent w := by
  cases b <;> first | exact Iff.rfl | cases hb

theorem bridgeSafe_frame {b : BridgeTask} {v : World} (ho : v.output = w.output)
    (hs : v.state = w.state) (h : BridgeSafe b w) : BridgeSafe b v := by
  cases b with
  | showing _ s =>
    obtain ⟨fuel, w', hd, hc⟩ := h
    obtain ⟨out, rfl, hv⟩ := drive_framed fuel (some s) w () w' hd
    exact ⟨fuel, _, hv v hs, (@consistent_congr { v with output := v.output ++ out }
      { w with output := w.output ++ out } (by simp [ho]) hs).mpr hc⟩
  | _ => exact (consistent_congr ho hs).mpr h

theorem spawnTurn_consistent (h : Consistent w) : Consistent (spawnTurn env handler w).2 := by
  by_cases hs : env.startServer (serverProcess env handler.binaryLocation handler.pyreArguments)
  · intro p
    simpa [spawnTurn, _startPyreServer, hs, daemonStarted, connectInTextMode, writeSocket,
      logAndShowMessageToClient, showMessageToClient] using h p
  · intro p
    simpa [spawnTurn, _startPyreServer, hs, showMessageToClient, Result.world] using h p

theorem spawnTurn_safe (h : Consistent w) :
    BridgeSafe (spawnTurn env handler w).1 (spawnTurn env handler w).2 := by
  refine (bridgeSafe_iff ?_).mpr (spawnTurn_consistent h)
  unfold spawnTurn
  split <;> rfl

theorem startTurn_safe (h : Consistent w) :
    BridgeSafe (startTurn env handler w).1 (startTurn env handler w).2 := by
  unfold startTurn
  by_cases hl : w.daemonListening
  · have h₁ : Consistent { w with output := w.output ++
        [.showMessage .info (establishedMessage handler.serverIdentifier)] } :=
      fun p => by simpa using h p
    simp only [bind_apply, connectInTextMode_of_listening hl, Result.bind_ok,
      logAndShowMessageToClient, showMessageToClient, writeJsonRpc_apply]
    rcases writeSocket_cases (subscribeRequest env) { w with output := w.output ++
        [.showMessage .info (establishedMessage handler.serverIdentifier)] } with hw | hw <;> rw [hw]
    · exact h₁
    · exact spawnTurn_safe h₁
  · simp only [bind_apply, connectInTextMode_of_not_listening (Bool.eq_false_iff.mpr hl),
      Result.bind_raised]
    exact spawnTurn_safe h

theorem afterOSError_safe (spawned : Bool) (h : Consistent w) :
    BridgeSafe (afterOSError env handler spawned w).1 (afterOSError env handler spawned w).2 := by
  unfold afterOSError
  split
  · exact h
  · exact spawnTurn_safe h

theorem takeUpdate_some (spawned : Bool) (next : World → Option (BridgeTask × World))
    (typeErrors : List Error) (w : World) :
    (∃ s w₁ fuel, takeUpdate spawned next (some typeErrors) w = some (.showing spawned s, w₁) ∧
        drive fuel (some s) w₁ = .ok () (atomicStep w (.update typeErrors))) ∨
      takeUpdate spawned next (some typeErrors) w = next (atomicStep w (.update typeErrors)) := by
  obtain ⟨next', w₁, hs, hd⟩ := update_settles w typeErrors
  simp only [takeUpdate, hs]
  cases next' with
  | some s => exact .inl ⟨s, w₁, _, rfl, hd⟩
  | none =>
    obtain ⟨-, rfl⟩ := Result.ok.inj ((drive_none _ w₁).symm.trans hd)
    exact .inr rfl

theorem takeUpdate_safe {spawned : Bool} {next : World → Option (BridgeTask × World)}
    (hnext : ∀ {w : World} {r : BridgeTask × World}, Consistent w → next w = some r →
      BridgeSafe r.1 r.2)
    {update : Option (List Error)} {r : BridgeTask × World} (h : Consistent w)
    (ht : takeUpdate spawned next update w = some r) : BridgeSafe r.1 r.2 := by
  cases update with
  | none => exact hnext h ht
  | some typeErrors =>
    have hc := consistent_atomicStep h (.update typeErrors)
    rcases takeUpdate_some spawned next typeErrors w with ⟨s, w₁, fuel, hs, hd⟩ | hs <;> rw [hs] at ht
    · cases ht
      exact ⟨fuel, _, hd, hc⟩
    · exact hnext hc ht

theorem listen_safe (spawned : Bool) : ∀ (fuel : Nat) {w : World} {r : BridgeTask × World},
    Consistent w → listen env handler spawned fuel w = some r → BridgeSafe r.1 r.2
  | 0, _, _, _, ht => nomatch ht
  | fuel + 1, w, r, h, ht => by
    rcases readline_cases w with ⟨line, w₁, hr⟩ | hr | hr <;> simp only [listen, hr] at ht
    · exact takeUpdate_safe (listen_safe spawned fuel) (by rw [readline_ok hr]; exact h) ht
    · cases ht
      exact afterOSError_safe spawned h
    · cases ht
      exact h

theorem bridgeTurn_safe (fuel : Nat) {b : BridgeTask} {r : BridgeTask × World} (h : BridgeSafe b w)
    (ht : bridgeTurn env handler fuel b w = some r) : BridgeSafe r.1 r.2 := by
  cases b with
  | absent | finished => cases ht; exact h
  | created => cases ht; exact startTurn_safe h
  | awaitingFirst spawned =>
    rcases readline_cases w with ⟨line, w₁, hr⟩ | hr | hr <;> simp only [bridgeTurn, hr] at ht
    · exact takeUpdate_safe (listen_safe spawned fuel) (by rw [readline_ok hr]; exact h) ht
    · cases ht
      exact afterOSError_safe spawned h
    · cases ht
      exact h
  | listening spawned => exact listen_safe spawned fuel h ht
  | showing spawned s =>
    obtain ⟨_ | f, w', hd, hc⟩ := h
    · cases hd
    simp only [drive, bind_apply] at hd
    obtain ⟨next, w₁, hres, hd⟩ := Result.bind_eq_ok hd
    simp only [bridgeTurn, hres] at ht
    cases next with
    | some s' =>
      cases ht
      exact ⟨f, w', hd, hc⟩
    | none =>
      rw [drive_none] at hd
      obtain ⟨-, rfl⟩ := Result.ok.inj hd
      exact listen_safe spawned fuel hc ht

end Safety

section Editor

variable {env} {w : World}

theorem shown_fresh (h : Consistent w) (hs : w.state = ServerState.initial) (p : Path) :
    shown w.output p = [] := by
  simpa [hs, ServerState.initial] using h p

theorem loop_one_consistent (ph : Phase) (h : Consistent w)
    (hs : ph = .preInitialization → w.state = ServerState.initial) :
    Consistent (ph.loop env 1 w).world := by
  cases ph with
  | preInitialization => exact loop_consistent 1 w (hs rfl) (shown_fresh h (hs rfl))
  | active => exact run_consistent 1 w h
  | shutdown => exact waitForExit_consistent 1 w h

theorem preInitialization_state (hs : w.state = ServerState.initial) :
    (Phase.preInitialization.loop env 1 w).world.state = ServerState.initial := by
  rw [Phase.loop, whileTrue_succ, runPersistentBody, bind_apply]
  cases hw : w.input with
  | nil => rw [tryInitialize, tryBinding_nil hw]; exact hs
  | cons f fs =>
    cases f with
    | malformed e => rw [tryInitialize, tryBinding_malformed hw]; exact hs
    | message r =>
      obtain ⟨res, out, he, -⟩ := @tryInitialize_writes env w r fs hw
      rw [he]
      cases res with
      | exit => exact hs
      | success caps => rfl
      | failure err => exact hs

theorem next_preInitialization {ph : Phase} {r : Request}
    (h : ph.next env r = .inl .preInitialization) : ph = .preInitialization := by
  cases ph with
  | preInitialization => rfl
  | active | shutdown => simp only [Phase.next] at h; split_ifs at h <;> cases h

theorem editorTurn_safe (ph : Phase) (h : Consistent w)
    (hs : ph = .preInitialization → w.state = ServerState.initial) :
    Consistent (editorTurn env ph w).2 ∧
      ((editorTurn env ph w).1 = .serving .preInitialization →
        ph = .preInitialization ∧ (editorTurn env ph w).2.state = ServerState.initial) := by
  have hl : Consistent (ph.loop env 1 w).world := loop_one_consistent ph h hs
  have hleave : Consistent (leave ph (ph.loop env 1 w).world) := by cases ph <;> exact hl
  unfold editorTurn
  split
  · refine ⟨h, fun he => ?_⟩
    cases he
    exact ⟨rfl, hs rfl⟩
  · split
    · rename_i ph' hn
      refine ⟨hl, fun he => ?_⟩
      cases he
      obtain rfl := next_preInitialization hn
      exact ⟨rfl, preInitialization_state (hs rfl)⟩
    · exact ⟨hleave, fun he => EditorTask.noConfusion he⟩
  · exact ⟨hleave, fun he => EditorTask.noConfusion he⟩

theorem bridgeAfter_republishing (ph : Phase) (next : EditorTask) {b : BridgeTask}
    (hb : b.republishing = false) : (bridgeAfter ph next b).republishing = false := by
  unfold bridgeAfter
  split <;> first | rfl | exact hb

end Editor

section Run

variable {env handler}

theorem step_safe (fuel : Nat) {l l' : Loop} {a : Action} (h : l.Safe)
    (ha : (a.isEditor && l.bridge.republishing) = false)
    (hs : l.step env handler fuel a = some l') : l'.Safe := by
  obtain ⟨w, editor, b⟩ := l
  obtain ⟨hpre, hb⟩ := h
  cases a with
  | editor =>
    cases editor with
    | serving ph =>
      have hrep : b.republishing = false := by simpa [Action.isEditor] using ha
      obtain ⟨hc', hst⟩ := editorTurn_safe ph ((bridgeSafe_iff hrep).mp hb) fun he => (hpre (congrArg _ he)).1
      cases hE : editorTurn env ph w with
      | mk next w' =>
        rw [hE] at hc' hst
        simp only [Loop.step, hE, Option.some.injEq] at hs
        subst hs
        refine ⟨fun he => ?_, (bridgeSafe_iff (bridgeAfter_republishing ph next hrep)).mpr hc'⟩
        have he' : next = .serving .preInitialization := he
        obtain ⟨hph, hst'⟩ := hst he'
        subst hph he'
        exact ⟨hst', (hpre rfl).2⟩
    | finished st =>
      simp only [Loop.step, Option.some.injEq] at hs
      subst hs
      exact ⟨hpre, hb⟩
  | bridge =>
    simp only [Loop.step, Option.map_eq_some'] at hs
    obtain ⟨r, hr, rfl⟩ := hs
    refine ⟨fun he => ?_, bridgeTurn_safe fuel hb hr⟩
    obtain ⟨hst, rfl⟩ := hpre he
    cases hr
    exact ⟨hst, rfl⟩
  | send _ | line _ | close | reset =>
    simp only [Loop.step, Option.some.injEq] at hs
    subst hs
    exact ⟨hpre, @bridgeSafe_frame w b _ rfl rfl hb⟩

theorem run_safe (fuel : Nat) : ∀ (schedule : List Action) {l l' : Loop}, l.Safe →
    disciplined env handler fuel l schedule = true → l.run env handler fuel schedule = some l' →
      l'.Safe
  | [], _, _, h, _, hr => by
    cases hr
    exact h
  | a :: rest, l, l', h, hd, hr => by
    simp only [Loop.run, Option.bind_eq_some] at hr
    obtain ⟨l₁, h₁, hr⟩ := hr
    simp only [disciplined, h₁, Bool.and_eq_true, Bool.not_eq_true'] at hd
    exact run_safe fuel rest (step_safe fuel h hd.1 h₁) hd.2 hr

end Run

def acceptingEnv : Env := { rejectingEnv with initializeParameters := fun _ => .ok ⟨.null⟩ }

def handshake : List Action :=
  [.send (.message ⟨"initialize", some (.int 1), some .null⟩), .editor, .bridge, .line "[]",
    .bridge]

theorem listen_closed (spawned : Bool) (hempty : acceptedBody env (subscriptionName env) "" = none) :
    ∀ (fuel : Nat) (w : World), w.socketClosed = true →
      (∀ line ∈ w.socketInput, acceptedBody env (subscriptionName env) line = none) →
      listen env handler spawned fuel w = none
  | 0, _, _, _ => rfl
  | fuel + 1, w, hc, hrej => by
    cases hin : w.socketInput with
    | nil =>
      simp only [listen, readline_eof hin hc, takeUpdate, hempty]
      exact listen_closed spawned hempty fuel w hc hrej
    | cons line rest =>
      simp only [listen, readline_cons hin, takeUpdate, hrej line (by simp [hin])]
      exact listen_closed spawned hempty fuel _ hc fun l hl => hrej l (by simp [hin, hl])

/-- Once the daemon has closed the connection, a bridge that waits for a subscription line and
has only lines it rejects left never reaches another suspension: `readline` returns `""` at once
on every call and the loop skips it and reads again, so the event loop never gives the editor
another turn. Whatever comes after and whatever the bound on the loop's iterations, the run
stops at the bridge's turn. -/
theorem closed_connection_starves_editor (fuel : Nat) (schedule : List Action) {l : Loop}
    {spawned : Bool} (hb : l.bridge = .listening spawned) (hc : l.world.socketClosed = true)
    (hrej : ∀ line ∈ l.world.socketInput, acceptedBody env (subscriptionName env) line = none)
    (hempty : acceptedBody env (subscriptionName env) "" = none) :
    l.run env handler fuel (.bridge :: schedule) = none := by
  simp only [Loop.run, Loop.step, hb, bridgeTurn,
    listen_closed env handler spawned hempty fuel l.world hc hrej, Option.map_none', Option.none_bind]

def closedConnection : Loop :=
  ⟨{ World.start [.message ⟨"exit", none, none⟩] with daemonListening := true, socketClosed := true },
    .serving .active, .listening false⟩

theorem closed_connection_starves_editor_exit :
    closedConnection.bridge = .listening false ∧ closedConnection.world.socketClosed = true ∧
      (∀ line ∈ closedConnection.world.socketInput,
        acceptedBody rejectingEnv (subscriptionName rejectingEnv) line = none) ∧
      acceptedBody rejectingEnv (subscriptionName rejectingEnv) "" = none ∧
      closedConnection.run rejectingEnv projectHandler 100 [.bridge, .editor] = none :=
  ⟨rfl, rfl, fun _ h => absurd h (List.not_mem_nil _), rfl,
    closed_connection_starves_editor rejectingEnv projectHandler 100 [.editor] rfl rfl (fun _ h => absurd h (List.not_mem_nil _))
      rfl⟩

end PyrePersistent.EventLoop
