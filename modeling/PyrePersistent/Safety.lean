import PyrePersistent.Interleaving
import PyrePersistent.Transcript

namespace PyrePersistent.Safety

open PyrePersistent.Containers PyrePersistent.Protocol PyrePersistent.Session
open PyrePersistent.Server PyrePersistent.Lifecycle PyrePersistent.Republish
open PyrePersistent.Interleaving PyrePersistent.Transcript PyM

def editorEvent : Event → Bool
  | .didOpen _ | .didClose _ => true
  | .update _ | .resume => false

def republishing : Bridge → Bool
  | .showing _ => true
  | .idle | .stopped _ => false

/-- The editor waits for the bridge: no notification is handled while
`show_type_errors_to_client` is suspended. -/
def disciplined : System → List Event → Bool
  | _, [] => true
  | sys, e :: events => !(editorEvent e && republishing sys.bridge) && disciplined (sys.step e) events

/-- Between the steps of a run in which the editor waits for the bridge: an idle bridge leaves
the view consistent with the store, a suspended one reaches a consistent view when it runs on
alone, and the bridge has not stopped. -/
def Safe (sys : System) : Prop :=
  match sys.bridge with
  | .idle => Consistent sys.world
  | .showing s => ∃ fuel w, drive fuel (some s) sys.world = .ok () w ∧ Consistent w
  | .stopped _ => False

theorem safe_settle {fuel : Nat} {next : Option Suspension} {w w' : World}
    (h : drive fuel next w = .ok () w') (hc : Consistent w') : Safe (settle (.ok next w)) := by
  cases next with
  | none =>
    simp only [drive, pure_apply, Result.ok.injEq] at h
    obtain ⟨-, rfl⟩ := h
    exact hc
  | some s => exact ⟨fuel, w', h, hc⟩

theorem safe_step {sys : System} (h : Safe sys) {e : Event}
    (he : (editorEvent e && republishing sys.bridge) = false) : Safe (sys.step e) := by
  obtain ⟨w, bridge⟩ := sys
  cases bridge with
  | idle =>
    cases e with
    | didOpen parameters => exact consistent_atomicStep h (.didOpen parameters)
    | didClose parameters => exact consistent_atomicStep h (.didClose parameters)
    | update typeErrors =>
      obtain ⟨next, w₁, hs, hd⟩ := update_settles w typeErrors
      simp only [System.step, hs]
      exact safe_settle hd (consistent_atomicStep h _)
    | resume => exact h
  | showing s =>
    cases e with
    | didOpen _ | didClose _ => cases he
    | update _ => exact h
    | resume =>
      obtain ⟨fuel, w', hd, hc⟩ := h
      cases fuel with
      | zero => cases hd
      | succ fuel =>
        simp only [drive, bind_apply] at hd
        obtain ⟨next, w₁, hr, hd⟩ := Result.bind_eq_ok hd
        simp only [System.step, hr]
        exact safe_settle hd hc
  | stopped _ => exact h.elim

theorem safe_run : ∀ (events : List Event) {sys : System}, Safe sys →
    disciplined sys events = true → Safe (sys.run events)
  | [], _, h, _ => h
  | e :: events, sys, h, hd => by
    simp only [disciplined, Bool.and_eq_true, Bool.not_eq_true'] at hd
    exact safe_run events (safe_step h hd.1) hd.2

/-- When the editor's notifications are handled only while the bridge is not suspended inside
`show_type_errors_to_client`, every interleaving of notifications, analyzer updates and
resumptions is safe: the bridge never stops, and whenever it is idle the editor's view agrees
with the store. -/
theorem disciplined_run_safe (events : List Event) (h : disciplined System.initial events = true) :
    Safe (System.initial.run events) :=
  safe_run events (consistent_start []) h

def closeAfterRepublish : List Event :=
  [.didOpen ⟨⟨"file:///a.py"⟩⟩, .update [⟨⟨"/a.py"⟩, 3, 4, 3, 12, "Incompatible return type [7]"⟩],
    .resume, .resume, .resume, .didClose ⟨⟨"file:///a.py"⟩⟩, .didOpen ⟨⟨"file:///b.py"⟩⟩]

theorem disciplined_run_safe_closeAfterRepublish :
    disciplined System.initial closeAfterRepublish = true ∧
      Safe (System.initial.run closeAfterRepublish) :=
  ⟨by decide, disciplined_run_safe closeAfterRepublish (by decide)⟩

/-- When the editor waits for the bridge, every run can be completed: enough resumptions bring
the bridge back to idle with the editor's view consistent with the store. -/
theorem disciplined_run_settles (events : List Event)
    (h : disciplined System.initial events = true) :
    ∃ k w, System.initial.run (events ++ List.replicate k .resume) = ⟨w, .idle⟩ ∧
      Consistent w := by
  have hs : Safe (List.foldl System.step System.initial events) :=
    @safe_run events System.initial (consistent_start []) h
  simp only [System.run, List.foldl_append]
  generalize List.foldl System.step System.initial events = sys at hs
  obtain ⟨w, bridge⟩ := sys
  cases bridge with
  | idle => exact ⟨0, w, rfl, hs⟩
  | showing s =>
    obtain ⟨fuel, w', hd, hc⟩ := hs
    exact ⟨fuel, w', run_resumes_of_drive fuel (some s) w w' hd, hc⟩
  | stopped _ => exact hs.elim

theorem disciplined_run_settles_closeAfterRepublish :
    disciplined System.initial closeAfterRepublish = true ∧
      ∃ k w, System.initial.run (closeAfterRepublish ++ List.replicate k .resume) = ⟨w, .idle⟩ ∧
        Consistent w :=
  ⟨by decide, disciplined_run_settles closeAfterRepublish (by decide)⟩

section Frame

theorem advance_state (it : SetIterator) (w : World) : (advance it w).world.state = w.state := by
  simp only [advance, bind_apply, getState_apply, Result.bind_ok]
  rcases it.next w.state.openedDocuments with _ | _ | ⟨path, it'⟩ <;> rfl

theorem resume_state (s : Suspension) (w : World) : (resume s w).world.state = w.state := by
  cases s with
  | cleared it p =>
    simp only [resume, bind_apply, getState_apply, Result.bind_ok]
    cases w.state.diagnostics.get p with
    | some diagnostics => rfl
    | none => exact advance_state it w
  | republished it => exact advance_state it w

@[simp] theorem settle_world (r : Result (Option Suspension)) : (settle r).world = r.world := by
  rcases r with ⟨_ | _, _⟩ | _ | _ | _ <;> rfl

theorem mem_closeDocument (p q : Path) (w : World) :
    q ∈ (closeDocument p w).state.openedDocuments ↔
      q ∈ w.state.openedDocuments ∧ q ≠ p := by
  unfold closeDocument
  cases hr : w.state.openedDocuments.remove p with
  | none =>
    have hp : p ∉ w.state.openedDocuments := fun hp => by
      obtain ⟨t, ht⟩ := PySet.remove_of_mem hp
      rw [hr] at ht
      cases ht
    exact ⟨fun hq => ⟨hq, fun he => hp (he ▸ hq)⟩, And.left⟩
  | some opened =>
    dsimp only
    split <;> exact PySet.mem_of_remove hr q

end Frame

def openAfter (p : Path) (isOpen : Bool) : Event → Bool
  | .didOpen parameters => if toFilePath parameters.textDocument.uri = some p then true else isOpen
  | .didClose parameters => if toFilePath parameters.textDocument.uri = some p then false else isOpen
  | .update _ | .resume => isOpen

theorem opened_step (sys : System) (e : Event) (p : Path) :
    decide (p ∈ (sys.step e).world.state.openedDocuments) =
      openAfter p (decide (p ∈ sys.world.state.openedDocuments)) e := by
  obtain ⟨w, bridge⟩ := sys
  cases e with
  | didOpen parameters =>
    simp only [System.step, handled_processOpenRequest, Result.world, openAfter]
    cases toFilePath parameters.textDocument.uri with
    | none => rfl
    | some q =>
      rcases eq_or_ne q p with rfl | hq
      · simp [openDocument_opened]
      · simp [openDocument_opened, hq, hq.symm]
  | didClose parameters =>
    simp only [System.step, handled_processCloseRequest, Result.world, openAfter]
    cases toFilePath parameters.textDocument.uri with
    | none => rfl
    | some q =>
      simp only [mem_closeDocument]
      rcases eq_or_ne q p with rfl | hq
      · simp
      · simp [hq, hq.symm]
  | update typeErrors =>
    cases bridge <;> simp [System.step, openAfter, updateTypeErrors, showTypeErrorsToClient,
      advance_state]
  | resume => cases bridge <;> simp [System.step, openAfter, resume_state]

/-- Whatever the interleaving, the bridge never changes which documents are open: a path is
open exactly when the last `didOpen` or `didClose` naming it was a `didOpen`, or, with none, when
it was open before. -/
theorem opened_documents_follow_editor (events : List Event) (sys : System) (p : Path) :
    decide (p ∈ (sys.run events).world.state.openedDocuments) =
      events.foldl (openAfter p) (decide (p ∈ sys.world.state.openedDocuments)) := by
  induction events generalizing sys with
  | nil => rfl
  | cons e events ih => rw [List.foldl_cons, ← opened_step sys e p]; exact ih (sys.step e)

section EditorLoop

variable {env : Env} {w : World}

theorem seen_response {m : Message} (hm : m.responseId.isSome) (p : Path) (view : List Diagnostic) :
    seen p view m = view := by
  cases m <;> simp_all [Message.responseId, seen]

theorem consistent_answered (h : Consistent w) (r : Request) (e : JSONRPCException) :
    Consistent (answered r e w) :=
  fun p => by simpa [answered] using h p

theorem consistent_of_fresh (hs : w.state = ServerState.initial)
    (hv : ∀ p, shown w.output p = []) : Consistent w :=
  fun p => by simp [hs, hv p, ServerState.initial]

theorem waitForExit_consistent (n : Nat) :
    ∀ w : World, Consistent w → Consistent (waitForExit n w).world := by
  induction n with
  | zero => exact fun _ h => h
  | succ n ih =>
    intro w h
    cases hw : w.input with
    | nil => rw [waitForExit_nil hw]; exact h
    | cons f fs =>
      cases f with
      | malformed e => rw [waitForExit_malformed hw]; exact h
      | message r =>
        rw [waitForExit_message hw]
        split
        · exact h
        · exact ih _ (consistent_answered h _ _)

theorem run_consistent (n : Nat) :
    ∀ w : World, Consistent w → Consistent (_run env n w).world := by
  induction n with
  | zero => exact fun _ h => h
  | succ n ih =>
    intro w h
    cases hw : w.input with
    | nil => rw [run_nil hw]; exact h
    | cons f fs =>
      cases f with
      | malformed e => rw [run_malformed hw]; exact h
      | message r =>
        by_cases hexit : r.method = "exit"
        · rw [run_exit hw hexit]; exact h
        by_cases hshut : r.method = "shutdown"
        · rw [run_shutdown hw hshut]; exact waitForExit_consistent n _ h
        obtain ⟨w', hd, hcases⟩ := @dispatch_cases env r n hexit hshut { w with input := fs }
        rw [run_of_handled hw hd]
        apply ih
        replace h : Consistent { w with input := fs } := h
        rcases hcases with ⟨rfl, -⟩ | ⟨e, rfl⟩ | ⟨-, p, rfl⟩ | ⟨-, p, rfl⟩
        · exact h
        · exact consistent_answered h _ _
        · exact consistent_openDocument h p
        · exact consistent_closeDocument h p

theorem loop_consistent (n : Nat) :
    ∀ w : World, w.state = ServerState.initial → (∀ p, shown w.output p = []) →
      Consistent (whileTrue (runPersistentBody env) n w).world := by
  induction n with
  | zero => exact fun _ hs hv => consistent_of_fresh hs hv
  | succ n ih =>
    intro w hs hv
    rw [whileTrue_succ, runPersistentBody, bind_apply]
    cases hw : w.input with
    | nil =>
      rw [tryInitialize, tryBinding_nil hw]
      exact consistent_of_fresh hs hv
    | cons f fs =>
      cases f with
      | malformed e =>
        rw [tryInitialize, tryBinding_malformed hw]
        exact consistent_of_fresh hs hv
      | message r =>
        obtain ⟨res, out, he, hrep⟩ := @tryInitialize_writes env w r fs hw
        have hv' : ∀ p, shown (w.output ++ out) p = [] := fun p => by
          rcases hrep with ⟨rfl, -⟩ | ⟨m, rfl, hm⟩
          · simpa using hv p
          · have hm' : m.responseId.isSome := by simp [hm]
            simp [shown_append, seen_response hm', hv p]
        rw [he]
        cases res with
        | exit => exact consistent_of_fresh hs hv'
        | success caps =>
          rw [Result.bind_ok]
          erw [bind_some_match]
          obtain ⟨b, hb⟩ := @run_world env n _
          rw [hb]
          exact run_consistent n _ (consistent_of_fresh rfl hv')
        | failure err => exact ih _ hs hv'

end EditorLoop

end PyrePersistent.Safety
