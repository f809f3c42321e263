import PyrePersistent.Lifecycle

namespace PyrePersistent.Transcript

open PyrePersistent.Protocol PyrePersistent.Session PyrePersistent.Server PyrePersistent.Lifecycle
open PyM

def responses (out : List Message) : List (Option RequestId) := out.filterMap Message.responseId

@[simp] theorem responses_nil : responses [] = [] := rfl

@[simp] theorem responses_append (out out' : List Message) :
    responses (out ++ out') = responses out ++ responses out' :=
  List.filterMap_append _ _ _

@[simp] theorem responses_cons (m : Message) (out : List Message) :
    responses (m :: out) = m.responseId.toList ++ responses out := by
  cases h : m.responseId <;> simp [responses, List.filterMap_cons, h]

def lifecycleMethods : List String :=
  ["exit", "shutdown", "textDocument/didOpen", "textDocument/didClose"]

/-- What a loop wrote while handling `r` answers it: at most one response, carrying the id of
`r`, and exactly one when `r` has an id and is not among `lifecycleMethods`. -/
def Answered (r : Request) (out : List Message) : Prop :=
  (responses out = [] ∨ responses out = [r.id]) ∧
    (r.id.isSome → r.method ∉ lifecycleMethods → responses out = [r.id])

instance (r : Request) (out : List Message) : Decidable (Answered r out) :=
  inferInstanceAs (Decidable (_ ∧ _))

section Answers

variable {r : Request} {out : List Message}

theorem answered_of_response (h : responses out = [r.id]) : Answered r out :=
  ⟨.inr h, fun _ _ => h⟩

theorem answered_of_silent (h : responses out = [])
    (hr : r.id = none ∨ r.method ∈ lifecycleMethods) : Answered r out := by
  refine ⟨.inl h, fun hid hm => ?_⟩
  rcases hr with hr | hr
  · simp [hr] at hid
  · exact absurd hr hm

theorem answered_nil (hr : r.id = none ∨ r.method ∈ lifecycleMethods) : Answered r [] :=
  answered_of_silent rfl hr

theorem answered_of_reply
    (h : (out = [] ∧ r.id = none) ∨ ∃ m, out = [m] ∧ m.responseId = some r.id) :
    Answered r out := by
  rcases h with ⟨rfl, hid⟩ | ⟨m, rfl, hm⟩
  · exact answered_nil (.inl hid)
  · exact answered_of_response (by simp [hm])

end Answers

theorem openDocument_writes (p : Path) (w : World) :
    ∃ out, (openDocument p w).output = w.output ++ out ∧ responses out = [] := by
  unfold openDocument
  split
  · exact ⟨_, rfl, rfl⟩
  · exact ⟨[], by simp, rfl⟩

theorem closeDocument_writes (p : Path) (w : World) :
    ∃ out, (closeDocument p w).output = w.output ++ out ∧ responses out = [] := by
  unfold closeDocument
  split
  · exact ⟨[], by simp, rfl⟩
  · split
    · exact ⟨_, rfl, rfl⟩
    · exact ⟨[], by simp, rfl⟩

variable {env : Env} {w : World} {r : Request} {fs : List Frame} {n : Nat}

theorem tryInitialize_writes (h : w.input = .message r :: fs) :
    ∃ res out, tryInitialize env w = .ok res { w with input := fs, output := w.output ++ out } ∧
      ((out = [] ∧ r.id = none) ∨ ∃ m, out = [m] ∧ m.responseId = some r.id) := by
  rw [tryInitialize, tryBinding_message h]
  obtain ⟨method, id, parameters⟩ := r
  simp only [tryInitializeBody]
  cases id with
  | none => exact ⟨_, [], by rw [List.append_nil]; rfl, .inl ⟨rfl, rfl⟩⟩
  | some i =>
    by_cases hm : method = "initialize"
    · simp only [hm, ne_eq, not_true_eq_false, if_false]
      cases parameters with
      | none => exact ⟨_, _, rfl, .inr ⟨_, rfl, rfl⟩⟩
      | some p =>
        dsimp only
        cases env.initializeParameters p <;> exact ⟨_, _, rfl, .inr ⟨_, rfl, rfl⟩⟩
    · simp only [hm, ne_eq, not_false_eq_true, if_true]
      exact ⟨_, _, rfl, .inr ⟨_, rfl, rfl⟩⟩

theorem run_world (n : Nat) (w : World) :
    ∃ b, (run env n w).world =
      { (_run env n { w with pyreTaskRunning := true }).world with pyreTaskRunning := b } := by
  have h : (do ensureTaskRunning; _run env n : PyM Int) w =
      _run env n { w with pyreTaskRunning := true } := rfl
  unfold run PyM.tryFinally
  rw [h]
  cases _run env n { w with pyreTaskRunning := true } with
  | ok _ w' | raised _ w' => exact ⟨false, rfl⟩
  | pending w' | outOfFuel w' => exact ⟨w'.pyreTaskRunning, rfl⟩

theorem run_of_handled {w' : World} (h : w.input = .message r :: fs)
    (hd : (dispatch env n r { w with input := fs }).catchJsonRpc
      (fun error w'' => .ok none (answered r error w'')) = .ok none w') :
    _run env (n + 1) w = _run env n w' := by
  rw [_run, whileTrue_succ, readLspRequest_message h, hd]
  rfl

theorem loop_message_writes (ph : Phase) (h : w.input = .message r :: fs) :
    match ph.next env r with
    | .inl ph' => ∃ w' out, w'.input = fs ∧ w'.output = w.output ++ out ∧ Answered r out ∧
        (ph.loop env (n + 1) w).world.output = (ph'.loop env n w').world.output
    | .inr _ => ∃ out, (ph.loop env (n + 1) w).world.output = w.output ++ out ∧
        Answered r out := by
  cases ph with
  | preInitialization =>
    obtain ⟨res, w', he, -, hnext⟩ : ∃ res w', tryInitialize env w = .ok res w' ∧
        w'.input = fs ∧ initializationNext res = Phase.next env .preInitialization r :=
      tryInitialize_message h
    obtain ⟨res', out, he', hrep⟩ := @tryInitialize_writes env w r fs h
    have hans := answered_of_reply hrep
    obtain ⟨rfl, rfl⟩ := Result.ok.inj (he'.symm.trans he)
    rw [← hnext, Phase.loop, whileTrue_succ, runPersistentBody, bind_apply, he']
    cases res' with
    | exit => exact ⟨out, rfl, hans⟩
    | success caps =>
      refine ⟨{ w with
          input := fs
          output := w.output ++ out
          state := ServerState.initial
          pyreTaskRunning := true }, out, rfl, rfl, hans, ?_⟩
      rw [Result.bind_ok]
      erw [bind_some_match]
      obtain ⟨b, hb⟩ := @run_world env n _
      rw [hb]
      rfl
    | failure err => exact ⟨_, out, rfl, rfl, hans, rfl⟩
  | active =>
    by_cases hexit : r.method = "exit"
    · simp only [Phase.next, hexit, if_true]
      rw [Phase.loop, run_exit h hexit]
      exact ⟨[], by simp [Result.world],
        answered_nil (.inr (by simp [lifecycleMethods, hexit]))⟩
    by_cases hshut : r.method = "shutdown"
    · simp only [Phase.next, hexit, hshut, if_true, if_false]
      rw [Phase.loop, run_shutdown h hshut]
      exact ⟨{ w with input := fs }, [], rfl, by simp,
        answered_nil (.inr (by simp [lifecycleMethods, hshut])), rfl⟩
    simp only [Phase.next, hexit, hshut, if_false]
    obtain ⟨w', hd, hcases⟩ := @dispatch_cases env r n hexit hshut { w with input := fs }
    rw [Phase.loop, run_of_handled h hd]
    rcases hcases with ⟨rfl, hid, -, -⟩ | ⟨e, rfl⟩ | ⟨hm, p, rfl⟩ | ⟨hm, p, rfl⟩
    · exact ⟨_, [], rfl, by simp, answered_nil (.inl hid), rfl⟩
    · exact ⟨answered r e { w with input := fs }, _, rfl, rfl, answered_of_response rfl, rfl⟩
    · obtain ⟨out, hout, hresp⟩ := openDocument_writes p { w with input := fs }
      exact ⟨_, out, by simp, hout,
        answered_of_silent hresp (.inr (by simp [lifecycleMethods, hm])), rfl⟩
    · obtain ⟨out, hout, hresp⟩ := closeDocument_writes p { w with input := fs }
      exact ⟨_, out, by simp, hout,
        answered_of_silent hresp (.inr (by simp [lifecycleMethods, hm])), rfl⟩
  | shutdown =>
    by_cases hexit : r.method = "exit"
    · simp only [Phase.next, hexit, if_true]
      rw [Phase.loop, waitForExit_message h, if_pos hexit]
      exact ⟨[], by simp [Result.world],
        answered_nil (.inr (by simp [lifecycleMethods, hexit]))⟩
    · simp only [Phase.next, hexit, if_false]
      rw [Phase.loop, waitForExit_message h, if_neg hexit]
      exact ⟨answered r ⟨.invalidRequest, "LSP server has been shut down"⟩
        { w with input := fs }, _, rfl, rfl, answered_of_response rfl, rfl⟩

theorem loop_transcript (ph : Phase) (rs : List Request) (n : Nat) (w : World)
    (hn : rs.length < n) (hw : w.input = rs.map .message) :
    ∃ outs : List (List Message), (ph.loop env n w).world.output = w.output ++ outs.flatten ∧
      outs.length = ph.readCount env rs ∧ List.Forall₂ Answered (rs.take outs.length) outs := by
  obtain ⟨m, rfl⟩ : ∃ m, n = m + 1 := ⟨n - 1, by omega⟩
  induction rs generalizing ph m w with
  | nil => exact ⟨[], by simp [loop_nil_eq ph hw, Result.world], rfl, .nil⟩
  | cons r rs ih =>
    have hstep := @loop_message_writes env w r (rs.map .message) m ph hw
    rw [Phase.readCount]
    cases hnext : ph.next env r with
    | inl ph' =>
      simp only [hnext] at hstep
      obtain ⟨w', out, hw', hout, hans, hloop⟩ := hstep
      obtain ⟨k, rfl⟩ : ∃ k, m = k + 1 := ⟨m - 1, by simp at hn; omega⟩
      obtain ⟨outs, h1, h2, h3⟩ := ih ph' w' hw' k (by simpa using hn)
      refine ⟨out :: outs, by rw [hloop, h1, hout]; simp, by simp [h2], ?_⟩
      simpa using h3.cons hans
    | inr code =>
      simp only [hnext] at hstep
      obtain ⟨out, hout, hans⟩ := hstep
      exact ⟨[out], by simp [hout], rfl, by simpa using List.Forall₂.cons hans .nil⟩

section Task

def LeavesTaskStopped {α : Type} : Result α → Prop
  | .ok _ w | .raised _ w => w.pyreTaskRunning = false
  | .pending _ | .outOfFuel _ => True

theorem tryInitialize_task (w : World) :
    (tryInitialize env w).world.pyreTaskRunning = w.pyreTaskRunning := by
  cases h : w.input with
  | nil => rw [tryInitialize, tryBinding_nil h]; rfl
  | cons f fs =>
    cases f with
    | message r =>
      obtain ⟨res, out, he, -⟩ := @tryInitialize_writes env w r fs h
      rw [he]
      rfl
    | malformed e => rw [tryInitialize, tryBinding_malformed h]; rfl

theorem leavesTaskStopped_run (n : Nat) (w : World) : LeavesTaskStopped (run env n w) := by
  obtain ⟨hok, hraised⟩ := @run_stops_task env n w
  cases h : run env n w with
  | ok code w' => exact hok code w' h
  | raised e w' => exact hraised e w' h
  | pending _ | outOfFuel _ => trivial

theorem loop_stops_task (n : Nat) :
    ∀ w : World, w.pyreTaskRunning = false →
      LeavesTaskStopped (whileTrue (runPersistentBody env) n w) := by
  induction n with
  | zero => exact fun _ _ => trivial
  | succ n ih =>
    intro w hw
    have ht := @tryInitialize_task env w
    rw [whileTrue_succ, runPersistentBody, bind_apply]
    cases hi : tryInitialize env w with
    | ok res w₁ =>
      rw [hi] at ht
      cases res with
      | exit => exact ht.trans hw
      | success caps =>
        rw [Result.bind_ok]
        erw [bind_some_match]
        exact leavesTaskStopped_run n _
      | failure err => exact ih w₁ (ht.trans hw)
    | raised e w₁ =>
      rw [hi] at ht
      exact ht.trans hw
    | pending _ | outOfFuel _ => trivial

/-- Whatever the editor sends, `run_persistent`, started with no task running, never returns or
raises with the background task left running: `Server.run` stops it in its `finally` clause,
and no other way out starts it. -/
theorem run_persistent_stops_task (w : World) :
    LeavesTaskStopped (runPersistent env { w with pyreTaskRunning := false }) :=
  loop_stops_task _ _ rfl

end Task

/-- Over messages that all decode, `run_persistent` writes to the editor one block per request
it reads, in the order of the requests, and reads exactly the requests the lifecycle table
reads: each block holds at most one response, with the id of its request, and holds one
whenever that request has an id and is not a lifecycle method. -/
theorem run_persistent_answers_in_order (rs : List Request) (w : World) :
    ∃ outs : List (List Message),
      (runPersistent env { w with input := rs.map .message }).world.output =
        w.output ++ outs.flatten ∧
      outs.length = Phase.readCount env .preInitialization rs ∧
      List.Forall₂ Answered (rs.take outs.length) outs :=
  loop_transcript .preInitialization rs _ _ (by simp) rfl

end PyrePersistent.Transcript
