import PyrePersistent.Diagnostics
import PyrePersistent.Session

namespace PyrePersistent.Republish

open PyrePersistent.Containers PyrePersistent.Protocol PyrePersistent.Session
open PyrePersistent.Diagnostics PyM

/-- CPython's iterator over a `set`: the size the set had when `iter` was called, and the slot
where the search for the next key starts. -/
structure SetIterator where
  used : Nat
  position : Nat

def SetIterator.start (s : PySet Path) : SetIterator := ⟨s.size, 0⟩

/-- `next(it)` on the set as it is now: `RuntimeError` once the size differs from the size at
`iter`, else the first key in a slot at or after the iterator's, or the end of the iteration. -/
def SetIterator.next (it : SetIterator) (s : PySet Path) :
    Except PyExc (Option (Path × SetIterator)) :=
  if s.size ≠ it.used then .error (.runtimeError "Set changed size during iteration")
  else match Slot.firstKey (s.table.drop it.position) with
    | some (path, n) => .ok (some (path, ⟨it.used, it.position + n⟩))
    | none => .ok none

def updateTypeErrors (typeErrors : List Error) : PyM Unit := do
  let state ← getState
  setState { state with diagnostics := typeErrorsToDiagnostics typeErrors }

/-- Where `show_type_errors_to_client` can be suspended: in the write that clears `path`, or in
the write that republishes the diagnostics of the path before. -/
inductive Suspension where
  | cleared (it : SetIterator) (path : Path)
  | republished (it : SetIterator)

def Suspension.iterator : Suspension → SetIterator
  | .cleared it _ => it
  | .republished it => it

/-- The `for` statement from `next(it)` to the next suspension, or to its end (`none`). -/
def advance (it : SetIterator) : PyM (Option Suspension) := do
  match it.next (← getState).openedDocuments with
  | .error e => raise e
  | .ok none => pure none
  | .ok (some (path, it)) => do
    publishDiagnostics path []
    pure (some (.cleared it path))

theorem advance_apply (it : SetIterator) (w : World) :
    advance it w = match it.next w.state.openedDocuments with
      | .error e => .raised e w
      | .ok none => .ok none w
      | .ok (some (path, it')) =>
        .ok (some (.cleared it' path)) { w with output := w.output ++ [.publishDiagnostics path []] } := by
  simp only [advance, bind_apply, getState_apply, Result.bind_ok]
  rcases it.next w.state.openedDocuments with e | _ | ⟨path, it'⟩ <;> rfl

/-- `PyreServerHandler.show_type_errors_to_client` from its start to its first suspension. -/
def showTypeErrorsToClient : PyM (Option Suspension) := do
  advance (SetIterator.start (← getState).openedDocuments)

def resume : Suspension → PyM (Option Suspension)
  | .cleared it path => do
    match (← getState).diagnostics.get path with
    | some diagnostics => do
      publishDiagnostics path diagnostics
      pure (some (.republished it))
    | none => advance it
  | .republished it => advance it

theorem resume_cleared (it : SetIterator) (path : Path) (w : World) :
    resume (.cleared it path) w = match w.state.diagnostics.get path with
      | some ds =>
        .ok (some (.republished it)) { w with output := w.output ++ [.publishDiagnostics path ds] }
      | none => advance it w := by
  simp only [resume, bind_apply, getState_apply, Result.bind_ok]
  cases w.state.diagnostics.get path <;> rfl

/-- The coroutine resumed at once at each suspension, at most `fuel` times. -/
def drive : Nat → Option Suspension → PyM Unit
  | _, none => pure ()
  | 0, some _ => fun w => .outOfFuel w
  | fuel + 1, some s => do drive fuel (← resume s)

@[simp] theorem drive_none (fuel : Nat) (w : World) : drive fuel none w = .ok () w := by
  cases fuel <;> rfl

def awaitShowTypeErrorsToClient : PyM Unit := do
  let size := (← getState).openedDocuments.size
  drive (2 * size + 1) (← showTypeErrorsToClient)

/-- What `show_type_errors_to_client` writes for `paths` when it runs alone: for each path an
empty list, then its diagnostics when there are any. -/
def republishAll (diagnostics : PyDict Path (List Diagnostic)) : List Path → List Message
  | [] => []
  | p :: ps => .publishDiagnostics p [] ::
      (match diagnostics.get p with
        | some ds => [.publishDiagnostics p ds]
        | none => []) ++ republishAll diagnostics ps

def OnlyDiagnostics (out : List Message) : Prop := ∀ m ∈ out, ∃ p ds, m = .publishDiagnostics p ds

@[simp] theorem onlyDiagnostics_nil : OnlyDiagnostics [] := fun _ h => absurd h (List.not_mem_nil _)

theorem onlyDiagnostics_append {out out' : List Message} (h : OnlyDiagnostics out)
    (h' : OnlyDiagnostics out') : OnlyDiagnostics (out ++ out') := fun m hm =>
  (List.mem_append.mp hm).elim (h m) (h' m)

theorem republishAll_onlyDiagnostics (d : PyDict Path (List Diagnostic)) :
    ∀ ps : List Path, OnlyDiagnostics (republishAll d ps)
  | [] => onlyDiagnostics_nil
  | p :: ps => fun m hm => by
    simp only [republishAll, List.mem_cons, List.mem_append] at hm
    rcases hm with (rfl | hm) | hm
    · exact ⟨p, [], rfl⟩
    · cases hd : d.get p with
      | none => simp [hd] at hm
      | some ds => exact ⟨p, ds, by simpa [hd] using hm⟩
    · exact republishAll_onlyDiagnostics d ps m hm

theorem next_of_size (s : PySet Path) (k : Nat) :
    (SetIterator.mk s.size k).next s = match Slot.firstKey (s.table.drop k) with
      | some (path, n) => .ok (some (path, ⟨s.size, k + n⟩))
      | none => .ok none := by
  simp [SetIterator.next]

theorem advance_of_size_ne {it : SetIterator} {st : ServerState}
    (h : st.openedDocuments.size ≠ it.used) {w : World} (hw : w.state = st) :
    advance it w = .raised (.runtimeError "Set changed size during iteration") w := by
  subst hw
  simp [advance, SetIterator.next, h]

theorem advance_drive :
    ∀ (rest : List Path) (k fuel : Nat) (w : World),
      Slot.keys (w.state.openedDocuments.table.drop k) = rest → 2 * rest.length ≤ fuel →
      (advance ⟨w.state.openedDocuments.size, k⟩ >>= drive fuel) w =
        .ok () { w with output := w.output ++ republishAll w.state.diagnostics rest }
  | [], k, fuel, w, hrest, _ => by
    simp [advance, next_of_size, Slot.firstKey_of_keys_nil hrest, drive, republishAll]
  | p :: rest, k, fuel, w, hrest, hfuel => by
    obtain ⟨n, hk, hrest'⟩ := Slot.firstKey_of_keys_cons hrest
    rw [List.drop_drop] at hrest'
    obtain ⟨f, rfl⟩ : ∃ f, fuel = f + 1 := ⟨fuel - 1, by simp at hfuel; omega⟩
    let w₁ : World := { w with output := w.output ++ [.publishDiagnostics p []] }
    have hstep : (advance ⟨w.state.openedDocuments.size, k⟩ >>= drive (f + 1)) w =
        (resume (.cleared ⟨w.state.openedDocuments.size, k + n⟩ p) >>= drive f) w₁ := by
      simp [advance, next_of_size, hk, drive, w₁]
    rw [hstep]
    cases hd : w.state.diagnostics.get p with
    | none =>
      have ih := advance_drive rest (k + n) f w₁ hrest' (by simp at hfuel; omega)
      simp only [bind_apply] at ih
      simp [resume, w₁, hd, ih, republishAll]
    | some ds =>
      obtain ⟨g, rfl⟩ : ∃ g, f = g + 1 := ⟨f - 1, by simp at hfuel; omega⟩
      have ih := advance_drive rest (k + n) g
        { w with output := w.output ++ [.publishDiagnostics p [], .publishDiagnostics p ds] }
        hrest' (by simp at hfuel; omega)
      simp only [bind_apply] at ih
      simp [resume, drive, w₁, hd, ih, republishAll]

theorem awaitShowTypeErrorsToClient_apply (w : World) :
    awaitShowTypeErrorsToClient w = .ok ()
      { w with output := w.output ++
          republishAll w.state.diagnostics w.state.openedDocuments.elems } := by
  have h := advance_drive w.state.openedDocuments.elems 0 (2 * w.state.openedDocuments.size + 1) w
    rfl (by simp [PySet.size])
  simpa [awaitShowTypeErrorsToClient, showTypeErrorsToClient, SetIterator.start] using h

def refreshed (diagnostics : PyDict Path (List Diagnostic)) (w : World) : World :=
  { w with
    state := { w.state with diagnostics }
    output := w.output ++ republishAll diagnostics w.state.openedDocuments.elems }

theorem update_then_show (typeErrors : List Error) (w : World) :
    (do updateTypeErrors typeErrors; awaitShowTypeErrorsToClient) w =
      .ok () (refreshed (typeErrorsToDiagnostics typeErrors) w) := by
  simp [updateTypeErrors, awaitShowTypeErrorsToClient_apply, refreshed]

end PyrePersistent.Republish
