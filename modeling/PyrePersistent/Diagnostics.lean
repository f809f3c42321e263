import PyrePersistent.Protocol

namespace PyrePersistent.Diagnostics

open PyrePersistent.Containers PyrePersistent.Protocol

/-- The analyzer counts lines from one and LSP from zero; columns agree. -/
def typeErrorToDiagnostic (typeError : Error) : Diagnostic where
  range := ⟨⟨typeError.line - 1, typeError.column⟩, ⟨typeError.stopLine - 1, typeError.stopColumn⟩⟩
  message := typeError.description
  severity := some .error
  code := none
  source := some "Pyre"

def addTypeError (result : PyDict Path (List Diagnostic)) (typeError : Error) :
    PyDict Path (List Diagnostic) :=
  (result.setdefault typeError.path []).modify typeError.path
    (· ++ [typeErrorToDiagnostic typeError])

def typeErrorsToDiagnostics (typeErrors : List Error) : PyDict Path (List Diagnostic) :=
  typeErrors.foldl addTypeError PyDict.empty

/-- The diagnostics a list of errors holds for one path, in input order. -/
def diagnosticsFor (typeErrors : List Error) (path : Path) : List Diagnostic :=
  (typeErrors.filter (fun e => e.path = path)).map typeErrorToDiagnostic

theorem mem_addTypeError (result : PyDict Path (List Diagnostic)) (typeError : Error) (p : Path) :
    p ∈ addTypeError result typeError ↔ p ∈ result ∨ typeError.path = p := by
  rw [addTypeError, PyDict.mem_def, PyDict.keys_modify, ← PyDict.mem_def,
    PyDict.mem_setdefault, eq_comm]

theorem get_addTypeError (result : PyDict Path (List Diagnostic)) (typeError : Error) (p : Path) :
    ((addTypeError result typeError).get p).getD [] =
      (result.get p).getD [] ++ diagnosticsFor [typeError] p := by
  rw [addTypeError, PyDict.get_modify]
  by_cases hp : typeError.path = p
  · subst hp
    simp [PyDict.get_setdefault, diagnosticsFor]
  · simp [PyDict.get_setdefault, diagnosticsFor, hp, Ne.symm hp]

theorem flatten_addTypeError (result : PyDict Path (List Diagnostic)) (typeError : Error) :
    (addTypeError result typeError).values.flatten.Perm
      (result.values.flatten ++ [typeErrorToDiagnostic typeError]) := by
  unfold addTypeError PyDict.setdefault
  split
  · exact PyDict.join_map_modifyItem_append _ result.nodup ‹_›
  · rename_i h
    simp [PyDict.modify, PyDict.values, PyDict.modifyItem,
      PyDict.map_modifyItem_of_not_mem _ h]

theorem mem_foldl_addTypeError (typeErrors : List Error) (result : PyDict Path (List Diagnostic))
    (p : Path) :
    p ∈ typeErrors.foldl addTypeError result ↔ p ∈ result ∨ ∃ e ∈ typeErrors, e.path = p := by
  induction typeErrors generalizing result with
  | nil => simp
  | cons e rest ih =>
    rw [List.foldl_cons, ih, mem_addTypeError]
    simp [or_assoc]

theorem get_foldl_addTypeError (typeErrors : List Error) (result : PyDict Path (List Diagnostic))
    (p : Path) :
    ((typeErrors.foldl addTypeError result).get p).getD [] =
      (result.get p).getD [] ++ diagnosticsFor typeErrors p := by
  induction typeErrors generalizing result with
  | nil => simp [diagnosticsFor]
  | cons e rest ih =>
    rw [List.foldl_cons, ih, get_addTypeError, List.append_assoc]
    congr 1
    by_cases hp : e.path = p <;> simp [diagnosticsFor, List.filter_cons, hp]

theorem flatten_foldl_addTypeError (typeErrors : List Error)
    (result : PyDict Path (List Diagnostic)) :
    (typeErrors.foldl addTypeError result).values.flatten.Perm
      (result.values.flatten ++ typeErrors.map typeErrorToDiagnostic) := by
  induction typeErrors generalizing result with
  | nil => simp
  | cons e rest ih =>
    rw [List.foldl_cons, List.map_cons]
    refine (ih _).trans ?_
    simpa only [List.append_assoc, List.singleton_append] using
      (flatten_addTypeError result e).append_right _

theorem mem_typeErrorsToDiagnostics (typeErrors : List Error) (p : Path) :
    p ∈ typeErrorsToDiagnostics typeErrors ↔ ∃ e ∈ typeErrors, e.path = p := by
  simpa using mem_foldl_addTypeError typeErrors PyDict.empty p

theorem get_typeErrorsToDiagnostics {typeErrors : List Error} {p : Path}
    (hp : p ∈ typeErrorsToDiagnostics typeErrors) :
    (typeErrorsToDiagnostics typeErrors).get p = some (diagnosticsFor typeErrors p) := by
  obtain ⟨ds, hds⟩ := Option.isSome_iff_exists.mp ((PyDict.get_isSome _ p).mpr hp)
  have h : ((typeErrorsToDiagnostics typeErrors).get p).getD [] = _ :=
    get_foldl_addTypeError typeErrors PyDict.empty p
  rw [hds] at h ⊢
  simpa using h

theorem get_typeErrorsToDiagnostics_ne_nil {typeErrors : List Error} {p : Path}
    {ds : List Diagnostic} (hds : (typeErrorsToDiagnostics typeErrors).get p = some ds) :
    ds ≠ [] := by
  have hp : p ∈ typeErrorsToDiagnostics typeErrors := (PyDict.get_isSome _ p).mp (by simp [hds])
  obtain ⟨e, he, rfl⟩ := (mem_typeErrorsToDiagnostics typeErrors p).mp hp
  rw [get_typeErrorsToDiagnostics hp, Option.some.injEq] at hds
  subst hds
  simp only [diagnosticsFor, ne_eq, List.map_eq_nil_iff, List.filter_eq_nil_iff, not_forall]
  exact ⟨e, he, by simp⟩

/-- The grouping of `type_errors_to_diagnostics`: the keys are the paths of the input, each
mapped to its errors' diagnostics in input order, so no value is empty and every error is
translated exactly once. -/
theorem type_errors_to_diagnostics_groups (typeErrors : List Error) :
    (∀ p, p ∈ typeErrorsToDiagnostics typeErrors ↔ ∃ e ∈ typeErrors, e.path = p) ∧
    (∀ p ∈ typeErrorsToDiagnostics typeErrors,
      (typeErrorsToDiagnostics typeErrors).get p = some (diagnosticsFor typeErrors p)) ∧
    (∀ e : Error, (typeErrorToDiagnostic e).range =
      ⟨⟨e.line - 1, e.column⟩, ⟨e.stopLine - 1, e.stopColumn⟩⟩) ∧
    (∀ p ds, (typeErrorsToDiagnostics typeErrors).get p = some ds → ds ≠ []) ∧
    (typeErrorsToDiagnostics typeErrors).values.flatten.Perm
      (typeErrors.map typeErrorToDiagnostic) :=
  ⟨mem_typeErrorsToDiagnostics typeErrors, fun _ => get_typeErrorsToDiagnostics, fun _ => rfl,
    fun _ _ => get_typeErrorsToDiagnostics_ne_nil,
    by simpa using flatten_foldl_addTypeError typeErrors PyDict.empty⟩

end PyrePersistent.Diagnostics
