import RepoAudit.Fault

/-!
Steps that may fail and change a state. What a step did to the state is known also if it fails.
-/
namespace RepoAudit

/-- A step with states in `σ`. -/
abbrev Step (σ α : Type) := ExceptT Fault (StateM σ) α

namespace Step

variable {σ α β : Type}

/-- A step that may fail and changes nothing. -/
def attempt (result : Except Fault α) : Step σ α :=
  match result with
  | .ok a => pure a
  | .error fault => throw fault

/-- The result of a step and the state after it. -/
def perform (step : Step σ α) (s : σ) : Except Fault α × σ := StateT.run (ExceptT.run step) s

@[simp] theorem perform_pure (a : α) (s : σ) : (pure a : Step σ α).perform s = (.ok a, s) := rfl

@[simp] theorem perform_throw (fault : Fault) (s : σ) :
    (throw fault : Step σ α).perform s = (.error fault, s) := rfl

@[simp] theorem perform_attempt (result : Except Fault α) (s : σ) :
    (attempt result : Step σ α).perform s = (result, s) := by
  cases result <;> rfl

@[simp] theorem perform_get (s : σ) : (get : Step σ σ).perform s = (.ok s, s) := rfl

@[simp] theorem perform_modify (f : σ → σ) (s : σ) :
    (modify f : Step σ Unit).perform s = (.ok (), f s) := rfl

/-- What follows a step starts in the state that it left, and only if it did not fail. -/
theorem perform_bind (step : Step σ α) (next : α → Step σ β) (s : σ) :
    (step >>= next).perform s = match step.perform s with
      | (.ok a, after) => (next a).perform after
      | (.error fault, after) => (.error fault, after) := by
  simp only [perform, bind, ExceptT.bind, ExceptT.run, ExceptT.mk, StateT.run, StateT.bind]
  rcases step s with ⟨_ | a, after⟩ <;> rfl

/-- Goes on from what a failing step did. -/
theorem perform_tryCatch (step : Step σ α) (handle : Fault → Step σ α) (s : σ) :
    (tryCatch step handle).perform s = match step.perform s with
      | (.ok a, after) => (.ok a, after)
      | (.error fault, after) => (handle fault).perform after := by
  simp only [perform, tryCatch, tryCatchThe, MonadExceptOf.tryCatch, ExceptT.tryCatch,
    ExceptT.run, ExceptT.mk, bind, StateT.run, StateT.bind]
  rcases step s with ⟨_ | a, after⟩ <;> rfl

end Step

end RepoAudit
