/-!
# Recorded runs

A run performs calls one after the other and stops at the first that fails. It records what was
done, so a failed run still shows how far it came.
-/

namespace RelativeTime

/-- The record of what was done, and the result or the error that ended the run. -/
structure Run (σ ε α : Type) where
  steps : List σ
  result : Except ε α

namespace Run

variable {σ ε α β : Type}

/-- The run that calls nothing and returns `a`. -/
def done (a : α) : Run σ ε α := ⟨[], .ok a⟩

/-- The run that calls nothing and fails. -/
def failed (error : ε) : Run σ ε α := ⟨[], .error error⟩

/-- A run and then, if it succeeds, the run that its result leads to. -/
def andThen (run : Run σ ε α) (next : α → Run σ ε β) : Run σ ε β :=
  match run.result with
  | .ok a => ⟨run.steps ++ (next a).steps, (next a).result⟩
  | .error error => ⟨run.steps, .error error⟩

instance : Monad (Run σ ε) where
  pure := done
  bind := andThen

/-- The run of a single call with the given outcome, recorded as `step` whether it succeeds or
not. -/
def single (step : σ) (outcome : Except ε α) : Run σ ε α := ⟨[step], outcome⟩

/-- An outcome reached without any call. -/
def ofExcept (outcome : Except ε α) : Run σ ε α := ⟨[], outcome⟩

def mapError {ε' : Type} (f : ε → ε') (run : Run σ ε α) : Run σ ε' α :=
  ⟨run.steps, run.result.mapError f⟩

def pick {σ' : Type} (view : σ → Option σ') (run : Run σ ε α) : Run σ' ε α :=
  ⟨run.steps.filterMap view, run.result⟩

/-! ## Equations -/

@[simp] theorem pure_eq (a : α) : (pure a : Run σ ε α) = done a := rfl

@[simp] theorem bind_eq (run : Run σ ε α) (next : α → Run σ ε β) :
    run >>= next = run.andThen next := rfl

@[simp] theorem done_andThen (a : α) (next : α → Run σ ε β) : (done a).andThen next = next a := by
  simp [andThen, done]

@[simp] theorem failed_andThen (error : ε) (next : α → Run σ ε β) :
    (failed error).andThen next = failed error := rfl

@[simp] theorem ofExcept_ok (a : α) : (ofExcept (.ok a) : Run σ ε α) = done a := rfl

@[simp] theorem ofExcept_error (error : ε) :
    (ofExcept (.error error) : Run σ ε α) = failed error := rfl

theorem andThen_of_ok {run : Run σ ε α} {a : α} (ok : run.result = .ok a) (next : α → Run σ ε β) :
    run.andThen next = ⟨run.steps ++ (next a).steps, (next a).result⟩ := by
  simp only [andThen, ok]

theorem andThen_of_error {run : Run σ ε α} {error : ε} (failure : run.result = .error error)
    (next : α → Run σ ε β) : run.andThen next = ⟨run.steps, .error error⟩ := by
  simp only [andThen, failure]

theorem result_andThen (run : Run σ ε α) (next : α → Run σ ε β) :
    (run.andThen next).result = run.result.bind fun a => (next a).result := by
  obtain ⟨steps, result⟩ := run
  cases result <;> rfl

@[simp] theorem andThen_done (run : Run σ ε α) : run.andThen done = run := by
  obtain ⟨steps, result⟩ := run
  cases result <;> simp [andThen, done]

end Run

end RelativeTime
