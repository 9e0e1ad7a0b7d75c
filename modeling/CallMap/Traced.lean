import CallMap.Failure

/-!
# Computations that leave notes

The steps of an analysis leave notes on their way: what they skip, what they find odd. The notes of
a step stay when it fails. A step ends in a result, in a failure, or by running out of memory, which
no caller can recover from.

* `Traced.bind_outcome` and `Traced.bind_notes`: what comes after a step only counts when the step
  succeeds.
* `Traced.foldlM_concat_outcome_eq_ok`: a loop has a result if all its steps have one.
-/

namespace CallMap

/-- How much a note matters. -/
inductive Level
  /-- Of interest when following every step. -/
  | trace
  /-- Of interest when looking for a mistake. -/
  | debug
  /-- Progress. -/
  | info
  /-- Something was left out. -/
  | warn
  deriving DecidableEq, Repr

/-- Which part of an analysis leaves a note. -/
inductive Origin
  /-- Finding the files. -/
  | discovery
  /-- Going through the files one by one. -/
  | decoding
  /-- The records of a file. -/
  | records
  /-- The statements of an embedded text. -/
  | statements
  /-- Usage and schema data. -/
  | enrichment
  /-- The analysis as a whole. -/
  | analysis
  deriving DecidableEq, Repr

/-- A remark about the course of an analysis. -/
structure Note where
  /-- How much it matters. -/
  level : Level
  /-- Where it comes from. -/
  origin : Origin
  /-- What it says. -/
  text : String
  /-- Whether the time taken belongs after the text. -/
  timed : Bool := false
  deriving DecidableEq, Repr

/-- How a computation ends without a result. -/
inductive Halt
  /-- It fails for a reason that can be reported. -/
  | failed (failure : Failure)
  /-- It asks for more memory than can be addressed. -/
  | outOfMemory
  deriving DecidableEq, Repr

/-- A computation with its notes and its outcome. -/
structure Traced (α : Type) where
  /-- The notes, first to last. -/
  notes : List Note
  /-- How it ended. -/
  outcome : Except Halt α

namespace Traced

variable {α β γ : Type}

/-- A computation that only gives a result. -/
def result (value : α) : Traced α :=
  ⟨[], .ok value⟩

/-- A computation that only fails. -/
def halt (reason : Halt) : Traced α :=
  ⟨[], .error reason⟩

/-- A computation that only fails for a reportable reason. -/
def fail (failure : Failure) : Traced α :=
  halt (.failed failure)

/-- A computation that only leaves a note. -/
def note (level : Level) (origin : Origin) (text : String) : Traced Unit :=
  ⟨[{ level, origin, text }], .ok ()⟩

/-- A computation that only has an outcome. -/
def ofExcept : Except Failure α → Traced α
  | .ok value => result value
  | .error failure => fail failure

/-- One computation after the other. -/
protected def bind (first : Traced α) (second : α → Traced β) : Traced β :=
  match first.outcome with
  | .ok value => ⟨first.notes ++ (second value).notes, (second value).outcome⟩
  | .error reason => ⟨first.notes, .error reason⟩

instance : Monad Traced where
  pure := result
  bind := Traced.bind

/-- A sequence ends as its second part does, unless the first part halts. -/
@[simp]
theorem bind_outcome (first : Traced α) (second : α → Traced β) :
    (first >>= second).outcome = first.outcome.bind fun value => (second value).outcome := by
  change (first.bind second).outcome = _
  unfold Traced.bind
  cases first.outcome <;> rfl

/-- The notes of a sequence are those of its first part and, if it comes to that, of its second. -/
@[simp]
theorem bind_notes (first : Traced α) (second : α → Traced β) :
    (first >>= second).notes = first.notes ++ match first.outcome with
      | .ok value => (second value).notes
      | .error _ => [] := by
  change (first.bind second).notes = _
  unfold Traced.bind
  cases first.outcome <;> simp

@[simp]
theorem pure_outcome (value : α) : (pure value : Traced α).outcome = .ok value := rfl

@[simp]
theorem pure_notes (value : α) : (pure value : Traced α).notes = [] := rfl

protected theorem pure_bind (value : α) (second : α → Traced β) :
    pure value >>= second = second value := rfl

protected theorem bind_pure (first : Traced α) : first >>= pure = first := by
  obtain ⟨notes, reason | value⟩ := first
  · rfl
  · exact congrArg (Traced.mk · _) (List.append_nil notes)

/-- Notes and outcome of a sequence do not depend on how its steps are grouped. -/
protected theorem bind_assoc (first : Traced α) (second : α → Traced β) (third : β → Traced γ) :
    first >>= second >>= third = first >>= fun value => second value >>= third := by
  obtain ⟨notes, reason | value⟩ := first
  · rfl
  · change Traced.bind (Traced.mk (notes ++ (second value).notes) (second value).outcome) third =
      Traced.mk (notes ++ ((second value).bind third).notes) ((second value).bind third).outcome
    obtain ⟨others, reason | next⟩ := second value
    · rfl
    · exact congrArg (Traced.mk · _) (List.append_assoc notes others _)

/-- A sequence has a result if both of its parts have one. -/
theorem bind_outcome_eq_ok {first : Traced α} {second : α → Traced β} {final : β} :
    (first >>= second).outcome = .ok final ↔
      ∃ value, first.outcome = .ok value ∧ (second value).outcome = .ok final := by
  rw [bind_outcome]
  cases first.outcome with
  | error reason => simp [Except.bind]
  | ok value => simp [Except.bind]

/-- A loop over values and then others goes on where the first loop ends, unless that halts. -/
theorem foldlM_append_outcome {step : β → α → Traced β} {values others : List α} {state : β} :
    ((values ++ others).foldlM step state).outcome =
      (values.foldlM step state).outcome.bind fun middle =>
        (others.foldlM step middle).outcome := by
  induction values generalizing state with
  | nil => rfl
  | cons first rest ih =>
    simp only [List.cons_append, List.foldlM_cons, bind_outcome]
    cases (step state first).outcome with
    | error reason => rfl
    | ok next => exact ih

/-- A loop over one more value has a result if the loop and its last step have one. -/
theorem foldlM_concat_outcome_eq_ok {step : β → α → Traced β} {values : List α} {value : α}
    {state final : β} :
    ((values ++ [value]).foldlM step state).outcome = .ok final ↔
      ∃ middle, (values.foldlM step state).outcome = .ok middle ∧
        (step middle value).outcome = .ok final := by
  rw [foldlM_append_outcome]
  cases (values.foldlM step state).outcome with
  | error reason => simp [Except.bind]
  | ok middle =>
    simp only [Except.bind, List.foldlM_cons, List.foldlM_nil, bind_outcome_eq_ok, pure_outcome,
      Except.ok.injEq, exists_eq_right, exists_eq_left']

end Traced

end CallMap
