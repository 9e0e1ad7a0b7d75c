import CallMap.Graph

/-!
# Passes over a graph

A pass changes a graph step by step and ends with a result or halts. What it has changed before it
halts stays changed.
-/

namespace CallMap

/-- Changes a graph, leaves notes, and ends in a result unless it halts. -/
def Pass (α : Type) := Graph → Graph × Traced α

namespace Pass

variable {α β : Type}

/-- A pass that leaves the graph alone. -/
def lift (traced : Traced α) : Pass α := fun graph =>
  (graph, traced)

/-- One pass after the other. -/
protected def bind (first : Pass α) (second : α → Pass β) : Pass β := fun graph =>
  match first graph with
  | (graph, ⟨notes, .error reason⟩) => (graph, ⟨notes, .error reason⟩)
  | (graph, ⟨notes, .ok value⟩) =>
    match second value graph with
    | (graph, traced) => (graph, ⟨notes ++ traced.notes, traced.outcome⟩)

instance : Monad Pass where
  pure value := lift (pure value)
  bind := Pass.bind

/-- A pass that halts at once if something has failed. -/
def ofExcept (outcome : Except Failure α) : Pass α :=
  lift (Traced.ofExcept outcome)

/-- A pass that only changes the graph. -/
def update (change : Graph → Graph) : Pass Unit := fun graph =>
  (change graph, pure ())

/-- A pass that only leaves a note. -/
def note (level : Level) (origin : Origin) (text : String) : Pass Unit :=
  lift (Traced.note level origin text)

end Pass

end CallMap
