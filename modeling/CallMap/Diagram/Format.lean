import CallMap.Diagram.Cypher
import CallMap.Diagram.Dot
import CallMap.Text.Case

/-!
# Diagram formats

The formats a graph can be drawn in, and the names they go by.
-/

namespace CallMap.Diagram

/-- A format for diagrams. -/
inductive Format
  /-- The DOT language. -/
  | dot
  /-- Cypher statements. -/
  | cypher
  deriving DecidableEq, Repr

namespace Format

/-- The name of a format. -/
def tag : Format → String
  | dot => "dot"
  | cypher => "cypher"

/-- The format that a user asks for, in any letter case. -/
def ofRequest? (request : String) : Option Format :=
  match Text.lower request with
  | "dot" => some dot
  | "cypher" | "neo" => some cypher
  | _ => none

/-- Every format can be asked for by its name. -/
theorem ofRequest?_tag (format : Format) : ofRequest? format.tag = some format := by
  cases format <;> decide +kernel

/-- The text of a drawing. -/
def render : Format → List Stroke → String
  | dot => Dot.render
  | cypher => Cypher.render

end Format

end CallMap.Diagram
