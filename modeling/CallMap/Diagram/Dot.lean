import CallMap.Diagram

/-!
# Diagrams in the DOT language

A directed graph for Graphviz. Nodes are filled with a colour that goes by their tags.
-/

namespace CallMap.Diagram.Dot

/-- The colour of a node with given tags; none for most kinds. -/
def colour (tags : List String) : String :=
  if tags.contains Kind.form.tag then "lightgreen"
  else if tags.contains Kind.report.tag then "orange"
  else if tags.contains Kind.procedure.tag then "yellow"
  else if tags.contains Kind.method.tag then
    if tags.contains missingTag then "red" else "lightblue"
  else ""

/-- The text of a stroke. -/
def write : Stroke → String
  | .start => "digraph calls \x7b\n"
  | .node id label tags =>
    "\t" ++ identifier id ++ " [label=\"" ++ escape label ++ "\" style=\"filled\" fillcolor=\""
      ++ colour tags ++ "\"]\n"
  | .reference source target => "\t" ++ identifier source ++ " -> " ++ identifier target ++ "\n"
  | .finish => "\x7d\n"

/-- The text of a drawing. -/
def render (strokes : List Stroke) : String :=
  String.join (strokes.map write)

end CallMap.Diagram.Dot
