import CallMap.Diagram

/-!
# Diagrams as Cypher scripts

A script that enters a graph into a database. Every statement is a `MERGE`, so a script can be run
again on a database that holds an earlier state of the graph.
-/

namespace CallMap.Diagram.Cypher

/-- The parts of a text between underscores. -/
def parts : List Char → List (List Char)
  | [] => [[]]
  | c :: rest =>
    match parts rest with
    | [] => [[c]]
    | first :: others => if c = '_' then [] :: first :: others else (c :: first) :: others

/-- A tag as the database knows it: the parts between underscores, each with a capital letter. -/
def upperCamel (tag : String) : String :=
  String.ofList ((parts tag.toList).flatMap Text.capitalise)

/-- The type of a reference to a symbol. -/
def relationship (target : Symbol) : String :=
  if target.kind.isCallable then "calls" else "references"

/-- The text of a stroke. -/
def write : Stroke → String
  | .start => ""
  | .node id label tags =>
    "MERGE (n:Node \x7bid:\"" ++ identifier id ++ "\"\x7d) SET n.name=\"" ++ escape label
      ++ "\" SET n" ++ String.join (tags.map fun tag => ":" ++ upperCamel tag) ++ ";\n"
  | .reference source target =>
    "MERGE (f:Node \x7bid:\"" ++ identifier source ++ "\"\x7d) MERGE (t:Node \x7bid:\""
      ++ identifier target ++ "\"\x7d) MERGE (f)-[:" ++ relationship target ++ "]->(t);\n"
  | .finish => ""

/-- The text of a drawing. -/
def render (strokes : List Stroke) : String :=
  String.join (strokes.map write)

end CallMap.Diagram.Cypher
