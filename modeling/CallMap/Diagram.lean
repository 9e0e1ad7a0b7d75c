import CallMap.Graph

/-!
# Diagrams

A graph is drawn as a sequence of strokes: its nodes, then every reference, then the missing symbols
that something refers to. Each output format writes one stroke after the other.

Names are written as identifiers that either format accepts, and labels as quoted strings.
-/

namespace CallMap

/-- One step of drawing a graph. -/
inductive Stroke
  /-- The drawing begins. -/
  | start
  /-- A node with its label and its tags. -/
  | node (id : Symbol) (label : String) (tags : List String)
  /-- A reference. -/
  | reference (source target : Symbol)
  /-- The drawing ends. -/
  | finish
  deriving DecidableEq, Repr

namespace Diagram

/-- The tag of symbols that count as used. -/
def usedTag : String := "used"

/-- The tag of symbols that have no node. -/
def missingTag : String := "missing"

/-- The stroke for a node. -/
def nodeStroke (graph : Graph) (node : Node) : Stroke :=
  .node node.id node.label
    (node.id.kind.tag :: if graph.isUsed node.id then [usedTag] else [])

/-- The strokes for the references of a node, by key. -/
def referenceStrokes (node : Node) : List Stroke :=
  node.sortedRefs.map (.reference node.id)

/-- The stroke for a missing symbol. -/
def missingStroke (id : Symbol) : Stroke :=
  .node id id.name [id.kind.tag, missingTag]

/-- The targets without a node among `found` and those that turn up when the references of a node
are drawn. -/
def collectMissing (graph : Graph) (found : SymbolSet) (node : Node) : SymbolSet :=
  node.sortedRefs.foldl
    (fun found target => if graph.has target then found else found.insert target) found

/-- The missing symbols that turn up while the references of a graph are drawn, by name and then by
key. -/
def undrawn (graph : Graph) : List Symbol :=
  Symbol.sortByName (graph.listing.foldl (collectMissing graph) ∅).toList

/-- The strokes that draw a graph. -/
def ofGraph (graph : Graph) : List Stroke :=
  .start :: graph.listing.map (nodeStroke graph) ++ graph.listing.flatMap referenceStrokes
    ++ (undrawn graph).map missingStroke ++ [.finish]

/-- Whether a character may stand in an identifier as it is. -/
def isPlain (c : Char) : Bool :=
  c.isAlphanum

/-- The identifier of a symbol: its key with all but ASCII letters and digits replaced by
underscores, after `a_`. -/
def identifier (id : Symbol) : String :=
  "a_" ++ String.ofList (id.key.toList.map fun c => if isPlain c then c else '_')

/-- A text with other characters in the place of one. -/
def replace (old : Char) (new text : List Char) : List Char :=
  text.flatMap fun c => if c = old then new else [c]

/-- A label as it stands between double quotes: backslashes are doubled, and then a backslash goes
before every quote. -/
def escape (label : String) : String :=
  String.ofList (replace '"' ['\\', '"'] (replace '\\' ['\\', '\\'] label.toList))

end Diagram

end CallMap
