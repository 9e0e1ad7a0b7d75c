import CallMap.Document
import CallMap.Graph.Pass

/-!
# Schema and system procedures

Two documents tell what an export does not: the tables of the database with their fields and
indexes, and the public procedures that are called from outside. An index belongs to a table, so
what refers to an index refers to its table too; `Graph.linkTables` adds those references.
-/

namespace CallMap

namespace Schema

/-- A table with its fields and indexes. -/
structure Table where
  /-- The name of the table. -/
  name : String := ""
  /-- The names of its fields. -/
  fields : List String := []
  /-- The names of its indexes. -/
  indexes : List String := []
  deriving DecidableEq, Repr

/-- The JSON form of a field or index. -/
def itemShape : Json.Reader.Shape String where
  title := "SchemaItem"
  initial := ""
  fields := [
    { name := "name"
      read := (Json.Reader.text "a string").map fun name _ => name
      optionalInObject := false
      optionalInList := false }]

/-- Reads the names of fields or indexes. -/
def items : Json.Reader (List String) :=
  Json.Reader.list (Json.Reader.record itemShape)

/-- The JSON form of a table. -/
def tableShape : Json.Reader.Shape Table where
  title := "SchemaTable"
  initial := {}
  fields := [
    { name := "name"
      read := (Json.Reader.text "a string").map fun name table => { table with name }
      optionalInObject := false
      optionalInList := false },
    { name := "fields"
      read := items.map fun fields table => { table with fields } },
    { name := "indexes"
      read := items.map fun indexes table => { table with indexes } }]

/-- The tables of a document. -/
def tables (document : Document) : Except Failure (List Table) :=
  document.json (Json.Reader.list (Json.Reader.record tableShape))

/-- Makes sure that an index or field exists and refers to its table. -/
def enterMember (table : Symbol) (kind : Kind) (graph : Graph) (name : String) : Graph :=
  let id := Symbol.of name kind
  (graph.insertIfNew { id, label := name }).refer id table

/-- Makes sure that a table exists, with its indexes and then its fields. -/
def enterTable (graph : Graph) (table : Table) : Graph :=
  let id := Symbol.of table.name .table
  let withTable := graph.insertIfNew { id, label := table.name }
  let withIndexes := table.indexes.foldl (enterMember id .index) withTable
  table.fields.foldl (enterMember id .field) withIndexes

/-- Makes sure that tables exist, with their indexes and fields. -/
def enter (graph : Graph) (tables : List Table) : Graph :=
  tables.foldl enterTable graph

/-- Enters the tables of a document and gives their number. -/
def apply (document : Document) : Pass Nat := do
  let tables ← Pass.ofExcept (tables document)
  Pass.update (enter · tables)
  return tables.length

end Schema

namespace SystemProcedures

/-- The JSON form of the list of system procedures. -/
def shape : Json.Reader.Shape (List String) where
  title := "SystemProcedures"
  initial := []
  fields := [
    { name := "systemProcedures"
      read := (Json.Reader.list (Json.Reader.text "a string")).map fun names _ => names }]

/-- The names of a document. -/
def names (document : Document) : Except Failure (List String) :=
  document.json (Json.Reader.record shape)

/-- Counts public procedures as used. -/
def enter (graph : Graph) (names : List String) : Graph :=
  names.foldl (fun graph name => graph.markUsed (.of name .procedure)) graph

/-- Counts the procedures of a document as used and gives their number. -/
def apply (document : Document) : Pass Nat := do
  let names ← Pass.ofExcept (names document)
  Pass.update (enter · names)
  return names.length

end SystemProcedures

namespace Graph

/-- The tables that the indexes a node refers to belong to. -/
def tablesThroughIndexes (graph : Graph) (node : Node) : List Symbol :=
  (node.refs.toList.filter fun id => id.kind == .index).flatMap fun index =>
    match graph.node? index with
    | some indexNode => indexNode.refs.toList.filter fun id => id.kind == .table
    | none => []

/-- Lets every node refer to the tables of the indexes it refers to. References that come in this
way lead to no further ones. -/
def linkTables (graph : Graph) : Graph :=
  { graph with
    nodes := graph.nodes.map fun _ node =>
      { node with refs := node.refs.insertMany (graph.tablesThroughIndexes node) }
    keyed := graph.keyed.map fun _ _ => rfl }

/-- The number of references that `linkTables` adds. -/
def tableLinkCount (graph : Graph) : Nat :=
  graph.linkTables.referenceCount - graph.referenceCount

end Graph

end CallMap
