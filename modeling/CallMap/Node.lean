import CallMap.Symbol

/-!
# Nodes

A node is a unit as the graph holds it: its symbol, the label it is shown by, and the symbols it
refers to.
-/

namespace CallMap

/-- A unit with its outgoing references. -/
structure Node where
  /-- The identity of the unit. -/
  id : Symbol
  /-- The name of the unit in the case it was written in. -/
  label : String
  /-- The symbols the unit refers to. -/
  refs : SymbolSet := ∅
  deriving DecidableEq

namespace Node

/-- The node of a schema object that is only known because something refers to it. -/
def placeholder (id : Symbol) : Node :=
  { id, label := id.name }

/-- A node with one more reference. -/
def refer (node : Node) (target : Symbol) : Node :=
  { node with refs := node.refs.insert target }

end Node

namespace Symbol

/-- Symbols by ascending key. -/
def sortByKey (symbols : List Symbol) : List Symbol :=
  symbols.mergeSort fun a b => decide (a.key ≤ b.key)

/-- Symbols by ascending name, those of one name by ascending key. -/
def sortByName (symbols : List Symbol) : List Symbol :=
  symbols.mergeSort fun a b => decide (a.name < b.name ∨ a.name = b.name ∧ a.key ≤ b.key)

end Symbol

namespace Node

/-- The references of a node by ascending key. -/
def sortedRefs (node : Node) : List Symbol :=
  Symbol.sortByKey node.refs.toList

/-- Nodes by ascending label, those of one label by ascending key. -/
def sortByLabel (nodes : List Node) : List Node :=
  nodes.mergeSort fun a b => decide (a.label < b.label ∨ a.label = b.label ∧ a.id.key ≤ b.id.key)

end Node

end CallMap
