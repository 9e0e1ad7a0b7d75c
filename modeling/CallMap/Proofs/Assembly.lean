import CallMap.Proofs.Store

/-!
# Assembling a graph

Files are entered into a graph one after the other, node by node, and each node may replace another
one and fill in others. What is there in the end only depends on the list of all nodes.

* `IsLastOf`: the node of a list that counts.
* `Graph.node?_foldl_apply`, `Graph.mem_used_foldl_apply`: nodes and marks after any number of
  files.
* `Graph.foldl_apply_assembled`: the graph that is assembled from nothing.
-/

namespace CallMap

variable {nodes : List Node} {id : Symbol} {node : Node}

/-- A node of a list has a given symbol, and no node after it has. -/
def IsLastOf (nodes : List Node) (id : Symbol) (node : Node) : Prop :=
  node.id = id ∧ ∃ before after, nodes = before ++ node :: after ∧ ∀ other ∈ after, other.id ≠ id

/-- Searching a list of nodes from its end finds the last node of a symbol. -/
theorem findRev?_eq_some_iff : (nodes.findRev? fun node => node.id = id) = some node ↔
    IsLastOf nodes id node := by
  rw [List.findRev?_eq_find?_reverse, List.find?_eq_some_iff_append, IsLastOf, decide_eq_true_eq]
  refine and_congr Iff.rfl ?_
  -- What is found before it from the right is what stands after it from the left.
  constructor
  · rintro ⟨after, before, hnodes, hafter⟩
    refine ⟨before.reverse, after.reverse, ?_, by simpa using hafter⟩
    rw [← List.reverse_reverse nodes, hnodes]
    simp
  · rintro ⟨before, after, rfl, hafter⟩
    exact ⟨after.reverse, before.reverse, by simp, by simpa using hafter⟩

/-- The search finds nothing if no node has the symbol. -/
theorem findRev?_eq_none_iff : (nodes.findRev? fun node => node.id = id) = none ↔
    ∀ node ∈ nodes, node.id ≠ id := by
  simp [List.findRev?_eq_find?_reverse]

/-- A symbol that some node has, has a last node. -/
theorem exists_isLastOf (h : ∃ node ∈ nodes, node.id = id) : ∃ node, IsLastOf nodes id node := by
  obtain ⟨node, hnode, hid⟩ := h
  cases hfound : nodes.findRev? fun node => node.id = id with
  | none => exact absurd hid (findRev?_eq_none_iff.mp hfound node hnode)
  | some last => exact ⟨last, findRev?_eq_some_iff.mp hfound⟩

theorem IsLastOf.mem (h : IsLastOf nodes id node) : node ∈ nodes := by
  obtain ⟨-, before, after, rfl, -⟩ := h
  simp

namespace Graph

variable {graph : Graph} {contributions : List Contribution}

/-- The nodes of files, one file after the other. -/
def nodesOf (contributions : List Contribution) : List Node :=
  contributions.flatMap Contribution.nodes

/-- The schema references of several nodes are the objects of the schema that one of them refers
to. -/
theorem mem_flatMap_schemaRefs : id ∈ nodes.flatMap schemaRefs ↔
    id.kind.isSchema = true ∧ ∃ node ∈ nodes, id ∈ node.refs := by
  simp only [List.mem_flatMap, mem_schemaRefs]
  constructor
  · rintro ⟨node, hnode, hkind, hid⟩
    exact ⟨hkind, node, hnode, hid⟩
  · rintro ⟨hkind, node, hnode, hid⟩
    exact ⟨node, hnode, hkind, hid⟩

/-- Entering files is entering their nodes: the last node of a symbol stays, then comes what was
there before, and only then what has been filled in. -/
theorem node?_foldl_apply (contributions : List Contribution) (graph : Graph) (id : Symbol) :
    (contributions.foldl apply graph).node? id =
      (((nodesOf contributions).findRev? fun node => node.id = id).or (graph.node? id)).or
        (if id ∈ (nodesOf contributions).flatMap schemaRefs then some (.placeholder id)
          else none) := by
  induction contributions generalizing graph with
  | nil => simp [nodesOf]
  | cons contribution rest ih =>
    -- The nodes of the first file are entered before all others.
    have hnodes : nodesOf (contribution :: rest) = contribution.nodes ++ nodesOf rest :=
      List.flatMap_cons
    rw [List.foldl_cons, ih, node?_apply, node?_foldl_insert, hnodes, List.flatMap_append]
    simp only [List.findRev?_eq_find?_reverse, List.reverse_append, List.find?_append,
      List.mem_append]
    cases (nodesOf rest).reverse.find? fun node => node.id = id with
    | some last => simp
    | none =>
      cases contribution.nodes.reverse.find? fun node => node.id = id with
      | some last => simp
      | none =>
        cases graph.node? id with
        | some old => simp
        | none => by_cases hfirst : id ∈ contribution.nodes.flatMap schemaRefs <;> simp [hfirst]

/-- Entering files marks the objects of the schema that their nodes refer to, and what they name
themselves. -/
theorem mem_used_foldl_apply : id ∈ (contributions.foldl apply graph).used ↔
    id ∈ graph.used ∨ id ∈ (nodesOf contributions).flatMap schemaRefs ∨
      ∃ contribution ∈ contributions, id ∈ contribution.used := by
  induction contributions generalizing graph with
  | nil => simp [nodesOf]
  | cons contribution rest ih =>
    have hnodes : nodesOf (contribution :: rest) = contribution.nodes ++ nodesOf rest :=
      List.flatMap_cons
    rw [List.foldl_cons, ih, mem_used_apply, mem_used_foldl_insert, hnodes, List.flatMap_append,
      List.mem_append]
    simp only [List.mem_cons, exists_eq_or_imp]
    grind

/-- A graph holds what files contribute, entered in order into nothing. Which kinds are those of
schema objects is said by `Kind.isSchema_iff`. -/
structure Assembled (contributions : List Contribution) (graph : Graph) : Prop where
  /-- The last node of a symbol stays, whatever refers to it before or after. -/
  last {id : Symbol} {node : Node} : IsLastOf (nodesOf contributions) id node →
    graph.node? id = some node
  /-- A schema object without a node of its own has a placeholder if some node refers to it, and be
  it a node that has been replaced. -/
  placeholder {id : Symbol} : (∀ node ∈ nodesOf contributions, node.id ≠ id) →
    id.kind.isSchema = true → (∃ node ∈ nodesOf contributions, id ∈ node.refs) →
      graph.node? id = some { id, label := id.name, refs := ∅ }
  /-- Nothing else has a node. -/
  absent {id : Symbol} : (∀ node ∈ nodesOf contributions, node.id ≠ id) →
    ¬(id.kind.isSchema = true ∧ ∃ node ∈ nodesOf contributions, id ∈ node.refs) →
      graph.node? id = none
  /-- What counts as used: the schema objects that some node refers to, replaced nodes included, and
  what the files name. -/
  used {id : Symbol} : id ∈ graph.used ↔
    (id.kind.isSchema = true ∧ ∃ node ∈ nodesOf contributions, id ∈ node.refs) ∨
      ∃ contribution ∈ contributions, id ∈ contribution.used
  /-- Where there is a node of a symbol, no placeholder is left of it, whichever comes first. -/
  real {id : Symbol} : (∃ node ∈ nodesOf contributions, node.id = id) →
    ∃ node ∈ nodesOf contributions, graph.node? id = some node

/-- The graph of files that are entered in order. -/
theorem foldl_apply_assembled (contributions : List Contribution) :
    Assembled contributions (contributions.foldl apply {}) := by
  -- Nothing was there before, so a symbol has its last node or what has been filled in.
  have hnode (id : Symbol) : (contributions.foldl apply {}).node? id =
      ((nodesOf contributions).findRev? fun node => node.id = id).or
        (if id ∈ (nodesOf contributions).flatMap schemaRefs then some (.placeholder id)
          else none) := by
    rw [node?_foldl_apply, node?_empty, Option.or_none]
  have hlast {id : Symbol} {node : Node} (h : IsLastOf (nodesOf contributions) id node) :
      (contributions.foldl apply {}).node? id = some node := by
    rw [hnode, findRev?_eq_some_iff.mpr h, Option.some_or]
  constructor
  case last => exact hlast
  case placeholder =>
    intro id hnone hkind hrefs
    rw [hnode, findRev?_eq_none_iff.mpr hnone, Option.none_or,
      if_pos (mem_flatMap_schemaRefs.mpr ⟨hkind, hrefs⟩)]
    rfl
  case absent =>
    intro id hnone hrefs
    rw [hnode, findRev?_eq_none_iff.mpr hnone, Option.none_or,
      if_neg fun h => hrefs (mem_flatMap_schemaRefs.mp h)]
  case used =>
    intro id
    rw [mem_used_foldl_apply, mem_flatMap_schemaRefs]
    simp
  case real =>
    intro id hreal
    obtain ⟨node, hnode⟩ := exists_isLastOf hreal
    exact ⟨node, hnode.mem, hlast hnode⟩

end Graph

end CallMap
