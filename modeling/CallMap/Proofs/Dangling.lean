import Mathlib.Data.List.Induction
import CallMap.Proofs.Contribution
import CallMap.Proofs.Drawing
import CallMap.Proofs.Store

/-!
# References that lead nowhere

Only units of code can be missing from a graph. The objects of the schema that something refers to
are there, however the graph was built: most operations enter no such object, but they only bring in
references to symbols that have a node, or that something referred to before.

* `Operation.refers_perform`: what a node can refer to after an operation.
* `Graph.built_induction`: what every operation preserves holds of every graph that is built.
* `Graph.Complete`: no reference to an object of the schema leads nowhere.
* `Graph.built_dangles_nowhere`: what is known of every graph, and what is missing from it.
-/

namespace CallMap

/-- What is done to a graph while it is built. -/
inductive Operation
  /-- A node is entered. -/
  | insert (node : Node)
  /-- What a file contributes is entered. -/
  | apply (contribution : Contribution)
  /-- A symbol is counted as used. -/
  | markUsed (id : Symbol)
  /-- The tables of a schema are entered. -/
  | enterSchema (tables : List Schema.Table)
  /-- References to tables are added through their indexes. -/
  | linkTables

/-- A contribution is what some file gives. -/
def Contribution.IsDecoded (contribution : Contribution) : Prop :=
  ∃ tokenizer file bytes, (ofBytes tokenizer file bytes).outcome = .ok contribution

namespace Operation

/-- The graph after an operation. -/
def perform (graph : Graph) : Operation → Graph
  | insert node => graph.insert node
  | apply contribution => graph.apply contribution
  | markUsed id => graph.markUsed id
  | enterSchema tables => Schema.enter graph tables
  | linkTables => graph.linkTables

/-- The nodes that an operation enters as they are. -/
def entered : Operation → List Node
  | insert node => [node]
  | apply contribution => contribution.nodes
  | markUsed _ | enterSchema _ | linkTables => []

/-- The nodes that an operation enters are units of files. -/
def FromFiles (operation : Operation) : Prop :=
  ∀ node ∈ operation.entered, ∃ contribution : Contribution,
    contribution.IsDecoded ∧ node ∈ contribution.nodes

variable {graph : Graph} {operation : Operation} {id source target : Symbol} {node : Node}

/-- No operation removes a node. -/
theorem has_perform (h : graph.has id = true) : (operation.perform graph).has id = true := by
  cases operation with
  | insert node => exact (@Graph.has_foldl_insert graph id [node]).mpr (.inr (.inl h))
  | apply contribution =>
    rw [perform, Graph.has_apply]
    exact Graph.has_foldl_insert.mpr (.inr (.inl h))
  | markUsed mark => exact h
  | enterSchema tables => exact Schema.has_enter.mpr (.inl h)
  | linkTables => rwa [perform, Graph.has_linkTables]

/-- The objects of the schema that an entered node refers to are there afterwards. -/
theorem has_perform_of_entered (hnode : node ∈ operation.entered) (htarget : target ∈ node.refs)
    (hkind : target.kind.isSchema = true) : (operation.perform graph).has target = true := by
  have hfilled : target ∈ operation.entered.flatMap Graph.schemaRefs :=
    List.mem_flatMap.mpr ⟨node, hnode, Graph.mem_schemaRefs.mpr ⟨hkind, htarget⟩⟩
  cases operation with
  | insert node => exact (@Graph.has_foldl_insert graph target [node]).mpr (.inr (.inr hfilled))
  | apply contribution =>
    rw [perform, Graph.has_apply]
    exact Graph.has_foldl_insert.mpr (.inr (.inr hfilled))
  | markUsed | enterSchema | linkTables => cases hnode

/-- All that a node can refer to after an operation: what it referred to before; what it refers to
as the operation enters it; its table, if it is an index or a field; and the table of an index that
it referred to before. -/
theorem refers_perform (h : (operation.perform graph).Refers source target) :
    graph.Refers source target ∨
      (∃ node ∈ operation.entered, node.id = source ∧ target ∈ node.refs) ∨
      (target.kind = .table ∧ (operation.perform graph).has target = true ∧
        (source.kind = .index ∨ source.kind = .field)) ∨
      target.kind = .table ∧
        ∃ index, index.kind = .index ∧ graph.Refers source index ∧ graph.Refers index target := by
  -- One case for each operation. Only a schema and linking bring references of their own.
  cases operation with
  | insert node =>
    exact (@Graph.Refers.of_foldl_insert graph source target [node] h).imp_right .inl
  | apply contribution => exact (Graph.refers_apply.mp h).of_foldl_insert.imp_right .inl
  | markUsed mark => exact .inl h
  | enterSchema tables =>
    rcases Schema.refers_enter.mp h with hbefore | ⟨table, htable, rfl, howns⟩
    · exact .inl hbefore
    · -- A table is entered before its indexes and fields refer to it.
      refine .inr (.inr (.inl ⟨rfl, Schema.has_enter.mpr (.inr ⟨table, htable, .inl rfl⟩), ?_⟩))
      rcases howns with ⟨name, -, rfl⟩ | ⟨name, -, rfl⟩
      · exact .inl rfl
      · exact .inr rfl
  | linkTables => exact (Graph.refers_linkTables.mp h).imp_right fun hlink => .inr (.inr hlink)

/-- What is referred to after an operation was so before, or a node that the operation enters refers
to it, or it is a table with a node. -/
theorem referred_perform (h : (operation.perform graph).Refers source target) :
    (∃ other, graph.Refers other target) ∨ (∃ node ∈ operation.entered, target ∈ node.refs) ∨
      target.kind = .table ∧ (operation.perform graph).has target = true := by
  rcases refers_perform h with hbefore | ⟨node, hnode, -, htarget⟩ | ⟨hkind, hhas, -⟩ |
    ⟨-, index, -, -, hindex⟩
  · exact .inl ⟨source, hbefore⟩
  · exact .inr (.inl ⟨node, hnode, htarget⟩)
  · exact .inr (.inr ⟨hkind, hhas⟩)
  · -- The table is no new one: its index refers to it.
    exact .inl ⟨index, hindex⟩

end Operation

namespace Graph

variable {graph : Graph} {operation : Operation} {operations : List Operation}

/-- Every object of the schema that some node refers to has a node. -/
def Complete (graph : Graph) : Prop :=
  ∀ source target, graph.Refers source target → target.kind.isSchema = true →
    graph.has target = true

/-- No node refers to anything but objects of the schema, methods and public procedures. -/
def RefersByKind (graph : Graph) : Prop :=
  ∀ source target, graph.Refers source target →
    target.kind.isSchema = true ∨ target.kind = .method ∨ target.kind = .procedure

/-- Every operation keeps references to objects of the schema from dangling. -/
theorem Complete.perform (h : graph.Complete) : (operation.perform graph).Complete := by
  intro source target hrefers hkind
  rcases Operation.referred_perform hrefers with ⟨other, hother⟩ | ⟨node, hnode, htarget⟩ |
    ⟨-, hhas⟩
  · exact Operation.has_perform (h other target hother hkind)
  · exact Operation.has_perform_of_entered hnode htarget hkind
  · exact hhas

/-- Operations that come from files refer to objects of the schema, methods and procedures only. -/
theorem RefersByKind.perform (hfiles : operation.FromFiles) (h : graph.RefersByKind) :
    (operation.perform graph).RefersByKind := by
  intro source target hrefers
  rcases Operation.referred_perform hrefers with ⟨other, hother⟩ | ⟨node, hnode, htarget⟩ |
    ⟨hkind, -⟩
  · exact h other target hother
  · obtain ⟨contribution, ⟨tokenizer, file, bytes, hdecoded⟩, hunit⟩ := hfiles node hnode
    exact Contribution.kind_of_mem_refs hdecoded hunit htarget
  · exact .inl (hkind ▸ rfl)

/-- The graph that operations build from nothing. -/
def built (operations : List Operation) : Graph :=
  operations.foldl Operation.perform {}

/-- What holds of the empty graph and outlasts every operation holds of the graph that is built. -/
theorem built_induction {motive : Graph → Prop} (hempty : motive {})
    (hperform : ∀ graph : Graph, ∀ operation ∈ operations,
      motive graph → motive (operation.perform graph)) : motive (built operations) := by
  induction operations using List.reverseRecOn with
  | nil => exact hempty
  | append_singleton before operation ih =>
    rw [built, List.foldl_concat]
    refine hperform _ operation (by simp) (ih fun graph earlier hearlier => ?_)
    exact hperform graph earlier (List.mem_append_left _ hearlier)

/-- However a graph is built, no reference to an object of the schema dangles. -/
theorem built_complete (operations : List Operation) : (built operations).Complete :=
  built_induction (fun _ _ hrefers => absurd hrefers not_refers_empty) fun _ _ _ h => h.perform

theorem built_refersByKind (h : ∀ operation ∈ operations, operation.FromFiles) :
    (built operations).RefersByKind :=
  built_induction (fun _ _ hrefers => absurd hrefers not_refers_empty)
    fun _ operation hoperation hbefore => hbefore.perform (h operation hoperation)

/-- A missing symbol is one that some node refers to and that has no node. -/
theorem refers_of_mem_missingListing {target : Symbol} (h : target ∈ graph.missingListing) :
    graph.has target = false ∧ ∃ source, graph.Refers source target := by
  obtain ⟨hmissing, node, hnode, htarget⟩ := mem_missingListing.mp h
  exact ⟨hmissing, node.id, node, mem_listing.mp hnode, htarget⟩

/-- What is missing from such a graph is no object of the schema. -/
theorem Complete.isSchema_of_missing (h : graph.Complete) {target : Symbol}
    (hmissing : target ∈ graph.missingListing) : target.kind.isSchema = false := by
  obtain ⟨hnone, source, hrefers⟩ := refers_of_mem_missingListing hmissing
  by_contra hkind
  have hhas := h source target hrefers (by simpa using hkind)
  simp [hnone] at hhas

/-- What is drawn as missing is what the graph misses. -/
theorem mem_missingListing_of_drawn {id : Symbol} {label : String} {tags : List String}
    (hdrawn : .node id label tags ∈ Diagram.ofGraph graph) (htag : Diagram.missingTag ∈ tags) :
    id ∈ graph.missingListing := by
  have hstroke : Stroke.node id label tags ∈ (Diagram.ofGraph graph).filter Stroke.isMissing :=
    List.mem_filter.mpr ⟨hdrawn, List.contains_iff_mem.mpr htag⟩
  rw [Diagram.filter_isMissing] at hstroke
  obtain ⟨other, hother, heq⟩ := List.mem_map.mp hstroke
  obtain ⟨rfl, -⟩ := Stroke.node.inj heq
  exact hother

/-- What is known of the references in a graph that operations have built. Which kinds are those of
schema objects is said by `Kind.isSchema_iff`. -/
structure DanglesNowhere (operations : List Operation) (graph : Graph) : Prop where
  /-- Every node stands under its own symbol. -/
  own_symbol {id : Symbol} {node : Node} : graph.node? id = some node → node.id = id
  /-- The objects of the schema that a node refers to have nodes. -/
  schema_reference {id target : Symbol} {node : Node} : graph.node? id = some node →
    target ∈ node.refs → target.kind.isSchema = true → ∃ found, graph.node? target = some found
  /-- No object of the schema is missing. -/
  missing {target : Symbol} : target ∈ graph.missingListing → target.kind.isSchema = false
  /-- If all nodes that were entered come from files, then only methods and public procedures are
  missing. -/
  missing_kind {target : Symbol} : (∀ operation ∈ operations, operation.FromFiles) →
    target ∈ graph.missingListing → target.kind = .method ∨ target.kind = .procedure
  /-- Neither is anything else drawn as missing. -/
  drawn_missing_kind {id : Symbol} {label : String} {tags : List String} :
    (∀ operation ∈ operations, operation.FromFiles) → .node id label tags ∈ Diagram.ofGraph graph →
      Diagram.missingTag ∈ tags → id.kind = .method ∨ id.kind = .procedure

/-- No reference to an object of the schema leads nowhere, in whatever order a graph was built. -/
theorem built_dangles_nowhere (operations : List Operation) :
    DanglesNowhere operations (built operations) := by
  have hcomplete := built_complete operations
  -- What is missing is referred to, and no object of the schema is missing.
  have hmissing {target : Symbol} (hfiles : ∀ operation ∈ operations, operation.FromFiles)
      (h : target ∈ (built operations).missingListing) :
      target.kind = .method ∨ target.kind = .procedure := by
    obtain ⟨-, source, hrefers⟩ := refers_of_mem_missingListing h
    rcases built_refersByKind hfiles source target hrefers with hkind | hkind
    · exact absurd hkind (by simp [hcomplete.isSchema_of_missing h])
    · exact hkind
  constructor
  case own_symbol => exact (built operations).keyed _ _
  case schema_reference =>
    intro id target node hnode htarget hkind
    have hhas := hcomplete id target ⟨node, hnode, htarget⟩ hkind
    rwa [has_eq_isSome, Option.isSome_iff_exists] at hhas
  case missing => exact hcomplete.isSchema_of_missing
  case missing_kind => exact hmissing
  case drawn_missing_kind =>
    intro id label tags hfiles hdrawn htag
    exact hmissing hfiles (mem_missingListing_of_drawn hdrawn htag)

end Graph

end CallMap
