import Mathlib.Logic.Function.Iterate
import CallMap.Proofs.Dangling
import CallMap.Proofs.Provenance
import CallMap.Proofs.TableLinks

/-!
# The shape of the schema

Files only define units of code, and the schema lets indexes and fields refer to their tables. So in
a graph that is built from files and schemas, references between objects of the schema are one step
long: from an index or a field to a table. Nothing in a graph forces that; it lasts through every
operation.

It is what makes linking tables complete, although it looks through one index only: behind an index
there is no other one.

* `Graph.SchemaFlat.perform`: an operation leaves the schema flat.
* `Graph.SchemaFlat.chainsCut`: no chain of two indexes is left to follow.
* `Graph.built_schema_shape`: the shape of every graph, and what linking does to it.
-/

namespace CallMap.Graph

variable {graph : Graph} {operation : Operation} {operations : List Operation}

/-- Of the objects of the schema only indexes and fields refer to anything, and that is a table. -/
def SchemaFlat (graph : Graph) : Prop :=
  ∀ source target, graph.Refers source target → source.kind.isSchema = true →
    (source.kind = .index ∨ source.kind = .field) ∧ target.kind = .table

theorem schemaFlat_empty : ({} : Graph).SchemaFlat :=
  fun _ _ hrefers => absurd hrefers not_refers_empty

/-- No operation gives an object of the schema another reference than one from an index or a field
to a table. -/
theorem SchemaFlat.perform (hfiles : operation.FromFiles) (h : graph.SchemaFlat) :
    (operation.perform graph).SchemaFlat := by
  intro source target hrefers hsource
  rcases Operation.refers_perform hrefers with hbefore | ⟨node, hnode, rfl, -⟩ |
    ⟨htable, -, hmember⟩ | ⟨-, index, hindex, hthrough, -⟩
  · exact h source target hbefore hsource
  · -- Units that come from files are no objects of the schema.
    obtain ⟨contribution, ⟨tokenizer, file, bytes, hdecoded⟩, hunit⟩ := hfiles node hnode
    rw [Contribution.isSchema_id hdecoded hunit] at hsource
    cases hsource
  · exact ⟨hmember, htable⟩
  · -- A link would start at an object that refers to an index, where there are only tables.
    have htable := (h source index hthrough hsource).2
    rw [hindex] at htable
    cases htable

/-- Among the objects of the schema, only indexes and fields refer to anything, and only to
tables. -/
theorem built_schemaFlat (h : ∀ operation ∈ operations, operation.FromFiles) :
    (built operations).SchemaFlat :=
  built_induction schemaFlat_empty
    fun _ operation hoperation hbefore => hbefore.perform (h operation hoperation)

/-- No chain of two indexes leads anywhere, since there is none. -/
theorem SchemaFlat.chainsCut (h : graph.SchemaFlat) : graph.ChainsCut := by
  rintro source table - ⟨outer, inner, houter, hinner, -, hchain, -⟩
  have htable := (h outer inner hchain (by rw [houter]; rfl)).2
  rw [hinner] at htable
  cases htable

/-- After one round of linking, every further round changes nothing. -/
theorem ChainsCut.iterate_linkTables (h : graph.ChainsCut) (rounds : Nat) :
    linkTables^[rounds + 1] graph = graph.linkTables := by
  have hfixed : graph.linkTables.linkTables = graph.linkTables :=
    linkTables_eq_self_iff.mpr (isLinked_linkTables_iff.mpr h)
  rw [Function.iterate_succ_apply, Function.iterate_fixed hfixed]

/-- The kinds of units that nothing refers to. -/
def unreferred : List Kind :=
  [.form, .report, .query, .importer, .exporter, .process, .library, .unknown]

/-- What files refer to is never of a kind that nothing refers to. -/
theorem notMem_unreferred {kind : Kind}
    (h : kind.isSchema = true ∨ kind = .method ∨ kind = .procedure) : kind ∉ unreferred := by
  revert h
  cases kind <;> decide

/-- What the references in a graph look like, and what linking tables comes to. -/
structure SchemaShape (graph : Graph) : Prop where
  /-- Indexes and fields only refer to tables. -/
  member_refers {id target : Symbol} {node : Node} : graph.node? id = some node →
    (id.kind = .index ∨ id.kind = .field) → target ∈ node.refs → target.kind = .table
  /-- Tables and work areas refer to nothing. -/
  no_references {id : Symbol} {node : Node} : graph.node? id = some node →
    (id.kind = .table ∨ id.kind = .workArea) → node.refs = ∅
  /-- Nothing refers to a unit that cannot be called. -/
  not_referred {id target : Symbol} {node : Node} : graph.node? id = some node →
    target ∈ node.refs → target.kind ∉ unreferred
  /-- Linking tables once is as good as linking them any number of times. -/
  linked_once (rounds : Nat) : linkTables^[rounds + 1] graph = graph.linkTables
  /-- A second round has nothing to add. -/
  nothing_left : graph.linkTables.tableLinkCount = 0

/-- However a graph is built from files and schemas, its schema is flat and is linked in one
round. -/
theorem built_schema_shape (h : ∀ operation ∈ operations, operation.FromFiles) :
    SchemaShape (built operations) := by
  have hflat := built_schemaFlat h
  constructor
  case member_refers =>
    intro id target node hnode hkind htarget
    have hschema : id.kind.isSchema = true := by
      rw [Kind.isSchema_iff]
      rcases hkind with hkind | hkind <;> simp [hkind]
    exact (hflat id target ⟨node, hnode, htarget⟩ hschema).2
  case no_references =>
    intro id node hnode hkind
    have hschema : id.kind.isSchema = true := by
      rw [Kind.isSchema_iff]
      rcases hkind with hkind | hkind <;> simp [hkind]
    refine Std.ExtTreeSet.eq_empty_iff_forall_not_mem.mpr fun target htarget => ?_
    -- Whatever refers to something is an index or a field, and no other kind.
    have hmember := (hflat id target ⟨node, hnode, htarget⟩ hschema).1
    rcases hkind with hkind | hkind <;> simp [hkind] at hmember
  case not_referred =>
    intro id target node hnode htarget
    exact notMem_unreferred (built_refersByKind h id target ⟨node, hnode, htarget⟩)
  case linked_once => exact hflat.chainsCut.iterate_linkTables
  case nothing_left =>
    exact tableLinkCount_eq_zero_iff.mpr (isLinked_linkTables_iff.mpr hflat.chainsCut)

/-- A method that refers to an index comes from a file, and a schema has the index under a table.
Tables are linked before the schema is known, and once more after it. -/
def sampleOperations : List Operation :=
  [.apply Analysis.sampleContribution, .linkTables, .markUsed ⟨"m", .method⟩,
    .enterSchema Analysis.sampleTables, .linkTables]

/-- A method, its index and its table have this shape. -/
theorem built_schema_shape_sampleOperations :
    (∀ operation ∈ sampleOperations, operation.FromFiles) ∧
      (built sampleOperations).Refers ⟨"m", .method⟩ ⟨"t", .table⟩ ∧
        SchemaShape (built sampleOperations) := by
  have hdecoded : Analysis.sampleContribution.IsDecoded := by
    obtain ⟨bytes, hbytes⟩ := Analysis.decodes_sampleFile.exists_ofBytes
    exact ⟨_, _, bytes, hbytes⟩
  have hfiles : ∀ operation ∈ sampleOperations, operation.FromFiles := by
    intro operation hoperation node hnode
    simp only [sampleOperations, List.mem_cons, List.not_mem_nil, or_false] at hoperation
    rcases hoperation with rfl | rfl | rfl | rfl | rfl
    · exact ⟨_, hdecoded, hnode⟩
    all_goals cases hnode
  refine ⟨hfiles, ?_, built_schema_shape hfiles⟩
  have hrefs : ((built sampleOperations).node? ⟨"m", .method⟩).map (·.refs.contains ⟨"t", .table⟩) =
      some true := by decide +kernel
  obtain ⟨node, hnode, htarget⟩ := Option.map_eq_some_iff.mp hrefs
  exact ⟨node, hnode, Std.ExtTreeSet.contains_iff_mem.mp htarget⟩

end CallMap.Graph
