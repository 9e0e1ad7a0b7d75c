import Mathlib.Data.List.Forall2
import CallMap.Proofs.Enumeration
import CallMap.Proofs.Provenance
import CallMap.Proofs.SchemaEntry
import CallMap.Proofs.TableLinks

/-!
# Units that nothing reaches

An orphan is a unit that could start a chain of calls, that is not known to be used, and that no
other unit refers to. Enrichment enters tables, fields and indexes, lets units refer to more tables,
and marks symbols as used. No reference to a unit comes about in this way. So a unit stops being an
orphan because it is marked and for no other reason, and no unit becomes one.

* `Graph.mem_orphans`: which nodes are orphans.
* `Graph.Enriches`: a graph differs from an earlier one in schema objects, references to tables and
  marks only.
* `Graph.orphans_reported`: the list of orphans, and what enrichment makes of it.
-/

namespace CallMap

/-- The kinds of units that are reported as orphans. -/
def Kind.entries : List Kind :=
  [.method, .form, .report, .procedure, .query, .importer, .exporter, .process]

/-- The kinds that can be orphans are the entries. -/
theorem Kind.isEntry_iff {kind : Kind} : kind.isEntry = true ↔ kind ∈ entries := by
  cases kind <;> decide

/-- No object of the schema can be an orphan. -/
theorem Kind.isSchema_of_mem_entries {kind : Kind} (h : kind ∈ entries) :
    kind.isSchema = false := by
  revert h
  cases kind <;> decide

namespace Graph

variable {graph after : Graph} {node : Node} {id : Symbol} {label : String}

/-! ### The list of orphans -/

/-- A symbol has a kind that can start a chain of calls, it is not used, and no node refers to it,
except perhaps its own. -/
def Unreached (graph : Graph) (id : Symbol) : Prop :=
  id.kind ∈ Kind.entries ∧ id ∉ graph.used ∧ ∀ source, graph.Refers source id → source = id

/-- Nothing but itself refers to what is unreached. -/
theorem unreached_iff_references : graph.Unreached id ↔ id.kind ∈ Kind.entries ∧ id ∉ graph.used ∧
    ∀ reference ∈ graph.references, reference.2 = id → reference.1 = id := by
  refine and_congr_right fun _ => and_congr_right fun _ => ?_
  rw [Prod.forall]
  refine forall_congr' fun source => ⟨?_, fun h hrefers => h id (mem_references.mpr hrefers) rfl⟩
  rintro h target hreference rfl
  exact h (mem_references.mp hreference)

instance (graph : Graph) (id : Symbol) : Decidable (graph.Unreached id) :=
  decidable_of_iff' _ unreached_iff_references

theorem not_isUsed_iff : (!graph.isUsed id) = true ↔ id ∉ graph.used := by
  rw [isUsed, Bool.not_eq_true', ← Bool.not_eq_true, Std.ExtTreeSet.contains_iff_mem]

/-- An orphan is a stored node that is unreached. -/
theorem isOrphan_iff (hnode : graph.node? node.id = some node) :
    graph.isOrphan (.ofGraph graph) node = true ↔ graph.Unreached node.id := by
  have hhas : graph.has node.id = true := by rw [has_eq_isSome, hnode]; rfl
  have halone : (graph.callers node.id).all (· == node.id) = true ↔
      ∀ source, graph.Refers source node.id → source = node.id := by
    simp only [List.all_eq_true, mem_callers, hhas, true_and, beq_iff_eq]
  rw [isOrphan, ← callers, Bool.and_eq_true, Bool.and_eq_true, Kind.isEntry_iff, not_isUsed_iff,
    halone, and_assoc]
  rfl

/-- The orphans are the stored nodes that are unreached. -/
theorem mem_orphans :
    node ∈ graph.orphans ↔ graph.node? node.id = some node ∧ graph.Unreached node.id := by
  rw [orphans, List.mem_filter, mem_listing]
  exact and_congr_right isOrphan_iff

/-- Orphans are listed by label, those of one label by key. -/
theorem pairwise_orphans (graph : Graph) : graph.orphans.Pairwise (LexLt Node.label (·.id.key)) :=
  (pairwise_listing graph).filter _

/-- What the report on orphans shows of a node. -/
def heading (node : Node) : String × Symbol :=
  (node.label, node.id)

/-- Orphans are sorted by label, with the key to break ties. -/
theorem pairwise_map_heading_orphans (graph : Graph) :
    (graph.orphans.map heading).Pairwise (LexLt Prod.fst (·.2.key)) :=
  List.pairwise_map.mpr (pairwise_orphans graph)

/-- What is shown of the orphans are the labels and symbols of what is unreached. -/
theorem mem_map_heading_orphans : (label, id) ∈ graph.orphans.map heading ↔
    graph.label? id = some label ∧ graph.Unreached id := by
  simp only [List.mem_map, mem_orphans, heading, Prod.mk.injEq, label?, Option.map_eq_some_iff]
  constructor
  · rintro ⟨node, ⟨hnode, hunreached⟩, rfl, rfl⟩
    exact ⟨⟨node, hnode, rfl⟩, hunreached⟩
  · rintro ⟨⟨node, hnode, rfl⟩, hunreached⟩
    obtain rfl := graph.keyed id node hnode
    exact ⟨node, ⟨hnode, hunreached⟩, rfl, rfl⟩

/-! ### Enrichment -/

/-- A graph differs from an earlier one in schema objects, references to tables and marks only, and
nothing has been taken away. -/
structure Enriches (graph after : Graph) : Prop where
  label (id : Symbol) : id.kind.isSchema = false → after.label? id = graph.label? id
  refers {source target : Symbol} : graph.Refers source target → after.Refers source target
  gained {source target : Symbol} : after.Refers source target →
    graph.Refers source target ∨ target.kind = .table
  used {id : Symbol} : id ∈ graph.used → id ∈ after.used

/-- A unit is reached by a mark or not at all. -/
theorem Enriches.unreached_iff (h : graph.Enriches after) :
    after.Unreached id ↔ graph.Unreached id ∧ id ∉ after.used := by
  constructor
  · rintro ⟨hentry, hunused, halone⟩
    refine ⟨⟨hentry, fun hused => hunused (h.used hused), ?_⟩, hunused⟩
    exact fun source hrefers => halone source (h.refers hrefers)
  · rintro ⟨⟨hentry, -, halone⟩, hunused⟩
    refine ⟨hentry, hunused, fun source hrefers => ?_⟩
    rcases h.gained hrefers with hbefore | htable
    · exact halone source hbefore
    · -- No table is a unit that could be an orphan.
      rw [htable] at hentry
      exact absurd hentry (by decide)

/-- Enrichment takes from the shown orphans those that it marks, and adds none. -/
theorem Enriches.map_heading_orphans (h : graph.Enriches after) :
    (graph.orphans.filter fun node => !after.isUsed node.id).map heading =
      after.orphans.map heading := by
  have hfilter : (graph.orphans.filter fun node => !after.isUsed node.id).map heading =
      (graph.orphans.map heading).filter fun shown => !after.isUsed shown.2 := by
    rw [List.filter_map]
    rfl
  rw [hfilter]
  -- Both lists ascend, so it is enough that they show the same.
  refine eq_of_pairwise_of_mem_iff LexLt.asymm ((pairwise_map_heading_orphans graph).filter _)
    (pairwise_map_heading_orphans after) ?_
  rintro ⟨label, id⟩
  rw [List.mem_filter, not_isUsed_iff, mem_map_heading_orphans, mem_map_heading_orphans,
    h.unreached_iff, and_assoc]
  refine and_congr_left fun hunreached => ?_
  rw [h.label id (Kind.isSchema_of_mem_entries hunreached.1.1)]

/-- A node of a graph and the one that it has become. -/
structure Becomes (node later : Node) : Prop where
  id : later.id = node.id
  label : later.label = node.label
  /-- References stay. -/
  refs (target : Symbol) : target ∈ node.refs → target ∈ later.refs
  /-- References that have come in lead to tables. -/
  gained (target : Symbol) : target ∈ later.refs → target ∈ node.refs ∨ target.kind = .table

/-- A node with the same label and symbol keeps its references, and has more only to tables. -/
theorem Enriches.becomes {later : Node} (h : graph.Enriches after)
    (hnode : graph.node? node.id = some node) (hlater : after.node? later.id = some later)
    (hheading : heading node = heading later) : Becomes node later := by
  obtain ⟨hlabel, hid⟩ := Prod.mk.inj hheading
  rw [← hid] at hlater
  refine ⟨hid.symm, hlabel.symm, fun target => ?_, fun target => ?_⟩
  · rw [← Refers.iff_of_node? hnode, ← Refers.iff_of_node? hlater]
    exact h.refers
  · rw [← Refers.iff_of_node? hnode, ← Refers.iff_of_node? hlater]
    exact h.gained

/-- The orphans after enrichment are the earlier ones that were not marked, in the same order. -/
theorem Enriches.orphans (h : graph.Enriches after) :
    List.Forall₂ Becomes (graph.orphans.filter fun node => !after.isUsed node.id)
      after.orphans := by
  have hheadings := h.map_heading_orphans
  rw [← List.forall₂_eq_eq_eq, List.forall₂_map_left_iff, List.forall₂_map_right_iff,
    List.forall₂_iff_zip] at hheadings
  refine List.forall₂_iff_zip.mpr ⟨hheadings.1, fun {node later} hpair => ?_⟩
  -- Nodes in the same place show the same, so they are nodes of one symbol in the two graphs.
  obtain ⟨hnode, hlater⟩ := List.of_mem_zip hpair
  exact h.becomes (mem_orphans.mp (List.mem_of_mem_filter hnode)).1 (mem_orphans.mp hlater).1
    (hheadings.2 hpair)

/-- Two procedures, one of which calls itself and refers to an index. -/
def sampleUnits : Graph :=
  [{ id := ⟨"i", .index⟩, label := "I", refs := Std.ExtTreeSet.empty.insert ⟨"t", .table⟩ },
    { id := ⟨"p", .procedure⟩, label := "P", refs := ∅ },
    { id := ⟨"q", .procedure⟩, label := "Q",
      refs := (Std.ExtTreeSet.empty.insert ⟨"q", .procedure⟩).insert ⟨"i", .index⟩ }].foldl
    insert {}

end Graph

end CallMap
