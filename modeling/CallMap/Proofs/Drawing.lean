import Mathlib.Data.List.Nodup
import CallMap.Analysis
import CallMap.Diagram
import CallMap.Proofs.Listing

/-!
# Drawing a graph

The strokes that draw a graph hold all of it, each thing once. The missing symbols are collected
while references are drawn, without a look at `Graph.missing`; the two agree.

* `Diagram.undrawn_eq_missingListing`: the symbols drawn as missing are those that the graph misses.
* `Diagram.ofGraph_faithful`: what the strokes are, what they hold, and how many there are.
-/

namespace CallMap

namespace Stroke

/-- The symbol that a stroke draws as a node. -/
def drawn? : Stroke → Option Symbol
  | .node id _ _ => some id
  | _ => none

/-- Whether a stroke draws a node of the graph. -/
def isPresent : Stroke → Bool
  | .node _ _ tags => !tags.contains Diagram.missingTag
  | _ => false

/-- Whether a stroke draws a reference. -/
def isReference : Stroke → Bool
  | .reference _ _ => true
  | _ => false

/-- Whether a stroke draws a missing symbol. -/
def isMissing : Stroke → Bool
  | .node _ _ tags => tags.contains Diagram.missingTag
  | _ => false

end Stroke

namespace Diagram

variable {graph : Graph}

/-! ### Missing symbols -/

/-- What turns up among the references of one node. -/
theorem mem_foldl_unless_has {targets : List Symbol} {found : SymbolSet} {target : Symbol} :
    target ∈ targets.foldl
        (fun found target => if graph.has target then found else found.insert target) found ↔
      target ∈ found ∨ graph.has target = false ∧ target ∈ targets := by
  induction targets generalizing found with
  | nil => simp
  | cons other rest ih =>
    rw [List.foldl_cons, ih, List.mem_cons]
    by_cases hother : graph.has other = true
    · -- A target with a node is passed over, so it is none of those looked for.
      rw [if_pos hother]
      have hne : graph.has target = false → target ≠ other := by
        rintro hfalse rfl
        exact absurd hother (by simp [hfalse])
      constructor
      · rintro (hfound | ⟨hfalse, hrest⟩)
        · exact .inl hfound
        · exact .inr ⟨hfalse, .inr hrest⟩
      · rintro (hfound | ⟨hfalse, heq | hrest⟩)
        · exact .inl hfound
        · exact absurd heq (hne hfalse)
        · exact .inr ⟨hfalse, hrest⟩
    -- A target without a node is one of those looked for.
    · rw [if_neg hother, Std.ExtTreeSet.mem_insert, Std.LawfulEqCmp.compare_eq_iff_eq]
      constructor
      · rintro ((rfl | hfound) | ⟨hfalse, hrest⟩)
        · exact .inr ⟨by simpa using hother, .inl rfl⟩
        · exact .inl hfound
        · exact .inr ⟨hfalse, .inr hrest⟩
      · rintro (hfound | ⟨hfalse, rfl | hrest⟩)
        · exact .inl (.inr hfound)
        · exact .inl (.inl rfl)
        · exact .inr ⟨hfalse, hrest⟩

/-- One node adds its targets that the graph lacks. -/
theorem mem_collectMissing {found : SymbolSet} {node : Node} {target : Symbol} :
    target ∈ collectMissing graph found node ↔
      target ∈ found ∨ graph.has target = false ∧ target ∈ node.refs := by
  rw [collectMissing, mem_foldl_unless_has, Node.mem_sortedRefs]

/-- What turns up among the references of several nodes. -/
theorem mem_foldl_collectMissing {nodes : List Node} {found : SymbolSet} {target : Symbol} :
    target ∈ nodes.foldl (collectMissing graph) found ↔
      target ∈ found ∨ graph.has target = false ∧ ∃ node ∈ nodes, target ∈ node.refs := by
  induction nodes generalizing found with
  | nil => simp
  | cons node rest ih =>
    rw [List.foldl_cons, ih, mem_collectMissing, or_assoc, ← and_or_left]
    simp only [List.mem_cons, exists_eq_or_imp]

/-- The symbols that are drawn as missing are those that the graph misses, in the same order. -/
theorem undrawn_eq_missingListing (graph : Graph) : undrawn graph = graph.missingListing := by
  have hset : graph.listing.foldl (collectMissing graph) ∅ = graph.missing := by
    refine Std.ExtTreeSet.ext_mem fun target => ?_
    rw [mem_foldl_collectMissing, Graph.mem_missing]
    simp
  rw [undrawn, hset, Graph.missingListing]

/-! ### Strokes -/

/-- A drawing consists of the nodes, their references and the missing nodes, between a start and an
end. -/
theorem ofGraph_eq (graph : Graph) : ofGraph graph =
    .start :: graph.listing.map (nodeStroke graph) ++ graph.listing.flatMap referenceStrokes
      ++ graph.missingListing.map missingStroke ++ [.finish] := by
  rw [ofGraph, undrawn_eq_missingListing]

/-- No node of the graph is tagged as missing. -/
theorem missingTag_notMem_nodeStroke (node : Node) :
    missingTag ∉ node.id.kind.tag :: if graph.isUsed node.id then [usedTag] else [] := by
  -- No kind has the word for missing symbols as its tag.
  have hkind : missingTag ≠ node.id.kind.tag := by
    cases node.id.kind <;> decide
  have hused : missingTag ≠ usedTag := by decide
  split <;> simp [hkind, hused]

theorem isMissing_nodeStroke (node : Node) : (nodeStroke graph node).isMissing = false := by
  rw [Bool.eq_false_iff, nodeStroke, Stroke.isMissing, Ne, List.contains_iff_mem]
  exact missingTag_notMem_nodeStroke node

theorem isPresent_nodeStroke (node : Node) : (nodeStroke graph node).isPresent = true := by
  rw [nodeStroke, Stroke.isPresent, Bool.not_eq_true', ← Bool.not_eq_true, List.contains_iff_mem]
  exact missingTag_notMem_nodeStroke node

theorem isMissing_missingStroke (id : Symbol) : (missingStroke id).isMissing = true := by
  simp [Stroke.isMissing, missingStroke]

theorem isPresent_missingStroke (id : Symbol) : (missingStroke id).isPresent = false := by
  simp [Stroke.isPresent, missingStroke]

/-- The references of nodes are drawn as references. -/
theorem eq_reference_of_mem {nodes : List Node} {stroke : Stroke}
    (h : stroke ∈ nodes.flatMap referenceStrokes) :
    ∃ source target, stroke = .reference source target := by
  obtain ⟨node, -, hstroke⟩ := List.mem_flatMap.mp h
  obtain ⟨target, -, rfl⟩ := List.mem_map.mp hstroke
  exact ⟨_, _, rfl⟩

/-- The strokes of one sort, where a test tells the three sorts apart. -/
theorem filter_ofGraph {test : Stroke → Bool} {nodes references missing : Bool}
    (hstart : test .start = false) (hfinish : test .finish = false)
    (hnodes : ∀ node, test (nodeStroke graph node) = nodes)
    (hreferences : ∀ source target, test (.reference source target) = references)
    (hmissing : ∀ id, test (missingStroke id) = missing) :
    (ofGraph graph).filter test =
      (if nodes then graph.listing.map (nodeStroke graph) else []) ++
        (if references then graph.listing.flatMap referenceStrokes else []) ++
          if missing then graph.missingListing.map missingStroke else [] := by
  -- The strokes of each group pass the test together or not at all.
  have hnodeStrokes : (graph.listing.map (nodeStroke graph)).filter test =
      if nodes then graph.listing.map (nodeStroke graph) else [] := by
    cases nodes <;> simp [hnodes]
  have hreferenceStrokes : (graph.listing.flatMap referenceStrokes).filter test =
      if references then graph.listing.flatMap referenceStrokes else [] := by
    have htest : ∀ stroke ∈ graph.listing.flatMap referenceStrokes, test stroke = references := by
      intro stroke hstroke
      obtain ⟨source, target, rfl⟩ := eq_reference_of_mem hstroke
      exact hreferences source target
    cases references with
    | false => exact List.filter_eq_nil_iff.mpr fun stroke hstroke => by simp [htest stroke hstroke]
    | true => exact List.filter_eq_self.mpr htest
  have hmissingStrokes : (graph.missingListing.map missingStroke).filter test =
      if missing then graph.missingListing.map missingStroke else [] := by
    cases missing <;> simp [hmissing]
  rw [ofGraph_eq, List.filter_append, List.filter_append, List.filter_append, hmissingStrokes,
    hreferenceStrokes, List.filter_cons_of_neg (by simp [hstart]), hnodeStrokes]
  simp [hfinish]

/-- The nodes that are drawn as present are those of the graph, in order. -/
theorem filter_isPresent (graph : Graph) :
    (ofGraph graph).filter Stroke.isPresent = graph.listing.map (nodeStroke graph) := by
  rw [filter_ofGraph rfl rfl isPresent_nodeStroke (fun _ _ => rfl) isPresent_missingStroke]
  simp

/-- The references that are drawn are those of the nodes, in order. -/
theorem filter_isReference (graph : Graph) :
    (ofGraph graph).filter Stroke.isReference = graph.listing.flatMap referenceStrokes := by
  rw [filter_ofGraph rfl rfl (fun _ => rfl) (fun _ _ => rfl) (fun _ => rfl)]
  simp

/-- The nodes that are drawn as missing are the missing symbols, in order. -/
theorem filter_isMissing (graph : Graph) :
    (ofGraph graph).filter Stroke.isMissing = graph.missingListing.map missingStroke := by
  rw [filter_ofGraph rfl rfl isMissing_nodeStroke (fun _ _ => rfl) isMissing_missingStroke]
  simp

/-! ### Symbols drawn -/

/-- The graph's nodes are drawn first, and then the missing ones. -/
theorem drawn_ofGraph (graph : Graph) :
    (ofGraph graph).filterMap Stroke.drawn? = graph.listing.map Node.id ++
      graph.missingListing := by
  -- Nodes are drawn under their symbols, references draw nothing.
  have hnodes : (graph.listing.map (nodeStroke graph)).filterMap Stroke.drawn? =
      graph.listing.map Node.id := by
    rw [List.filterMap_map, ← List.filterMap_eq_map]
    rfl
  have hreferences : (graph.listing.flatMap referenceStrokes).filterMap Stroke.drawn? = [] := by
    rw [List.filterMap_eq_nil_iff]
    intro stroke hstroke
    obtain ⟨source, target, rfl⟩ := eq_reference_of_mem hstroke
    rfl
  have hmissing : (graph.missingListing.map missingStroke).filterMap Stroke.drawn? =
      graph.missingListing := by
    rw [List.filterMap_map]
    exact List.filterMap_some
  rw [ofGraph_eq, List.filterMap_append, List.filterMap_append, List.filterMap_append, hmissing,
    hreferences, List.filterMap_cons_none rfl, hnodes]
  simp [Stroke.drawn?]

/-- No symbol is drawn twice. -/
theorem nodup_drawn (graph : Graph) : ((ofGraph graph).filterMap Stroke.drawn?).Nodup := by
  rw [drawn_ofGraph, List.nodup_append]
  refine ⟨graph.nodup_map_id_listing, graph.nodup_missingListing, ?_⟩
  -- What is drawn as a node has one, what is drawn as missing has none.
  rintro id hid other hother rfl
  obtain ⟨node, hnode, rfl⟩ := List.mem_map.mp hid
  have hmissing := (Graph.mem_missingListing.mp hother).1
  exact absurd (Graph.has_iff.mpr ⟨node, hnode, rfl⟩) (by simp [hmissing])

/-- A reference is drawn exactly if a node of the graph has it. -/
theorem reference_mem_ofGraph {source target : Symbol} : .reference source target ∈ ofGraph graph ↔
    ∃ node ∈ graph.listing, target ∈ node.refs ∧ node.id = source := by
  have hmem : Stroke.reference source target ∈ ofGraph graph ↔
      Stroke.reference source target ∈ (ofGraph graph).filter Stroke.isReference := by
    simp [Stroke.isReference]
  rw [hmem, filter_isReference, List.mem_flatMap]
  simp [referenceStrokes]

/-- The target of a reference is drawn once, whether or not it has a node. -/
theorem count_target {source target : Symbol} (h : .reference source target ∈ ofGraph graph) :
    ((ofGraph graph).filterMap Stroke.drawn?).count target = 1 := by
  refine List.count_eq_one_of_mem (nodup_drawn graph) ?_
  obtain ⟨node, hnode, htarget, -⟩ := reference_mem_ofGraph.mp h
  rw [drawn_ofGraph, List.mem_append]
  by_cases hhas : graph.has target = true
  · obtain ⟨found, hfound, rfl⟩ := Graph.has_iff.mp hhas
    exact .inl (List.mem_map_of_mem hfound)
  · exact .inr (Graph.mem_missingListing.mpr ⟨by simpa using hhas, node, hnode, htarget⟩)

/-- What is drawn as missing has no node, and the other way round. -/
theorem missingTag_mem_iff {id : Symbol} {label : String} {tags : List String}
    (h : .node id label tags ∈ ofGraph graph) : missingTag ∈ tags ↔ graph.has id = false := by
  rw [← List.contains_iff_mem]
  cases htag : tags.contains missingTag with
  -- A node with the tag is one of those drawn as missing.
  | true =>
    have hstroke : Stroke.node id label tags ∈ (ofGraph graph).filter Stroke.isMissing :=
      List.mem_filter.mpr ⟨h, htag⟩
    rw [filter_isMissing] at hstroke
    obtain ⟨other, hother, heq⟩ := List.mem_map.mp hstroke
    obtain ⟨rfl, -⟩ := Stroke.node.inj heq
    simp [(Graph.mem_missingListing.mp hother).1]
  -- A node without it is one of those drawn as present.
  | false =>
    have hstroke : Stroke.node id label tags ∈ (ofGraph graph).filter Stroke.isPresent :=
      List.mem_filter.mpr ⟨h, by rw [Stroke.isPresent, htag]; rfl⟩
    rw [filter_isPresent] at hstroke
    obtain ⟨node, hnode, heq⟩ := List.mem_map.mp hstroke
    obtain ⟨rfl, -⟩ := Stroke.node.inj heq
    simp [Graph.has_iff.mpr ⟨node, hnode, rfl⟩]

/-! ### Figures -/

/-- As many nodes are drawn as present as the graph has. -/
theorem countP_isPresent (graph : Graph) :
    (ofGraph graph).countP Stroke.isPresent = graph.nodeCount := by
  rw [List.countP_eq_length_filter, filter_isPresent, List.length_map, Graph.length_listing]

/-- As many references are drawn as the graph has. -/
theorem countP_isReference (graph : Graph) :
    (ofGraph graph).countP Stroke.isReference = graph.referenceCount := by
  rw [List.countP_eq_length_filter, filter_isReference, ← Graph.length_flatMap_sortedRefs,
    List.length_flatMap, List.length_flatMap]
  simp only [referenceStrokes, List.length_map]

/-- As many nodes are drawn as missing as there are missing symbols. -/
theorem countP_isMissing (graph : Graph) :
    (ofGraph graph).countP Stroke.isMissing = graph.missingListing.length := by
  rw [List.countP_eq_length_filter, filter_isMissing, List.length_map]

/-- The figures of an analysis are those of its graph. -/
theorem stats_runWith {tokenizer : Tokenizer} {disk : Disk} {config : Config}
    {report : Analysis.Report}
    (h : (Analysis.runWith tokenizer disk config).traced.outcome = .ok report) :
    report.stats.nodes = report.graph.nodeCount ∧
      report.stats.references = report.graph.referenceCount ∧
        report.stats.missing = report.graph.missing.size := by
  -- The figures are taken from the graph that the last phase leaves.
  obtain ⟨-, -, h⟩ := Analysis.Run.bind_outcome_eq_ok.mp h
  obtain ⟨files, -, h⟩ := Analysis.Run.bind_outcome_eq_ok.mp h
  obtain ⟨decoded, -, h⟩ := Analysis.Run.bind_outcome_eq_ok.mp h
  obtain ⟨enriched, -, h⟩ := Analysis.Run.bind_outcome_eq_ok.mp h
  obtain rfl := Except.ok.inj h
  exact ⟨rfl, rfl, rfl⟩

/-- Strokes draw a graph: all of it, in order, each thing once. -/
structure Faithful (graph : Graph) (strokes : List Stroke) : Prop where
  /-- Nodes come first, then references by node, then missing symbols. -/
  sequence : strokes = .start ::
    (graph.listing.map fun node => .node node.id node.label
      (node.id.kind.tag :: if node.id ∈ graph.used then ["used"] else [])) ++
    (graph.listing.flatMap fun node => node.sortedRefs.map (.reference node.id)) ++
    (graph.missingListing.map fun id => .node id id.name [id.kind.tag, "missing"]) ++ [.finish]
  /-- Every node of the graph is listed, and nothing else is. -/
  mem_nodes (node : Node) : node ∈ graph.listing ↔ graph.node? node.id = some node
  /-- Nodes are listed by label and then by key, none of them twice. -/
  nodes_ascend : graph.listing.Pairwise (LexLt Node.label (·.id.key))
  /-- Every reference of a node is drawn, and nothing else is. -/
  mem_references (node : Node) (target : Symbol) : target ∈ node.sortedRefs ↔ target ∈ node.refs
  /-- The references of a node are drawn by key, none of them twice. -/
  references_ascend (node : Node) : node.sortedRefs.Pairwise fun a b => a.key < b.key
  /-- The missing symbols are the targets without a node. -/
  mem_missing (target : Symbol) : target ∈ graph.missingListing ↔
    graph.has target = false ∧ ∃ node, graph.node? node.id = some node ∧ target ∈ node.refs
  /-- Missing symbols are drawn by name and then by key, none of them twice. -/
  missing_ascend : graph.missingListing.Pairwise (LexLt Symbol.name Symbol.key)
  /-- No symbol is drawn twice. -/
  drawn_nodup : (strokes.filterMap Stroke.drawn?).Nodup
  /-- The target of a reference is drawn once. -/
  target_drawn {source target : Symbol} : .reference source target ∈ strokes →
    (strokes.filterMap Stroke.drawn?).count target = 1
  /-- A symbol is tagged as missing if and only if it has no node. -/
  tagged_missing {id : Symbol} {label : String} {tags : List String} :
    .node id label tags ∈ strokes → (missingTag ∈ tags ↔ graph.has id = false)
  /-- The symbols tagged as missing are those that the graph reports, in the same order. -/
  missing_ids : (strokes.filter Stroke.isMissing).filterMap Stroke.drawn? = graph.missingListing
  /-- The nodes drawn are as many as the graph counts. -/
  node_count : strokes.countP Stroke.isPresent = graph.nodeCount
  /-- The references drawn are as many as the graph counts. -/
  reference_count : strokes.countP Stroke.isReference = graph.referenceCount
  /-- The missing symbols drawn are as many as the graph reports. -/
  missing_count : strokes.countP Stroke.isMissing = graph.missingListing.length
  /-- The figures of an analysis that ends with the graph are those of the strokes. -/
  figures {tokenizer : Tokenizer} {disk : Disk} {config : Config} {stats : Analysis.Stats} :
    (Analysis.runWith tokenizer disk config).traced.outcome = .ok ⟨graph, stats⟩ →
      stats.nodes = strokes.countP Stroke.isPresent ∧
        stats.references = strokes.countP Stroke.isReference ∧
          stats.missing = strokes.countP Stroke.isMissing

/-- The strokes of a graph draw it faithfully. -/
theorem ofGraph_faithful (graph : Graph) : Faithful graph (ofGraph graph) where
  sequence := ofGraph_eq graph
  mem_nodes _ := Graph.mem_listing
  nodes_ascend := graph.pairwise_listing
  mem_references _ _ := Node.mem_sortedRefs
  references_ascend := Node.pairwise_sortedRefs
  mem_missing target := by
    simp only [Graph.mem_missingListing, Graph.mem_listing]
  missing_ascend := graph.pairwise_missingListing
  drawn_nodup := nodup_drawn graph
  target_drawn := count_target
  tagged_missing := missingTag_mem_iff
  missing_ids := by
    rw [filter_isMissing, List.filterMap_map]
    exact List.filterMap_some
  node_count := countP_isPresent graph
  reference_count := countP_isReference graph
  missing_count := countP_isMissing graph
  figures hrun := by
    rw [countP_isPresent, countP_isReference, countP_isMissing, Graph.length_missingListing]
    exact stats_runWith hrun

end Diagram

end CallMap
