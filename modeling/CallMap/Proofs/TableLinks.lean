import Mathlib.Data.List.Nodup
import Mathlib.Data.List.Perm.Subperm
import CallMap.Proofs.Listing
import CallMap.Proofs.Store

/-!
# Linking tables again

What refers to an index gets a reference to the table of the index. The links are made from the
graph as it was, so they lead no further. A second round starts from what the first one has added,
and it can find more only where one index refers to another one.

* `Graph.exists_links`: the number of links is the number of new references.
* `Graph.refers_linkTables_linkTables`: what two rounds add.
* `Graph.linkTables_again_iff`: when the second round adds nothing.
-/

namespace CallMap.Graph

variable {graph after : Graph} {source target : Symbol}

/-! ### New references -/

/-- All references of a graph, node by node. -/
def references (graph : Graph) : List (Symbol × Symbol) :=
  graph.allNodes.flatMap fun node => node.refs.toList.map (node.id, ·)

/-- The list of references has all of them. -/
theorem mem_references : (source, target) ∈ graph.references ↔ graph.Refers source target := by
  simp only [references, List.mem_flatMap, List.mem_map, Std.ExtTreeSet.mem_toList, Prod.mk.injEq,
    mem_allNodes]
  constructor
  · rintro ⟨node, hnode, _, htarget, rfl, rfl⟩
    exact ⟨node, hnode, htarget⟩
  · rintro ⟨node, hnode, htarget⟩
    have hid := graph.keyed source node hnode
    exact ⟨node, hid ▸ hnode, target, htarget, hid, rfl⟩

/-- No reference is listed twice. -/
theorem nodup_references (graph : Graph) : graph.references.Nodup := by
  refine List.nodup_flatMap.mpr ⟨fun node _ => ?_, ?_⟩
  · exact (nodup_toList node.refs).map fun _ _ heq => congrArg Prod.snd heq
  · -- References of two nodes differ in where they start.
    refine (List.pairwise_map.mp graph.nodup_map_id_allNodes).imp ?_
    intro first second hne reference hfirst hsecond
    obtain ⟨_, -, rfl⟩ := List.mem_map.mp hfirst
    obtain ⟨_, -, heq⟩ := List.mem_map.mp hsecond
    exact hne (congrArg Prod.fst heq).symm

/-- As many references are listed as are counted. -/
theorem length_references (graph : Graph) : graph.references.length = graph.referenceCount := by
  rw [referenceCount, Std.ExtTreeMap.foldl_eq_foldl_toList, references, allNodes,
    List.length_flatMap, List.map_map, List.sum_eq_foldl, List.foldl_map]
  simp

/-- Where a graph only gains references, their number grows by the number of those gained. -/
theorem exists_gained
    (h : ∀ source target, graph.Refers source target → after.Refers source target) :
    ∃ gained : List (Symbol × Symbol), gained.Nodup ∧
      (∀ source target, (source, target) ∈ gained ↔
        after.Refers source target ∧ ¬graph.Refers source target) ∧
      after.referenceCount = graph.referenceCount + gained.length := by
  refine ⟨after.references.filter (· ∉ graph.references), after.nodup_references.filter _, ?_, ?_⟩
  · intro source target
    simp [mem_references]
  · -- The references that are not gained are those that the graph had.
    have hold : (after.references.filter (· ∈ graph.references)).Perm graph.references := by
      rw [List.perm_ext_iff_of_nodup (after.nodup_references.filter _) graph.nodup_references]
      rintro ⟨source, target⟩
      rw [List.mem_filter, decide_eq_true_eq, mem_references, mem_references, and_iff_right_iff_imp]
      exact h source target
    have hsplit := List.length_eq_length_filter_add (l := after.references)
      (fun reference => decide (reference ∈ graph.references))
    simpa only [hold.length_eq, length_references, decide_not] using hsplit

/-- The number of links is the number of references that were not there before. A table that a node
gets through several indexes counts once. -/
theorem exists_links (graph : Graph) : ∃ links : List (Symbol × Symbol), links.Nodup ∧
    (∀ source target, (source, target) ∈ links ↔
      graph.linkTables.Refers source target ∧ ¬graph.Refers source target) ∧
    graph.tableLinkCount = links.length := by
  obtain ⟨links, hnodup, hlinks, hcount⟩ := @exists_gained graph graph.linkTables
    fun _ _ hrefers => refers_linkTables.mpr (.inl hrefers)
  exact ⟨links, hnodup, hlinks, by rw [tableLinkCount, hcount, Nat.add_sub_cancel_left]⟩

/-! ### A round that adds nothing -/

/-- No node refers to more after linking than before. -/
def IsLinked (graph : Graph) : Prop :=
  ∀ source target, graph.linkTables.Refers source target → graph.Refers source target

/-- Linking changes nothing exactly in graphs that are linked. -/
theorem linkTables_eq_self_iff : graph.linkTables = graph ↔ graph.IsLinked := by
  constructor
  · intro h source target hrefers
    rwa [h] at hrefers
  · intro h
    -- Linking only touches references, and removes none.
    refine eq_of_label?_eq_of_refers_iff graph.label?_linkTables (fun source target => ?_) rfl
    exact ⟨h source target, fun hrefers => refers_linkTables.mpr (.inl hrefers)⟩

/-- No link is counted exactly in graphs that are linked. -/
theorem tableLinkCount_eq_zero_iff : graph.tableLinkCount = 0 ↔ graph.IsLinked := by
  obtain ⟨links, -, hlinks, hcount⟩ := graph.exists_links
  rw [hcount, List.length_eq_zero_iff, List.eq_nil_iff_forall_not_mem, IsLinked, Prod.forall]
  refine forall₂_congr fun source target => ?_
  rw [hlinks, not_and_not_right]

/-! ### The second round -/

/-- A node leads to a table through two indexes, of which the first refers to the second. -/
def LeadsThroughTwo (graph : Graph) (source table : Symbol) : Prop :=
  ∃ outer inner : Symbol, outer.kind = .index ∧ inner.kind = .index ∧
    graph.Refers source outer ∧ graph.Refers outer inner ∧ graph.Refers inner table

/-- A node leads to a table through one index. -/
def LeadsThroughOne (graph : Graph) (source table : Symbol) : Prop :=
  ∃ index : Symbol, index.kind = .index ∧ graph.Refers source index ∧ graph.Refers index table

/-- Links only lead to tables. -/
theorem refers_linkTables_of_ne (h : target.kind ≠ .table) :
    graph.linkTables.Refers source target ↔ graph.Refers source target := by
  rw [refers_linkTables, or_iff_left_iff_imp]
  rintro ⟨htable, -⟩
  exact absurd htable h

/-- Two rounds reach the tables behind two indexes, where the first refers to the second. -/
theorem refers_linkTables_linkTables : graph.linkTables.linkTables.Refers source target ↔
    graph.linkTables.Refers source target ∨
      target.kind = .table ∧ graph.LeadsThroughTwo source target := by
  rw [@refers_linkTables graph.linkTables]
  refine or_congr_right' fun hfirst => and_congr_right fun htable => ?_
  constructor
  -- The index in between was referred to before the first round.
  · rintro ⟨outer, houter, hsource, htarget⟩
    rw [refers_linkTables_of_ne (by simp [houter])] at hsource
    rcases refers_linkTables.mp htarget with hdirect | ⟨-, inner, hinner, hrefers, htarget⟩
    · -- The table of an index is found in the first round.
      exact absurd (refers_linkTables.mpr (.inr ⟨htable, outer, houter, hsource, hdirect⟩)) hfirst
    · exact ⟨outer, inner, houter, hinner, hsource, hrefers, htarget⟩
  · rintro ⟨outer, inner, houter, hinner, hsource, hrefers, htarget⟩
    refine ⟨outer, houter, refers_linkTables.mpr (.inl hsource), ?_⟩
    exact refers_linkTables.mpr (.inr ⟨htable, inner, hinner, hrefers, htarget⟩)

/-- Every table that a node leads to through two indexes is one that it refers to or leads to
through one. -/
def ChainsCut (graph : Graph) : Prop :=
  ∀ source table, table.kind = .table → graph.LeadsThroughTwo source table →
    graph.Refers source table ∨ graph.LeadsThroughOne source table

/-- One round links everything exactly if two indexes in a row lead to no table that one does
not. -/
theorem isLinked_linkTables_iff : graph.linkTables.IsLinked ↔ graph.ChainsCut := by
  constructor
  · intro h source table htable hchain
    have hfirst := h source table (refers_linkTables_linkTables.mpr (.inr ⟨htable, hchain⟩))
    exact (refers_linkTables.mp hfirst).imp_right And.right
  · intro h source target hrefers
    rcases refers_linkTables_linkTables.mp hrefers with hfirst | ⟨htable, hchain⟩
    · exact hfirst
    · exact refers_linkTables.mpr ((h source target htable hchain).imp_right (⟨htable, ·⟩))

/-- A second round changes nothing, and says so, for exactly those graphs in which a chain of two
indexes leads to no table that is not reached without it. -/
theorem linkTables_again_iff (graph : Graph) :
    (graph.linkTables.linkTables = graph.linkTables ↔ graph.ChainsCut) ∧
      (graph.linkTables.tableLinkCount = 0 ↔ graph.ChainsCut) := by
  rw [linkTables_eq_self_iff, tableLinkCount_eq_zero_iff, isLinked_linkTables_iff]
  exact ⟨Iff.rfl, Iff.rfl⟩

/-- A method refers to an index, which refers to another index, which refers to a table. -/
def sampleChain : Graph :=
  [{ id := ⟨"inner", .index⟩, label := "Inner", refs := {⟨"deep", .table⟩} },
    { id := ⟨"outer", .index⟩, label := "Outer", refs := {⟨"inner", .index⟩} },
    { id := ⟨"foo", .method⟩, label := "Foo", refs := {⟨"outer", .index⟩} }].foldl insert {}

/-- A second round links one more. -/
theorem linkTables_again_sampleChain :
    sampleChain.linkTables.linkTables ≠ sampleChain.linkTables ∧
      sampleChain.linkTables.tableLinkCount = 1 := by
  have hcount : sampleChain.linkTables.tableLinkCount = 1 := by decide +kernel
  refine ⟨fun h => ?_, hcount⟩
  rw [linkTables_eq_self_iff, ← tableLinkCount_eq_zero_iff, hcount] at h
  cases h

end CallMap.Graph
