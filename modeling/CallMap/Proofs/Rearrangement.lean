import CallMap.Proofs.Assembly

/-!
# Files in any order

Files are entered one by one, and what a file does depends on what is already there: a schema object
is filled in only if no file before this one has brought it. What is left in the end does not depend
on that, as long as no two files bring the same symbol.

* `Separate`: no symbol has nodes in two different files.
* `isLastOf_nodesOf`: the node that counts is found in one file, wherever that stands in the list.
* `Graph.foldl_apply_eq_of_mem_iff`: only which files there are decides, neither their order nor how
  often they are entered.
* `Graph.apply_perm_and_twice`: any order, and the same file twice in a row.
-/

namespace CallMap

/-- A file has a node of a symbol. -/
def Contribution.Brings (file : Contribution) (id : Symbol) : Prop :=
  ∃ node ∈ file.nodes, node.id = id

/-- No symbol has nodes in two different files. A file may have several nodes of one symbol, it may
refer to what other files bring, and it may stand in the list more than once. -/
def Separate (files : List Contribution) : Prop :=
  ∀ first ∈ files, ∀ second ∈ files, ∀ id, first.Brings id → second.Brings id → first = second

variable {files order : List Contribution} {earlier later : List Node} {id : Symbol} {node : Node}

/-! ### The node that counts -/

/-- The last node of a symbol is in the later list, unless no node there has the symbol. -/
theorem isLastOf_append : IsLastOf (earlier ++ later) id node ↔
    IsLastOf later id node ∨ (∀ other ∈ later, other.id ≠ id) ∧ IsLastOf earlier id node := by
  simp only [← findRev?_eq_some_iff, ← findRev?_eq_none_iff, List.findRev?_eq_find?_reverse,
    List.reverse_append, List.find?_append, Option.or_eq_some_iff]

theorem IsLastOf.brings {file : Contribution} (h : IsLastOf file.nodes id node) : file.Brings id :=
  ⟨node, h.mem, h.1⟩

/-- Where files are separate, the last node of a symbol is the last one of the file that brings
it. -/
theorem isLastOf_nodesOf (h : Separate files) : IsLastOf (Graph.nodesOf files) id node ↔
    ∃ file ∈ files, IsLastOf file.nodes id node := by
  induction files with
  | nil => simp [Graph.nodesOf, IsLastOf]
  | cons first rest ih =>
    have hrest : Separate rest := fun a ha b hb =>
      h a (List.mem_cons_of_mem _ ha) b (List.mem_cons_of_mem _ hb)
    have hnodes : Graph.nodesOf (first :: rest) = first.nodes ++ Graph.nodesOf rest :=
      List.flatMap_cons
    rw [hnodes, isLastOf_append, ih hrest]
    constructor
    · rintro (⟨file, hfile, hlast⟩ | ⟨-, hlast⟩)
      · exact ⟨file, List.mem_cons_of_mem _ hfile, hlast⟩
      · exact ⟨first, List.mem_cons_self, hlast⟩
    · rintro ⟨file, hfile, hlast⟩
      by_cases hlater : file ∈ rest
      · exact .inl ⟨file, hlater, hlast⟩
      · -- The file stands at the front only, so no file after it can have a node of the symbol.
        obtain rfl : file = first := (List.mem_cons.mp hfile).resolve_right hlater
        refine .inr ⟨fun other hother hid => hlater ?_, hlast⟩
        obtain ⟨second, hsecond, hnode⟩ := List.mem_flatMap.mp hother
        have hsame := h file List.mem_cons_self second (List.mem_cons_of_mem _ hsecond) id
          hlast.brings ⟨other, hnode, hid⟩
        exact hsame ▸ hsecond

namespace Graph

/-- The same files have the same nodes. -/
theorem mem_nodesOf_congr (h : ∀ file, file ∈ order ↔ file ∈ files) :
    node ∈ nodesOf order ↔ node ∈ nodesOf files := by
  simp only [nodesOf, List.mem_flatMap, h]

/-- The graph that is left depends on which files were entered, and on nothing else about them. -/
theorem foldl_apply_eq_of_mem_iff (graph : Graph) (hseparate : Separate files)
    (h : ∀ file, file ∈ order ↔ file ∈ files) :
    order.foldl apply graph = files.foldl apply graph := by
  have horder : Separate order := fun a ha b hb => hseparate a ((h a).mp ha) b ((h b).mp hb)
  -- The three things that the graph is made from are the same for both lists.
  have hlast (id : Symbol) : ((nodesOf order).findRev? fun node => node.id = id) =
      (nodesOf files).findRev? fun node => node.id = id := by
    ext node
    rw [findRev?_eq_some_iff, findRev?_eq_some_iff, isLastOf_nodesOf horder,
      isLastOf_nodesOf hseparate]
    simp only [h]
  have hfilled (id : Symbol) : id ∈ (nodesOf order).flatMap schemaRefs ↔
      id ∈ (nodesOf files).flatMap schemaRefs := by
    simp only [List.mem_flatMap, mem_nodesOf_congr h]
  have hmarked (id : Symbol) : (∃ file ∈ order, id ∈ file.used) ↔
      ∃ file ∈ files, id ∈ file.used := by
    simp only [h]
  refine eq_of_node?_eq_of_mem_used_iff (fun id => ?_) (fun id => ?_)
  · simp only [node?_foldl_apply, hlast, hfilled]
  · simp only [mem_used_foldl_apply, hfilled, hmarked]

/-- Entering a file once more changes nothing. -/
theorem apply_apply (graph : Graph) (file : Contribution) :
    (graph.apply file).apply file = graph.apply file := by
  -- One file alone is separate, also if it stands in the list twice.
  have hseparate : Separate [file] := by
    intro first hfirst second hsecond _ _ _
    rw [List.mem_singleton.mp hfirst, List.mem_singleton.mp hsecond]
  exact @foldl_apply_eq_of_mem_iff [file] [file, file] graph hseparate (by simp)

/-- Separate files can be entered in any order, and entering a file again changes nothing. -/
theorem apply_perm_and_twice (graph : Graph) :
    (∀ files order : List Contribution, Separate files → order.Perm files →
      order.foldl apply graph = files.foldl apply graph) ∧
    ∀ file : Contribution, (graph.apply file).apply file = graph.apply file := by
  refine ⟨?_, graph.apply_apply⟩
  intro files order hseparate hperm
  exact foldl_apply_eq_of_mem_iff graph hseparate fun _ => hperm.mem_iff

/-- A file with a method that refers to an index. -/
def sampleCaller : Contribution where
  nodes := [{ id := ⟨"m", .method⟩, label := "M", refs := {⟨"i", .index⟩} }]
  used := [⟨"p", .procedure⟩]

/-- A file that has the index twice, and the second time with a table. -/
def sampleIndexes : Contribution where
  nodes := [{ id := ⟨"i", .index⟩, label := "I" },
    { id := ⟨"i", .index⟩, label := "i", refs := {⟨"t", .table⟩} }]

/-- Two files can be entered in either order, and one of them twice. -/
theorem apply_perm_and_twice_sample :
    Separate [sampleCaller, sampleIndexes] ∧
      [sampleIndexes, sampleCaller].foldl apply {} = [sampleCaller, sampleIndexes].foldl apply {} ∧
        (apply {} sampleIndexes).apply sampleIndexes = apply {} sampleIndexes := by
  have hseparate : Separate [sampleCaller, sampleIndexes] := by
    -- One file only brings a method and the other one only an index.
    rintro first hfirst second hsecond id ⟨node, hnode, hid⟩ ⟨other, hother, hsame⟩
    simp only [List.mem_cons, List.not_mem_nil, or_false] at hfirst hsecond
    rcases hfirst with rfl | rfl <;> rcases hsecond with rfl | rfl <;>
      grind [sampleCaller, sampleIndexes]
  obtain ⟨hperm, htwice⟩ := apply_perm_and_twice {}
  exact ⟨hseparate, hperm _ _ hseparate (List.Perm.swap _ _ _), htwice sampleIndexes⟩

end Graph

end CallMap
