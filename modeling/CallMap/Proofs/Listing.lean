import CallMap.Graph

/-!
# Listings

Nodes and symbols are stored in one order and shown in another. The order in which they are shown
goes by labels, names and keys; it is strict, since a key stands for one symbol only.

* `Symbol.key_injective`: a key can be read in one way only.
* `Graph.mem_listing`, `Graph.pairwise_listing`: what is listed, and in which order.
* `Graph.mem_missing`: what is missing.
-/

namespace CallMap

/-! ### Sorting -/

section Sorting

variable {α : Type} {le : α → α → Prop} [DecidableRel le]

/-- Sorting is strict if no two values are equivalent. -/
theorem pairwise_mergeSort_of_trans_of_total (htrans : ∀ a b c, le a b → le b c → le a c)
    (htotal : ∀ a b, le a b ∨ le b a) {values : List α}
    (hvalues : values.Pairwise fun a b => ¬(le a b ∧ le b a)) :
    (values.mergeSort fun a b => decide (le a b)).Pairwise fun a b => ¬le b a := by
  have hsorted : (values.mergeSort fun a b => decide (le a b)).Pairwise le := by
    have hbool := @List.pairwise_mergeSort α (fun a b => decide (le a b))
      (fun a b c => by simpa using htrans a b c) (fun a b => by simpa using htotal a b) values
    simpa using hbool
  have hdistinct : (values.mergeSort fun a b => decide (le a b)).Pairwise
      fun a b => ¬(le a b ∧ le b a) :=
    ((List.mergeSort_perm values _).pairwise_iff fun h hswap => h hswap.symm).mpr hvalues
  exact hsorted.imp₂ (fun a b hle hne hge => hne ⟨hle, hge⟩) hdistinct

/-- Values are compared by one text, and by another one where the first is the same. -/
def LexLt (first second : α → String) (a b : α) : Prop :=
  first a < first b ∨ first a = first b ∧ second a < second b

/-- As `LexLt`, for values that may be equivalent. -/
def LexLe (first second : α → String) (a b : α) : Prop :=
  first a < first b ∨ first a = first b ∧ second a ≤ second b

instance (first second : α → String) : DecidableRel (LexLe first second) :=
  fun _ _ => inferInstanceAs (Decidable (_ ∨ _))

variable {first second : α → String}

/-- What is not before another thing or level with it comes after it. -/
theorem not_lexLe {a b : α} : ¬LexLe first second b a ↔ LexLt first second a b := by
  unfold LexLe LexLt
  rw [not_or, String.not_lt, not_and, String.not_le]
  constructor
  · rintro ⟨hle, hlt⟩
    by_cases heq : first a = first b
    · exact .inr ⟨heq, hlt heq.symm⟩
    · exact .inl (String.not_le.mp fun hge => heq (String.le_antisymm hle hge))
  · rintro (hlt | ⟨heq, hlt⟩)
    · refine ⟨String.not_lt.mp fun hgt => String.lt_irrefl _ (String.lt_trans hlt hgt), ?_⟩
      intro heq
      exact absurd (heq ▸ hlt) (String.lt_irrefl _)
    · exact ⟨heq ▸ String.not_lt.mp (String.lt_irrefl _), fun _ => hlt⟩

theorem LexLe.trans (a b c : α) (hab : LexLe first second a b) (hbc : LexLe first second b c) :
    LexLe first second a c := by
  rcases hab with hab | ⟨hab, hab'⟩ <;> rcases hbc with hbc | ⟨hbc, hbc'⟩
  · exact .inl (String.lt_trans hab hbc)
  · exact .inl (hbc ▸ hab)
  · exact .inl (hab ▸ hbc)
  · exact .inr ⟨hab.trans hbc, String.le_trans hab' hbc'⟩

theorem LexLe.total (a b : α) : LexLe first second a b ∨ LexLe first second b a := by
  rw [Classical.or_iff_not_imp_right]
  intro hba
  rcases not_lexLe.mp hba with hlt | ⟨heq, hlt⟩
  · exact .inl hlt
  · exact .inr ⟨heq, String.not_lt.mp fun hgt => String.lt_irrefl _ (String.lt_trans hlt hgt)⟩

/-- Two things that are each before the other or level have the same two texts. -/
theorem LexLe.antisymm {a b : α} (hab : LexLe first second a b) (hba : LexLe first second b a) :
    first a = first b ∧ second a = second b := by
  rcases hab with hab | ⟨heq, hab'⟩
  · exact absurd hba (not_lexLe.mpr (.inl hab))
  · rcases hba with hba | ⟨-, hba'⟩
    · exact absurd (heq ▸ hba) (String.lt_irrefl _)
    · exact ⟨heq, String.le_antisymm hab' hba'⟩

end Sorting

/-! ### Keys -/

namespace Symbol

/-- The key of a symbol is its name, an underscore and the tag of its kind. -/
theorem toList_key (symbol : Symbol) :
    symbol.key.toList = symbol.name.toList ++ ("_" ++ symbol.kind.tag).toList := by
  rw [key, String.append_assoc, String.toList_append (s := symbol.name)]

/-- No tag ends in an underscore and another tag. -/
theorem kind_eq_of_suffix {a b : Kind} (h : ("_" ++ a.tag).toList <:+ ("_" ++ b.tag).toList) :
    a = b := by
  revert h
  cases a <;> cases b <;> decide

/-- A tag at the end of a text can be told from what stands before it, although that may hold
underscores: no tag ends in an underscore and another tag. -/
theorem append_tag_inj {front other : List Char} {a b : Kind}
    (h : front ++ ("_" ++ a.tag).toList = other ++ ("_" ++ b.tag).toList) :
    front = other ∧ a = b := by
  have hkind : a = b := by
    -- Of two tags at the end of one text, one is the end of the other.
    rcases List.suffix_or_suffix_of_suffix (List.suffix_append front _)
      (h ▸ List.suffix_append other _) with hab | hba
    · exact kind_eq_of_suffix hab
    · exact (kind_eq_of_suffix hba).symm
  subst hkind
  exact ⟨List.append_cancel_right h, rfl⟩

/-- A key stands for one symbol only. -/
theorem key_injective {a b : Symbol} (h : a.key = b.key) : a = b := by
  have hchars := congrArg String.toList h
  rw [toList_key, toList_key] at hchars
  obtain ⟨hname, hkind⟩ := append_tag_inj hchars
  cases a
  cases b
  simp_all [String.toList_inj]

/-! ### Sorted symbols -/

variable {symbols : List Symbol}

/-- Sorting symbols by key loses none. -/
theorem sortByKey_perm (symbols : List Symbol) : (sortByKey symbols).Perm symbols :=
  List.mergeSort_perm symbols _

/-- Sorting symbols by name loses none. -/
theorem sortByName_perm (symbols : List Symbol) : (sortByName symbols).Perm symbols :=
  List.mergeSort_perm symbols _

/-- Distinct symbols are sorted strictly, since a key tells its symbol. -/
theorem pairwise_sortByKey (h : symbols.Nodup) :
    (sortByKey symbols).Pairwise fun a b => a.key < b.key := by
  have hsorted := @pairwise_mergeSort_of_trans_of_total Symbol (fun a b => a.key ≤ b.key) _
    (fun _ _ _ => String.le_trans) (fun a b => String.le_total a.key b.key) symbols
    (h.imp fun hne hboth => hne (key_injective (String.le_antisymm hboth.1 hboth.2)))
  exact hsorted.imp String.not_le.mp

/-- Distinct symbols are sorted strictly by name, with the key to break ties. -/
theorem pairwise_sortByName (h : symbols.Nodup) :
    (sortByName symbols).Pairwise (LexLt name key) := by
  have hsorted := @pairwise_mergeSort_of_trans_of_total Symbol (LexLe name key) _ LexLe.trans
      LexLe.total
    symbols (h.imp fun hne hboth => hne (key_injective (LexLe.antisymm hboth.1 hboth.2).2))
  exact hsorted.imp not_lexLe.mp

end Symbol

/-- No symbol of a set is listed twice. -/
theorem nodup_toList (symbols : SymbolSet) : symbols.toList.Nodup := by
  refine (Std.ExtTreeSet.distinct_toList (t := symbols)).imp ?_
  rintro a b hne rfl
  exact hne Std.ReflCmp.compare_self

namespace Node

/-- Sorting nodes by label loses none. -/
theorem sortByLabel_perm (nodes : List Node) : (sortByLabel nodes).Perm nodes :=
  List.mergeSort_perm nodes _

/-- Nodes of distinct symbols are sorted strictly. -/
theorem pairwise_sortByLabel {nodes : List Node} (h : (nodes.map Node.id).Nodup) :
    (sortByLabel nodes).Pairwise (LexLt label (·.id.key)) := by
  have hsorted := @pairwise_mergeSort_of_trans_of_total Node (LexLe label (·.id.key)) _ LexLe.trans
    LexLe.total nodes ((List.pairwise_map.mp h).imp fun hne hboth =>
      hne (Symbol.key_injective (hboth.1.antisymm hboth.2).2))
  exact hsorted.imp not_lexLe.mp

/-- Sorting the references of a node loses none. -/
@[simp]
theorem mem_sortedRefs {node : Node} {target : Symbol} :
    target ∈ node.sortedRefs ↔ target ∈ node.refs := by
  rw [sortedRefs, (Symbol.sortByKey_perm _).mem_iff, Std.ExtTreeSet.mem_toList]

/-- The references of a node are sorted strictly by key. -/
theorem pairwise_sortedRefs (node : Node) : node.sortedRefs.Pairwise fun a b => a.key < b.key :=
  Symbol.pairwise_sortByKey (nodup_toList node.refs)

theorem length_sortedRefs (node : Node) : node.sortedRefs.length = node.refs.size := by
  rw [sortedRefs, (Symbol.sortByKey_perm _).length_eq, Std.ExtTreeSet.length_toList]

end Node

namespace Graph

variable {graph : Graph}

/-! ### Listed nodes -/

/-- The nodes of a graph are those it stores under their own symbols. -/
theorem mem_allNodes {node : Node} : node ∈ graph.allNodes ↔ graph.node? node.id = some node := by
  rw [allNodes, List.mem_map]
  constructor
  · rintro ⟨⟨id, node⟩, hmem, rfl⟩
    have hstored := Std.ExtTreeMap.mem_toList_iff_getElem?_eq_some.mp hmem
    rw [node?, graph.keyed id node hstored]
    exact hstored
  · intro hstored
    exact ⟨(node.id, node), Std.ExtTreeMap.mem_toList_iff_getElem?_eq_some.mpr hstored, rfl⟩

/-- No two nodes share their symbol. -/
theorem nodup_map_id_allNodes (graph : Graph) : (graph.allNodes.map Node.id).Nodup := by
  -- Nodes stand under their own symbols, and a table holds each symbol once.
  have hkeys : graph.allNodes.map Node.id = graph.nodes.toList.map Prod.fst := by
    rw [allNodes, List.map_map]
    refine List.map_congr_left fun entry hentry => ?_
    exact graph.keyed entry.1 entry.2 (Std.ExtTreeMap.mem_toList_iff_getElem?_eq_some.mp hentry)
  rw [hkeys]
  refine List.pairwise_map.mpr (Std.ExtTreeMap.distinct_keys_toList.imp ?_)
  intro a b hne heq
  exact hne (heq ▸ Std.ReflCmp.compare_self)

/-- Exactly the nodes of a graph are listed. -/
theorem mem_listing {node : Node} : node ∈ graph.listing ↔ graph.node? node.id = some node := by
  rw [listing, (Node.sortByLabel_perm _).mem_iff, mem_allNodes]

/-- No two nodes of the listing have one symbol. -/
theorem nodup_map_id_listing (graph : Graph) : (graph.listing.map Node.id).Nodup :=
  ((Node.sortByLabel_perm _).map Node.id).nodup_iff.mpr (nodup_map_id_allNodes graph)

/-- Nodes are listed by label, those of one label by key. -/
theorem pairwise_listing (graph : Graph) : graph.listing.Pairwise (LexLt Node.label (·.id.key)) :=
  Node.pairwise_sortByLabel (nodup_map_id_allNodes graph)

/-- A graph has the symbols of its listing. -/
theorem has_iff {id : Symbol} : graph.has id = true ↔ ∃ node ∈ graph.listing, node.id = id := by
  rw [has, Std.ExtTreeMap.contains_iff_mem, Std.ExtTreeMap.mem_iff_isSome_getElem?,
    Option.isSome_iff_exists]
  constructor
  · rintro ⟨node, hstored⟩
    have hid := graph.keyed id node hstored
    exact ⟨node, mem_listing.mpr (hid ▸ hstored), hid⟩
  · rintro ⟨node, hlisted, rfl⟩
    exact ⟨node, mem_listing.mp hlisted⟩

/-- The listing has as many nodes as the graph. -/
theorem length_listing (graph : Graph) : graph.listing.length = graph.nodeCount := by
  rw [listing, (Node.sortByLabel_perm _).length_eq, allNodes, List.length_map,
    Std.ExtTreeMap.length_toList, nodeCount]

/-- The references of all listed nodes are as many as those of the graph. -/
theorem length_flatMap_sortedRefs (graph : Graph) :
    (graph.listing.flatMap Node.sortedRefs).length = graph.referenceCount := by
  have hperm : (graph.listing.map fun node => node.refs.size).Perm
      (graph.allNodes.map fun node => node.refs.size) :=
    (Node.sortByLabel_perm _).map _
  simp only [List.length_flatMap, Node.length_sortedRefs]
  rw [hperm.sum_nat, referenceCount, Std.ExtTreeMap.foldl_eq_foldl_toList, allNodes, List.map_map,
    List.sum_eq_foldl, List.foldl_map]
  rfl

/-! ### Missing symbols -/

/-- Going through nodes collects their targets that the graph lacks. -/
theorem mem_foldl_missing {nodes : List Node} {found : SymbolSet} {target : Symbol} :
    target ∈
        nodes.foldl (fun found node => found ∪ node.refs.filter fun id => !graph.has id) found ↔
      target ∈ found ∨ graph.has target = false ∧ ∃ node ∈ nodes, target ∈ node.refs := by
  induction nodes generalizing found with
  | nil => simp
  | cons node rest ih =>
    have hnode : target ∈ (node.refs.filter fun id => !graph.has id) ↔
        graph.has target = false ∧ target ∈ node.refs := by
      simp [Std.ExtTreeSet.mem_filter, and_comm]
    rw [List.foldl_cons, ih, Std.ExtTreeSet.mem_union_iff, hnode, or_assoc, ← and_or_left]
    simp only [List.mem_cons, exists_eq_or_imp]

/-- What is missing is what some node refers to and has no node. -/
theorem mem_missing {target : Symbol} : target ∈ graph.missing ↔
    graph.has target = false ∧ ∃ node ∈ graph.listing, target ∈ node.refs := by
  have hfold : graph.missing = graph.allNodes.foldl
      (fun found node => found ∪ node.refs.filter fun id => !graph.has id) ∅ := by
    rw [missing, Std.ExtTreeMap.foldl_eq_foldl_toList, allNodes, List.foldl_map]
  have hlisted (node : Node) : node ∈ graph.allNodes ↔ node ∈ graph.listing :=
    (Node.sortByLabel_perm _).mem_iff.symm
  rw [hfold, mem_foldl_missing]
  simp [hlisted]

/-- Missing symbols are listed by name, those of one name by key. -/
theorem pairwise_missingListing (graph : Graph) :
    graph.missingListing.Pairwise (LexLt Symbol.name Symbol.key) :=
  Symbol.pairwise_sortByName (nodup_toList graph.missing)

/-- A symbol is missing if a listed node refers to it and the graph lacks it. -/
theorem mem_missingListing {target : Symbol} : target ∈ graph.missingListing ↔
    graph.has target = false ∧ ∃ node ∈ graph.listing, target ∈ node.refs := by
  rw [missingListing, (Symbol.sortByName_perm _).mem_iff, Std.ExtTreeSet.mem_toList, mem_missing]

/-- No missing symbol is listed twice. -/
theorem nodup_missingListing (graph : Graph) : graph.missingListing.Nodup :=
  (Symbol.sortByName_perm _).nodup_iff.mpr (nodup_toList graph.missing)

/-- All missing symbols are listed. -/
theorem length_missingListing (graph : Graph) :
    graph.missingListing.length = graph.missing.size := by
  rw [missingListing, (Symbol.sortByName_perm _).length_eq, Std.ExtTreeSet.length_toList]

end Graph

end CallMap
