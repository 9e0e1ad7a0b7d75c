import CallMap.Schema

/-!
# What a graph holds

What each operation on a graph leaves in it, read through a few views: the node of a symbol
(`Graph.node?`), the label of that node (`Graph.label?`), which symbols it refers to
(`Graph.Refers`), and which symbols count as used. Proofs about runs of operations go through these
views and open no operation.

* `Graph.eq_of_label?_eq_of_refers_iff`: labels, references and marks are all there is.
* `Graph.node?_insert`: entering a node replaces, and what it refers to is only filled in.
* `Graph.node?_foldl_insert`: what is left after any number of nodes.
* `Graph.refers_linkTables`: the references that come in through indexes, and no others.
-/

namespace CallMap.Graph

variable {graph : Graph} {id source target : Symbol}

/-- The label of the node of a symbol. -/
def label? (graph : Graph) (id : Symbol) : Option String :=
  (graph.node? id).map Node.label

/-- The node of one symbol refers to another symbol. -/
def Refers (graph : Graph) (source target : Symbol) : Prop :=
  ∃ node, graph.node? source = some node ∧ target ∈ node.refs

/-- A stored node tells what its symbol refers to. -/
theorem Refers.iff_of_node? {node : Node} (h : graph.node? source = some node) :
    graph.Refers source target ↔ target ∈ node.refs := by
  simp [Refers, h]

theorem has_eq_isSome (graph : Graph) (id : Symbol) : graph.has id = (graph.node? id).isSome :=
  Std.ExtTreeMap.contains_eq_isSome_getElem?

/-- A graph has exactly the symbols that have a label. -/
theorem has_eq_isSome_label? (graph : Graph) (id : Symbol) :
    graph.has id = (graph.label? id).isSome := by
  rw [has_eq_isSome, label?, Option.isSome_map]

theorem node?_empty (id : Symbol) : ({} : Graph).node? id = none :=
  Std.ExtTreeMap.getElem?_empty

/-- In an empty graph nothing refers to anything. -/
@[simp]
theorem not_refers_empty : ¬({} : Graph).Refers source target := by
  simp [Refers, node?_empty]

/-- Two graphs are equal if they agree on the nodes of all symbols and on the marks. -/
theorem eq_of_node?_eq_of_mem_used_iff {other : Graph}
    (hnodes : ∀ id, graph.node? id = other.node? id)
    (hused : ∀ id, id ∈ graph.used ↔ id ∈ other.used) : graph = other := by
  have hstored : graph.nodes = other.nodes := Std.ExtTreeMap.ext_getElem? hnodes
  have hmarks : graph.used = other.used := Std.ExtTreeSet.ext_mem hused
  cases graph
  cases other
  simp_all

/-- A symbol has the same node in two graphs if its nodes have the same label and references. -/
theorem node?_eq_of_label?_eq {other : Graph} (hlabel : graph.label? id = other.label? id)
    (hrefers : ∀ target, graph.Refers id target ↔ other.Refers id target) :
    graph.node? id = other.node? id := by
  unfold label? at hlabel
  cases hnode : graph.node? id with
  | none =>
    rw [hnode, Option.map_none, eq_comm, Option.map_eq_none_iff] at hlabel
    exact hlabel.symm
  | some node =>
    rw [hnode, Option.map_some, eq_comm] at hlabel
    obtain ⟨found, hfound, hlabels⟩ := Option.map_eq_some_iff.mp hlabel
    -- The symbol of a node is the one that it stands under, in either graph.
    have hids : node.id = found.id :=
      (graph.keyed id node hnode).trans (other.keyed id found hfound).symm
    have hrefs : node.refs = found.refs := by
      refine Std.ExtTreeSet.ext_mem fun target => ?_
      rw [← Refers.iff_of_node? hnode, hrefers, Refers.iff_of_node? hfound]
    rw [hfound]
    cases node
    cases found
    simp_all

/-- Two graphs are equal if they agree on the labels and references of all nodes and on the
marks. -/
theorem eq_of_label?_eq_of_refers_iff {other : Graph}
    (hlabel : ∀ id, graph.label? id = other.label? id)
    (hrefers : ∀ source target, graph.Refers source target ↔ other.Refers source target)
    (hused : graph.used = other.used) : graph = other :=
  eq_of_node?_eq_of_mem_used_iff (fun id => node?_eq_of_label?_eq (hlabel id) (hrefers id))
    (fun id => by rw [hused])

/-! ### Marks -/

@[simp]
theorem node?_markUsed (graph : Graph) (mark id : Symbol) :
    (graph.markUsed mark).node? id = graph.node? id := rfl

/-- Marking a symbol marks no other. -/
theorem mem_used_markUsed {mark : Symbol} :
    id ∈ (graph.markUsed mark).used ↔ id ∈ graph.used ∨ id = mark := by
  rw [markUsed, Std.ExtTreeSet.mem_insert, Std.LawfulEqCmp.compare_eq_iff_eq, or_comm, eq_comm]

/-- Marks do not change the nodes. -/
@[simp]
theorem node?_foldl_markUsed (marks : List Symbol) (graph : Graph) (id : Symbol) :
    (marks.foldl markUsed graph).node? id = graph.node? id := by
  induction marks generalizing graph with
  | nil => rfl
  | cons mark rest ih => rw [List.foldl_cons, ih, node?_markUsed]

theorem label?_foldl_markUsed (marks : List Symbol) (graph : Graph) (id : Symbol) :
    (marks.foldl markUsed graph).label? id = graph.label? id := by
  rw [label?, node?_foldl_markUsed, label?]

/-- Marks do not change the references. -/
theorem refers_foldl_markUsed {marks : List Symbol} :
    (marks.foldl markUsed graph).Refers source target ↔ graph.Refers source target := by
  rw [Refers, node?_foldl_markUsed, Refers]

/-- Several marks add the symbols that are marked. -/
theorem mem_used_foldl_markUsed {marks : List Symbol} :
    id ∈ (marks.foldl markUsed graph).used ↔ id ∈ graph.used ∨ id ∈ marks := by
  induction marks generalizing graph with
  | nil => simp
  | cons mark rest ih => rw [List.foldl_cons, ih, mem_used_markUsed, List.mem_cons, or_assoc]

/-! ### Filling in -/

/-- A node that is only filled in never takes the place of another one. -/
theorem node?_insertIfNew (graph : Graph) (node : Node) (id : Symbol) :
    (graph.insertIfNew node).node? id =
      (graph.node? id).or (if node.id = id then some node else none) := by
  have hstored : (graph.insertIfNew node).node? id =
      if node.id = id ∧ node.id ∉ graph.nodes then some node else graph.node? id := by
    rw [node?, insertIfNew, Std.ExtTreeMap.getElem?_insertIfNew, node?]
    simp only [Std.LawfulEqCmp.compare_eq_iff_eq]
  rw [hstored]
  -- What the map says of its keys is said of the nodes.
  by_cases hid : node.id = id
  · subst hid
    have hmem : node.id ∈ graph.nodes ↔ (graph.node? node.id).isSome = true :=
      Std.ExtTreeMap.mem_iff_isSome_getElem?
    cases hold : graph.node? node.id <;> simp [hmem, hold]
  · simp [hid]

/-- A node that is there keeps its label. -/
theorem label?_insertIfNew (graph : Graph) (node : Node) (id : Symbol) :
    (graph.insertIfNew node).label? id =
      (graph.label? id).or (if node.id = id then some node.label else none) := by
  rw [label?, node?_insertIfNew, Option.map_or, label?]
  congr 1
  split <;> rfl

theorem has_insertIfNew {node : Node} :
    (graph.insertIfNew node).has id = true ↔ graph.has id = true ∨ id = node.id := by
  rw [has_eq_isSome, has_eq_isSome, node?_insertIfNew, Option.isSome_or, Bool.or_eq_true]
  by_cases hid : node.id = id
  · simp [hid]
  · simp [hid, Ne.symm hid]

/-- A node without references adds no reference. -/
theorem refers_insertIfNew {node : Node} (hrefs : node.refs = ∅) :
    (graph.insertIfNew node).Refers source target ↔ graph.Refers source target := by
  unfold Refers
  rw [node?_insertIfNew]
  cases hold : graph.node? source with
  | some old => simp
  | none =>
    by_cases hid : node.id = source
    · simp [hid, hrefs]
    · simp [hid]

/-- Touching a symbol puts a placeholder where there is no node. -/
theorem node?_touch (graph : Graph) (touched id : Symbol) : (graph.touch touched).node? id =
    (graph.node? id).or (if touched = id then some (.placeholder id) else none) := by
  rw [touch, node?_markUsed, node?_insertIfNew]
  by_cases hid : touched = id
  · subst hid
    rfl
  · have hplaceholder : (Node.placeholder touched).id ≠ id := hid
    rw [if_neg hid, if_neg hplaceholder]

/-- Touching several symbols puts a placeholder for each that has no node. -/
theorem node?_foldl_touch (touched : List Symbol) (graph : Graph) (id : Symbol) :
    (touched.foldl touch graph).node? id =
      (graph.node? id).or (if id ∈ touched then some (.placeholder id) else none) := by
  induction touched generalizing graph with
  | nil => simp
  | cons first rest ih =>
    rw [List.foldl_cons, ih, node?_touch, Option.or_assoc]
    congr 1
    by_cases hfirst : first = id
    · simp [hfirst]
    · simp [hfirst, Ne.symm hfirst]

/-- What is touched counts as used. -/
theorem mem_used_foldl_touch {touched : List Symbol} :
    id ∈ (touched.foldl touch graph).used ↔ id ∈ graph.used ∨ id ∈ touched := by
  induction touched generalizing graph with
  | nil => simp
  | cons first rest ih =>
    have htouch : id ∈ (graph.touch first).used ↔ id ∈ graph.used ∨ id = first := mem_used_markUsed
    rw [List.foldl_cons, ih, htouch, List.mem_cons, or_assoc]

/-! ### Entering nodes -/

/-- The schema references of a node are those of its references that are objects of the schema. -/
theorem mem_schemaRefs {node : Node} :
    id ∈ schemaRefs node ↔ id.kind.isSchema = true ∧ id ∈ node.refs := by
  rw [schemaRefs, List.mem_filter, Std.ExtTreeSet.mem_toList, and_comm]

/-- A node replaces the one before it. The schema objects it refers to are filled in, itself
included: by then it is there. -/
theorem node?_insert (graph : Graph) (node : Node) (id : Symbol) :
    (graph.insert node).node? id = if node.id = id then some node
      else (graph.node? id).or (if id ∈ schemaRefs node then some (.placeholder id) else none) := by
  have hstored (keyed) : (Graph.mk (graph.nodes.insert node.id node) graph.used keyed).node? id =
      if node.id = id then some node else graph.node? id := by
    rw [node?, Std.ExtTreeMap.getElem?_insert, node?]
    simp only [Std.LawfulEqCmp.compare_eq_iff_eq]
  rw [insert, node?_foldl_touch, hstored]
  split <;> simp

/-- Entering a node marks its schema references. -/
theorem mem_used_insert {node : Node} :
    id ∈ (graph.insert node).used ↔ id ∈ graph.used ∨ id ∈ schemaRefs node :=
  mem_used_foldl_touch

/-- Entering a node changes the references of no other one. -/
theorem refers_insert {node : Node} : (graph.insert node).Refers source target ↔
    if node.id = source then target ∈ node.refs else graph.Refers source target := by
  unfold Refers
  rw [node?_insert]
  by_cases hid : node.id = source
  · simp [hid]
  · rw [if_neg hid, if_neg hid]
    cases hold : graph.node? source with
    | some old => simp
    | none =>
      -- What is filled in refers to nothing.
      by_cases hfilled : source ∈ schemaRefs node
      · simp [hfilled, Node.placeholder]
      · simp [hfilled]

/-- The last node entered for a symbol stays, then comes what was there before, and only then what
has been filled in. -/
theorem node?_foldl_insert (nodes : List Node) (graph : Graph) (id : Symbol) :
    (nodes.foldl insert graph).node? id =
      ((nodes.findRev? fun node => node.id = id).or (graph.node? id)).or
        (if id ∈ nodes.flatMap schemaRefs then some (.placeholder id) else none) := by
  induction nodes generalizing graph with
  | nil => simp
  | cons node rest ih =>
    rw [List.foldl_cons, ih, node?_insert, List.findRev?_eq_find?_reverse,
      List.findRev?_eq_find?_reverse, List.reverse_cons, List.find?_append, List.flatMap_cons]
    -- A later node of the symbol wins over this one.
    cases hlater : rest.reverse.find? fun node => node.id = id with
    | some last => simp
    | none =>
      by_cases hid : node.id = id
      · simp [hid]
      · -- A symbol is filled in once, by whichever node refers to it first.
        cases hold : graph.node? id with
        | some old => simp [hid]
        | none => by_cases hnode : id ∈ schemaRefs node <;> simp [hid, hnode]

/-- Entering several nodes marks the schema references of all of them. -/
theorem mem_used_foldl_insert {nodes : List Node} :
    id ∈ (nodes.foldl insert graph).used ↔ id ∈ graph.used ∨ id ∈ nodes.flatMap schemaRefs := by
  induction nodes generalizing graph with
  | nil => simp
  | cons node rest ih =>
    rw [List.foldl_cons, ih, mem_used_insert, List.flatMap_cons, List.mem_append, or_assoc]

/-- Entering nodes brings their symbols, and placeholders for their schema references. -/
theorem has_foldl_insert {nodes : List Node} : (nodes.foldl insert graph).has id = true ↔
    (∃ node ∈ nodes, node.id = id) ∨ graph.has id = true ∨ id ∈ nodes.flatMap schemaRefs := by
  rw [has_eq_isSome, has_eq_isSome, node?_foldl_insert, Option.isSome_or, Option.isSome_or,
    List.findRev?_eq_find?_reverse, Bool.or_eq_true, Bool.or_eq_true, or_assoc]
  refine or_congr (by simp) (or_congr Iff.rfl ?_)
  split <;> simp [*]

/-- What a node refers to after nodes are entered it referred to before, or it is one of the
nodes. -/
theorem Refers.of_foldl_insert {nodes : List Node}
    (h : (nodes.foldl insert graph).Refers source target) :
    graph.Refers source target ∨ ∃ node ∈ nodes, node.id = source ∧ target ∈ node.refs := by
  induction nodes generalizing graph with
  | nil => exact .inl h
  | cons node rest ih =>
    rcases ih h with hbefore | ⟨other, hother, hid, htarget⟩
    · rw [refers_insert] at hbefore
      split at hbefore
      next hid => exact .inr ⟨node, List.mem_cons_self, hid, hbefore⟩
      next => exact .inl hbefore
    · exact .inr ⟨other, List.mem_cons_of_mem _ hother, hid, htarget⟩

/-- The calls that a file makes do not change the nodes. -/
theorem node?_apply (graph : Graph) (contribution : Contribution) (id : Symbol) :
    (graph.apply contribution).node? id = (contribution.nodes.foldl insert graph).node? id :=
  node?_foldl_markUsed _ _ _

theorem has_apply (graph : Graph) (contribution : Contribution) (id : Symbol) :
    (graph.apply contribution).has id = (contribution.nodes.foldl insert graph).has id := by
  rw [has_eq_isSome, has_eq_isSome, node?_apply]

theorem refers_apply {contribution : Contribution} :
    (graph.apply contribution).Refers source target ↔
    (contribution.nodes.foldl insert graph).Refers source target := by
  rw [Refers, Refers, node?_apply]

/-- The calls that a file makes are marked, besides the schema references of its nodes. -/
theorem mem_used_apply {contribution : Contribution} : id ∈ (graph.apply contribution).used ↔
    id ∈ (contribution.nodes.foldl insert graph).used ∨ id ∈ contribution.used :=
  mem_used_foldl_markUsed

/-! ### References -/

/-- A new reference is added to its source, if this is stored. -/
theorem node?_refer (graph : Graph) (source target id : Symbol) :
    (graph.refer source target).node? id =
      if source = id then (graph.node? id).map (·.refer target) else graph.node? id := by
  rw [node?, refer, Std.ExtTreeMap.getElem?_modify, node?]
  simp only [Std.LawfulEqCmp.compare_eq_iff_eq]
  split
  next hid => rw [hid]
  next => rfl

theorem label?_refer (graph : Graph) (source target id : Symbol) :
    (graph.refer source target).label? id = graph.label? id := by
  rw [label?, node?_refer]
  split
  · rw [Option.map_map]
    rfl
  · rfl

/-- The source has it besides those it had. -/
theorem mem_refs_refer {node : Node} {other : Symbol} :
    target ∈ (node.refer other).refs ↔ target ∈ node.refs ∨ target = other := by
  rw [Node.refer, Std.ExtTreeSet.mem_insert, Std.LawfulEqCmp.compare_eq_iff_eq, or_comm, eq_comm]

/-- One reference more, if there is a node to hold it. -/
theorem refers_refer {holder other : Symbol} : (graph.refer holder other).Refers source target ↔
    graph.Refers source target ∨ source = holder ∧ target = other ∧ graph.has holder = true := by
  unfold Refers
  rw [node?_refer, has_eq_isSome]
  by_cases hid : holder = source
  · subst hid
    cases hold : graph.node? holder with
    | none => simp
    | some old => simp [mem_refs_refer]
  · simp [hid, Ne.symm hid]

/-! ### Tables behind indexes -/

/-- A node with the tables of its indexes among its references. -/
def linked (graph : Graph) (node : Node) : Node :=
  { node with refs := node.refs.insertMany (graph.tablesThroughIndexes node) }

/-- Linking tables changes each node on its own, with respect to the graph before. -/
theorem node?_linkTables (graph : Graph) (id : Symbol) :
    graph.linkTables.node? id = (graph.node? id).map graph.linked :=
  Std.ExtTreeMap.getElem?_map

/-- Linking tables does not change labels. -/
theorem label?_linkTables (graph : Graph) (id : Symbol) :
    graph.linkTables.label? id = graph.label? id := by
  rw [label?, node?_linkTables, Option.map_map]
  rfl

/-- The tables of a node are those that its indexes refer to. -/
theorem mem_tablesThroughIndexes {node : Node} : target ∈ graph.tablesThroughIndexes node ↔
    target.kind = .table ∧ ∃ index ∈ node.refs, index.kind = .index ∧
      graph.Refers index target := by
  simp only [tablesThroughIndexes, List.mem_flatMap, List.mem_filter, Std.ExtTreeSet.mem_toList,
    beq_iff_eq]
  rw [← exists_and_left]
  refine exists_congr fun index => ?_
  cases hnode : graph.node? index with
  | none =>
    -- An index without a node leads nowhere.
    simp [Refers, hnode]
  | some indexNode =>
    simp only [List.mem_filter, Std.ExtTreeSet.mem_toList, beq_iff_eq, Refers.iff_of_node? hnode]
    constructor
    · rintro ⟨⟨hindex, hkind⟩, htarget, htable⟩
      exact ⟨htable, hindex, hkind, htarget⟩
    · rintro ⟨htable, hindex, hkind, htarget⟩
      exact ⟨⟨hindex, hkind⟩, htarget, htable⟩

/-- A linked node has them besides its own references. -/
theorem mem_refs_linked {node : Node} : target ∈ (graph.linked node).refs ↔ target ∈ node.refs ∨
    target.kind = .table ∧ ∃ index ∈ node.refs, index.kind = .index ∧
      graph.Refers index target := by
  rw [linked, Std.ExtTreeSet.mem_insertMany_list, List.contains_iff_mem, mem_tablesThroughIndexes]

/-- The references that come in are those to the tables of indexes that were there before. -/
theorem refers_linkTables : graph.linkTables.Refers source target ↔ graph.Refers source target ∨
    target.kind = .table ∧
      ∃ index, index.kind = .index ∧ graph.Refers source index ∧ graph.Refers index target := by
  cases hnode : graph.node? source with
  | none => simp [Refers, node?_linkTables, hnode]
  | some node =>
    have hlinked : graph.linkTables.node? source = some (graph.linked node) := by
      rw [node?_linkTables, hnode, Option.map_some]
    rw [Refers.iff_of_node? hlinked, mem_refs_linked, Refers.iff_of_node? hnode]
    refine or_congr Iff.rfl (and_congr Iff.rfl (exists_congr fun index => ?_))
    rw [Refers.iff_of_node? hnode, and_left_comm]

/-- Linking tables adds no node. -/
@[simp]
theorem has_linkTables (graph : Graph) (id : Symbol) : graph.linkTables.has id = graph.has id := by
  rw [has_eq_isSome, has_eq_isSome, node?_linkTables, Option.isSome_map]

end CallMap.Graph

/-! ### Schema -/

namespace CallMap.Schema

open CallMap.Graph

variable {graph : Graph} {id source target : Symbol}

/-- A table has a symbol as one of its indexes or fields. -/
def Table.Owns (table : Table) (member : Symbol) : Prop :=
  (∃ name ∈ table.indexes, member = .of name .index) ∨
    ∃ name ∈ table.fields, member = .of name .field

/-- The symbol of a table. -/
def Table.symbol (table : Table) : Symbol :=
  .of table.name .table

section Members

variable {table : Symbol} {kind : Kind}

/-- Entering a member changes no other node. -/
theorem node?_enterMember_of_ne {name : String} (h : id ≠ .of name kind) :
    (enterMember table kind graph name).node? id = graph.node? id := by
  rw [enterMember, node?_refer, if_neg (Ne.symm h), node?_insertIfNew, if_neg (Ne.symm h),
    Option.or_none]

/-- Entering a member adds its symbol. -/
theorem has_enterMember {name : String} : (enterMember table kind graph name).has id = true ↔
    graph.has id = true ∨ id = .of name kind := by
  rw [enterMember, ← @has_insertIfNew graph id ⟨.of name kind, name, ∅⟩, has_eq_isSome,
    has_eq_isSome, node?_refer]
  split <;> simp

/-- A member refers to its table, besides what it referred to. -/
theorem refers_enterMember {name : String} :
    (enterMember table kind graph name).Refers source target ↔
      graph.Refers source target ∨ target = table ∧ source = .of name kind := by
  -- The member is there by the time it gets its reference.
  have hhas :
      (graph.insertIfNew { id := .of name kind, label := name }).has (.of name kind) = true :=
    has_insertIfNew.mpr (.inr rfl)
  rw [enterMember, refers_refer, refers_insertIfNew rfl]
  simp [hhas, and_comm]

/-- Entering members changes no node of another kind. -/
theorem node?_foldl_enterMember_of_ne {names : List String} (h : id.kind ≠ kind) :
    (names.foldl (enterMember table kind) graph).node? id = graph.node? id := by
  induction names generalizing graph with
  | nil => rfl
  | cons name rest ih =>
    rw [List.foldl_cons, ih, node?_enterMember_of_ne]
    rintro rfl
    exact h rfl

/-- Entering members adds the symbols of all of them. -/
theorem has_foldl_enterMember {names : List String} :
    (names.foldl (enterMember table kind) graph).has id = true ↔
      graph.has id = true ∨ ∃ name ∈ names, id = .of name kind := by
  induction names generalizing graph with
  | nil => simp
  | cons name rest ih =>
    simp only [List.foldl_cons, ih, has_enterMember, or_assoc, List.mem_cons, exists_eq_or_imp]

/-- All members of a table refer to it. -/
theorem refers_foldl_enterMember {names : List String} :
    (names.foldl (enterMember table kind) graph).Refers source target ↔
      graph.Refers source target ∨ target = table ∧ ∃ name ∈ names, source = .of name kind := by
  induction names generalizing graph with
  | nil => simp
  | cons name rest ih =>
    simp only [List.foldl_cons, ih, refers_enterMember, or_assoc, ← and_or_left, List.mem_cons,
      exists_eq_or_imp]

end Members

/-- Entering a table changes nothing outside the schema. -/
theorem node?_enterTable_of_not_isSchema {table : Table} (h : id.kind.isSchema = false) :
    (enterTable graph table).node? id = graph.node? id := by
  have hne (kind : Kind) (hkind : kind.isSchema = true) : id.kind ≠ kind := by
    rintro rfl
    exact absurd hkind (by simp [h])
  have htable : Symbol.of table.name .table ≠ id := fun heq => hne .table rfl (heq ▸ rfl)
  rw [enterTable, node?_foldl_enterMember_of_ne (hne .field rfl),
    node?_foldl_enterMember_of_ne (hne .index rfl), node?_insertIfNew, if_neg htable,
      Option.or_none]

/-- Entering a table adds the table and its members. -/
theorem has_enterTable {table : Table} : (enterTable graph table).has id = true ↔
    graph.has id = true ∨ id = table.symbol ∨ table.Owns id := by
  rw [enterTable, has_foldl_enterMember, has_foldl_enterMember, has_insertIfNew, or_assoc, or_assoc]
  rfl

/-- The members of a table refer to it, and nothing else is added. -/
theorem refers_enterTable {table : Table} : (enterTable graph table).Refers source target ↔
    graph.Refers source target ∨ target = table.symbol ∧ table.Owns source := by
  rw [enterTable, refers_foldl_enterMember, refers_foldl_enterMember, refers_insertIfNew rfl,
    or_assoc, ← and_or_left]
  rfl

/-- The schema says nothing about units of code. -/
theorem node?_enter_of_not_isSchema {tables : List Table} (h : id.kind.isSchema = false) :
    (enter graph tables).node? id = graph.node? id := by
  unfold enter
  induction tables generalizing graph with
  | nil => rfl
  | cons table rest ih => rw [List.foldl_cons, ih, node?_enterTable_of_not_isSchema h]

/-- Entering a schema brings its tables and their members. -/
theorem has_enter {tables : List Table} : (enter graph tables).has id = true ↔
    graph.has id = true ∨ ∃ table ∈ tables, id = table.symbol ∨ table.Owns id := by
  unfold enter
  induction tables generalizing graph with
  | nil => simp
  | cons table rest ih =>
    simp only [List.foldl_cons, ih, has_enterTable, or_assoc, List.mem_cons, exists_eq_or_imp]

/-- The references that come in lead from the indexes and fields of a table to the table. -/
theorem refers_enter {tables : List Table} : (enter graph tables).Refers source target ↔
    graph.Refers source target ∨ ∃ table ∈ tables, target = table.symbol ∧ table.Owns source := by
  unfold enter
  induction tables generalizing graph with
  | nil => simp
  | cons table rest ih =>
    simp only [List.foldl_cons, ih, refers_enterTable, or_assoc, List.mem_cons, exists_eq_or_imp]

end CallMap.Schema
