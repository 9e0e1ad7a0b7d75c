import CallMap.Proofs.Pass
import CallMap.Proofs.Store

/-!
# Entering a schema

A schema is a list of tables, and each table mentions itself, its indexes and its fields, in this
order. One symbol may be mentioned many times, under several tables and in several spellings, and it
may have a node already. Every mention makes sure that there is a node, so the first one decides how
a new node is labelled; the mentions as an index or a field also bring in references.

* `Schema.label?_enter`: labels that are there stay, and the first mention labels what is new.
* `Schema.enter_enter`: entering a schema again changes nothing.
* `Schema.enter_reconciles`: all that entering a schema does to a graph.
-/

namespace CallMap.Schema

open CallMap.Graph

variable {graph : Graph} {tables : List Table} {id : Symbol}

/-! ### Mentions -/

/-- The mentions of indexes or fields, each with its spelling. -/
def memberMentions (kind : Kind) (names : List String) : List (Symbol × String) :=
  names.map fun name => (.of name kind, name)

/-- What a table mentions: itself, then its indexes, then its fields. -/
def Table.mentions (table : Table) : List (Symbol × String) :=
  (table.symbol, table.name) ::
    (memberMentions .index table.indexes ++ memberMentions .field table.fields)

/-- What tables mention, one table after the other. -/
def mentions (tables : List Table) : List (Symbol × String) :=
  tables.flatMap Table.mentions

/-- A symbol is spelled like this where it is mentioned first. -/
def IsFirstMention (tables : List Table) (id : Symbol) (spelling : String) : Prop :=
  ∃ before later, mentions tables = before ++ (id, spelling) :: later ∧
    ∀ mention ∈ before, mention.1 ≠ id

/-- The spelling of the first mention of a symbol. -/
def firstSpelling (mentions : List (Symbol × String)) (id : Symbol) : Option String :=
  (mentions.find? fun mention => mention.1 = id).map Prod.snd

theorem firstSpelling_cons (mention : Symbol × String) (rest : List (Symbol × String))
    (id : Symbol) : firstSpelling (mention :: rest) id =
      (if mention.1 = id then some mention.2 else none).or (firstSpelling rest id) := by
  unfold firstSpelling
  by_cases h : mention.1 = id <;> simp [h]

/-- The first list comes first. -/
theorem firstSpelling_append (first second : List (Symbol × String)) (id : Symbol) :
    firstSpelling (first ++ second) id = (firstSpelling first id).or (firstSpelling second id) := by
  rw [firstSpelling, List.find?_append, Option.map_or]
  rfl

/-- The spelling that is found is that of the first mention. -/
theorem firstSpelling_mentions {spelling : String}
    (h : firstSpelling (mentions tables) id = some spelling) :
    IsFirstMention tables id spelling := by
  obtain ⟨⟨found, _⟩, hfound, rfl⟩ := Option.map_eq_some_iff.mp h
  obtain ⟨hid, before, later, hmentions, hbefore⟩ := List.find?_eq_some_iff_append.mp hfound
  obtain rfl : found = id := by simpa using hid
  exact ⟨before, later, hmentions, by simpa using hbefore⟩

/-! ### Labels and marks -/

/-- A new member has its name as label; one that is there keeps its label. -/
theorem label?_enterMember (table : Symbol) (kind : Kind) (graph : Graph) (name : String)
    (id : Symbol) : (enterMember table kind graph name).label? id =
      (graph.label? id).or (if Symbol.of name kind = id then some name else none) := by
  rw [enterMember, label?_refer, label?_insertIfNew]

/-- Of several members with one symbol, the first gives the label. -/
theorem label?_foldl_enterMember (table : Symbol) (kind : Kind) (names : List String)
    (graph : Graph) (id : Symbol) : (names.foldl (enterMember table kind) graph).label? id =
      (graph.label? id).or (firstSpelling (memberMentions kind names) id) := by
  induction names generalizing graph with
  | nil => exact (Option.or_none).symm
  | cons name rest ih =>
    have hmentions : memberMentions kind (name :: rest) =
        (Symbol.of name kind, name) :: memberMentions kind rest := List.map_cons
    rw [List.foldl_cons, ih, label?_enterMember, Option.or_assoc, hmentions, firstSpelling_cons]

/-- Entering a table gives new symbols their first spelling, where the table comes before its
members. -/
theorem label?_enterTable (graph : Graph) (table : Table) (id : Symbol) :
    (enterTable graph table).label? id = (graph.label? id).or
      (firstSpelling table.mentions id) := by
  rw [enterTable, label?_foldl_enterMember, label?_foldl_enterMember, label?_insertIfNew,
    Option.or_assoc, Option.or_assoc, Table.mentions, firstSpelling_cons, firstSpelling_append]
  rfl

/-- A label that is there stays, and a new node is labelled by its first mention. -/
theorem label?_enter (graph : Graph) (tables : List Table) (id : Symbol) :
    (enter graph tables).label? id = (graph.label? id).or (firstSpelling (mentions tables) id) := by
  unfold enter
  induction tables generalizing graph with
  | nil => exact (Option.or_none).symm
  | cons table rest ih =>
    have hmentions : mentions (table :: rest) = table.mentions ++ mentions rest := List.flatMap_cons
    rw [List.foldl_cons, ih, label?_enterTable, Option.or_assoc, hmentions, firstSpelling_append]

/-- Members are entered without being marked. -/
theorem used_foldl_enterMember (table : Symbol) (kind : Kind) (names : List String)
    (graph : Graph) : (names.foldl (enterMember table kind) graph).used = graph.used := by
  induction names generalizing graph with
  | nil => rfl
  | cons name rest ih => exact ih _

/-- A schema says nothing about use. -/
theorem used_enter (graph : Graph) (tables : List Table) :
    (enter graph tables).used = graph.used := by
  unfold enter
  induction tables generalizing graph with
  | nil => rfl
  | cons table rest ih =>
    rw [List.foldl_cons, ih, enterTable, used_foldl_enterMember, used_foldl_enterMember]
    rfl

/-! ### The whole schema -/

/-- The second time, every symbol that is mentioned has its label and its references. -/
theorem enter_enter (graph : Graph) (tables : List Table) :
    enter (enter graph tables) tables = enter graph tables := by
  refine eq_of_label?_eq_of_refers_iff (fun id => ?_) (fun source target => ?_) (used_enter _ _)
  · rw [label?_enter, label?_enter, Option.or_assoc, Option.or_self]
  · rw [refers_enter, refers_enter, or_assoc, or_self]

/-- What a graph becomes when the tables of a schema are entered. -/
structure Reconciled (graph : Graph) (tables : List Table) (after : Graph) : Prop where
  /-- A symbol has a node if it had one, or if it is a table of the schema, or an index or field of
  one. -/
  has_iff {id : Symbol} : after.has id = true ↔
    graph.has id = true ∨ ∃ table ∈ tables, id = table.symbol ∨ table.Owns id
  /-- A node that was there keeps its label and its references. -/
  kept {id : Symbol} {node : Node} : graph.node? id = some node →
    ∃ found, after.node? id = some found ∧ found.label = node.label ∧
      ∀ target ∈ node.refs, target ∈ found.refs
  /-- A new node is labelled as it is spelled where the schema mentions it first. -/
  labelled {id : Symbol} {node : Node} : graph.node? id = none → after.node? id = some node →
    IsFirstMention tables id node.label
  /-- The references that come in lead from an index or a field to the tables that have it. -/
  refers {source target : Symbol} : after.Refers source target ↔
    graph.Refers source target ∨ ∃ table ∈ tables, target = table.symbol ∧ table.Owns source
  /-- A node that is no index or field of the schema does not change. -/
  untouched {id : Symbol} : graph.has id = true → (∀ table ∈ tables, ¬table.Owns id) →
    after.node? id = graph.node? id
  /-- No mark comes or goes. -/
  used : after.used = graph.used
  /-- The schema has nothing to add to that. -/
  again : enter after tables = after
  /-- Any document with these tables does this to the graph, and gives their number. -/
  applied {document : Document} : Schema.tables document = .ok tables →
    (apply document).Ends graph tables.length after

/-- A schema that can be read is entered, and its tables are counted. -/
theorem apply_ends {document : Document} (h : Schema.tables document = .ok tables) :
    (apply document).Ends graph tables.length (enter graph tables) := by
  simp only [apply, Pass.ends_bind, Pass.ends_ofExcept, Pass.ends_update, Pass.ends_pure]
  exact ⟨tables, graph, ⟨h, rfl⟩, (), enter graph tables, rfl, rfl, rfl⟩

/-- Entering a schema reconciles a graph with it, whatever the tables mention and however often. -/
theorem enter_reconciles (graph : Graph) (tables : List Table) :
    Reconciled graph tables (enter graph tables) := by
  constructor
  case has_iff => exact has_enter
  case kept =>
    intro id node hnode
    have hlabel : (enter graph tables).label? id = some node.label := by
      rw [label?_enter, label?, hnode, Option.map_some, Option.some_or]
    obtain ⟨found, hfound, hsame⟩ := Option.map_eq_some_iff.mp hlabel
    refine ⟨found, hfound, hsame, fun target htarget => ?_⟩
    rw [← Refers.iff_of_node? hfound, refers_enter]
    exact .inl ((Refers.iff_of_node? hnode).mpr htarget)
  case labelled =>
    intro id node hnone hnode
    have hlabel : (enter graph tables).label? id = some node.label := by
      rw [label?, hnode, Option.map_some]
    -- Without a label from before, it is the first mention that gives one.
    rw [label?_enter, label?, hnone, Option.map_none, Option.none_or] at hlabel
    exact firstSpelling_mentions hlabel
  case refers => exact refers_enter
  case untouched =>
    intro id hhas howned
    refine node?_eq_of_label?_eq ?_ fun target => ?_
    · rw [has_eq_isSome_label?, Option.isSome_iff_exists] at hhas
      obtain ⟨label, hlabel⟩ := hhas
      rw [label?_enter, hlabel, Option.some_or]
    · rw [refers_enter, or_iff_left_iff_imp]
      rintro ⟨table, htable, -, howns⟩
      exact absurd howns (howned table htable)
  case used => exact used_enter graph tables
  case again => exact enter_enter graph tables
  case applied => exact apply_ends

end CallMap.Schema
