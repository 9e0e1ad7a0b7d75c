import Mathlib.Data.List.Perm.Basic
import CallMap.Proofs.Orphans
import CallMap.Proofs.SchemaEntry
import CallMap.Proofs.UsageHistory

/-!
# Passes in any order

Three passes of the enrichment are optional: the usage history, the system procedures and the
schema. Each of them goes by its own documents and never looks at the graph to find out what to do.
The first two only mark symbols and the third only enters nodes and references, so no pass can tell
whether another one has been there before it.

* `Pass.Does`: a pass that does the same to every graph.
* `Pass.inOrder_ends`: what such passes leave when they follow one another.
* `Pass.Keeps`: a part of the graph that a pass leaves alone, even if it halts.
* `Analysis.passes_independent`: the optional passes can be run in any order.
-/

namespace CallMap

namespace Pass

variable {α β γ : Type} {graph : Graph}

/-- Passes one after the other, with the results of all of them. -/
def inOrder : List (Pass α) → Pass (List α)
  | [] => pure []
  | pass :: rest => do
    let result ← pass
    let results ← inOrder rest
    return result :: results

/-- A pass ends with the same result on every graph, and changes every graph in the same way. -/
def Does (pass : Pass α) (result : α) (change : Graph → Graph) : Prop :=
  ∀ graph, pass.Ends graph result (change graph)

/-- Passes that do the same to every graph have all their results, and their changes follow one
another. -/
theorem inOrder_ends {pass : β → Pass α} {result : β → α} {change : β → Graph → Graph}
    (h : ∀ index, (pass index).Does (result index) (change index)) (order : List β)
    (graph : Graph) :
    (inOrder (order.map pass)).Ends graph (order.map result)
      (order.foldl (fun graph index => change index graph) graph) := by
  induction order generalizing graph with
  | nil => exact ends_pure.mpr ⟨rfl, rfl⟩
  | cons first rest ih =>
    -- The first pass leaves its change behind, and the others go on from there.
    refine ends_bind.mpr ⟨_, _, h first graph, ?_⟩
    refine ends_bind.mpr ⟨_, _, ih (change first graph), ?_⟩
    exact ends_pure.mpr ⟨rfl, rfl⟩

/-- A part of the graph is the same after a pass as before it, however the pass ends. -/
def Keeps (part : Graph → γ) (pass : Pass α) : Prop :=
  ∀ graph, part (pass graph).1 = part graph

variable {part : Graph → γ}

/-- What does not touch the graph keeps every part of it. -/
theorem keeps_lift (part : Graph → γ) (traced : Traced α) : Keeps part (lift traced) :=
  fun _ => rfl

/-- Two passes that keep a part of the graph, one after the other, keep it. -/
theorem Keeps.bind {first : Pass α} {second : α → Pass β} (hfirst : Keeps part first)
    (hsecond : ∀ value, Keeps part (second value)) : Keeps part (first >>= second) := by
  intro graph
  show part (first.bind second graph).1 = part graph
  have hmiddle := hfirst graph
  unfold Pass.bind
  rcases heq : first graph with ⟨middle, notes, outcome⟩
  rw [heq] at hmiddle
  cases outcome with
  | error reason => exact hmiddle
  | ok value => exact (hsecond value middle).trans hmiddle

end Pass

namespace Graph

variable {graph : Graph}

/-! ### Marks and schemas -/

/-- It does not matter what is marked first. -/
theorem foldl_markUsed_comm (marks others : List Symbol) (graph : Graph) :
    marks.foldl markUsed (others.foldl markUsed graph) =
      others.foldl markUsed (marks.foldl markUsed graph) := by
  refine eq_of_node?_eq_of_mem_used_iff (fun id => ?_) fun id => ?_
  · simp only [node?_foldl_markUsed]
  · simp only [mem_used_foldl_markUsed, or_assoc, or_comm (a := id ∈ others)]

/-- Marks and a schema do not get in each other's way, also where the schema enters a symbol that is
marked. -/
theorem enter_foldl_markUsed (marks : List Symbol) (tables : List Schema.Table) (graph : Graph) :
    Schema.enter (marks.foldl markUsed graph) tables =
      marks.foldl markUsed (Schema.enter graph tables) := by
  refine eq_of_label?_eq_of_refers_iff (fun id => ?_) (fun source target => ?_) ?_
  · rw [Schema.label?_enter, label?_foldl_markUsed, label?_foldl_markUsed, Schema.label?_enter]
  · rw [Schema.refers_enter, refers_foldl_markUsed, refers_foldl_markUsed, Schema.refers_enter]
  · ext id
    rw [Schema.used_enter, mem_used_foldl_markUsed, mem_used_foldl_markUsed, Schema.used_enter]

end Graph

/-! ### What each pass does -/

open CallMap.Graph (markUsed)

namespace Usage

variable {modules usageLog : Document} {since : Date} {graph after : Graph} {count : Nat}

/-- A history that can be applied to one graph can be applied to any, and marks the same symbols. -/
theorem exists_does_apply (h : (apply modules usageLog since).Ends graph count after) :
    ∃ marks : List Symbol, (apply modules usageLog since).Does count (marks.foldl markUsed) := by
  obtain ⟨entered, ids, hentered, hids, hmarked⟩ := apply_ends.mp h
  obtain ⟨hknown, rfl, -⟩ := markModules_ends.mp hmarked
  refine ⟨marks entered ids.toList, fun other => apply_ends.mpr ⟨entered, ids, hentered, hids, ?_⟩⟩
  exact markModules_ends.mpr ⟨hknown, rfl, rfl⟩

/-- Marking a module leaves the nodes alone. -/
theorem keeps_nodes_markModule (directory : Directory) (id : String) :
    Pass.Keeps Graph.nodes (markModule directory id) := by
  unfold markModule
  split
  · exact Pass.keeps_lift _ _
  · -- A module is passed over with a note, or it is marked.
    dsimp only
    split_ifs
    all_goals exact .bind (fun _ => rfl) fun _ => Pass.keeps_lift _ _

/-- Marking several modules leaves the nodes alone. -/
theorem keeps_nodes_markModules (directory : Directory) (ids : List String) :
    Pass.Keeps Graph.nodes (markModules directory ids) := by
  induction ids with
  | nil => exact Pass.keeps_lift _ _
  | cons id rest ih =>
    exact (keeps_nodes_markModule directory id).bind fun _ => ih.bind fun _ => Pass.keeps_lift _ _

/-- A history changes no node, even if it halts halfway. -/
theorem keeps_nodes_apply (modules usageLog : Document) (since : Date) :
    Pass.Keeps Graph.nodes (apply modules usageLog since) :=
  (Pass.keeps_lift _ _).bind fun directory => (Pass.keeps_lift _ _).bind fun _ =>
    keeps_nodes_markModules directory _

end Usage

namespace SystemProcedures

variable {document : Document} {graph after : Graph} {count : Nat}

theorem enter_eq_foldl_markUsed (graph : Graph) (names : List String) :
    enter graph names = (names.map (Symbol.of · .procedure)).foldl markUsed graph := by
  rw [enter, List.foldl_map]

/-- A list of system procedures does the same to every graph: it marks. -/
theorem exists_does_apply (h : (apply document).Ends graph count after) :
    ∃ marks : List Symbol, (apply document).Does count (marks.foldl markUsed) := by
  simp only [apply, Pass.ends_bind, Pass.ends_ofExcept, Pass.ends_update, Pass.ends_pure] at h
  obtain ⟨names, _, ⟨hnames, rfl⟩, _, _, rfl, rfl, -⟩ := h
  refine ⟨names.map (Symbol.of · .procedure), fun other => ?_⟩
  simp only [apply, Pass.ends_bind, Pass.ends_ofExcept, Pass.ends_update, Pass.ends_pure]
  exact ⟨names, other, ⟨hnames, rfl⟩, (), _, rfl, rfl, (enter_eq_foldl_markUsed other names).symm⟩

/-- A list of system procedures leaves the nodes alone. -/
theorem keeps_nodes_apply (document : Document) : Pass.Keeps Graph.nodes (apply document) := by
  refine (Pass.keeps_lift _ _).bind fun names => .bind (fun graph => ?_) fun _ =>
    Pass.keeps_lift _ _
  show (enter graph names).nodes = graph.nodes
  rw [enter_eq_foldl_markUsed]
  exact Std.ExtTreeMap.ext_getElem? (Graph.node?_foldl_markUsed _ graph)

end SystemProcedures

namespace Schema

variable {document : Document} {graph after : Graph} {count : Nat}

/-- A schema does the same to every graph: it enters its tables. -/
theorem exists_does_apply (h : (apply document).Ends graph count after) :
    ∃ tables : List Table, (apply document).Does count (enter · tables) := by
  simp only [apply, Pass.ends_bind, Pass.ends_ofExcept, Pass.ends_update, Pass.ends_pure] at h
  obtain ⟨tables, _, ⟨htables, rfl⟩, _, _, rfl, rfl, -⟩ := h
  exact ⟨tables, fun other => apply_ends htables⟩

/-- A schema leaves the marks alone. -/
theorem keeps_used_apply (document : Document) : Pass.Keeps Graph.used (apply document) :=
  (Pass.keeps_lift _ _).bind fun tables =>
    .bind (fun graph => used_enter graph tables) fun _ => Pass.keeps_lift _ _

end Schema

/-! ### All passes -/

namespace Analysis

/-- The optional passes of the enrichment. -/
inductive Supplement
  /-- The usage history. -/
  | history
  /-- The system procedures. -/
  | procedures
  /-- The schema. -/
  | schema
  deriving DecidableEq, Repr

/-- All optional passes. -/
def Supplement.all : List Supplement :=
  [.history, .procedures, .schema]

/-- What the optional passes read. -/
structure Sources where
  /-- The module directory. -/
  modules : Document
  /-- The usage log. -/
  usageLog : Document
  /-- The date from which on invocations count. -/
  since : Date
  /-- The list of system procedures. -/
  procedures : Document
  /-- The tables of the database. -/
  schema : Document

/-- An optional pass over what it reads. -/
def Sources.pass (sources : Sources) : Supplement → Pass Nat
  | .history => Usage.apply sources.modules sources.usageLog sources.since
  | .procedures => SystemProcedures.apply sources.procedures
  | .schema => Schema.apply sources.schema

variable {sources : Sources} {graph : Graph} {count : Supplement → Nat}

/-- Where every pass ends, each does the same to every graph, and any two of them can change
places. -/
theorem exists_commuting_changes
    (h : ∀ supplement, ∃ after, (sources.pass supplement).Ends graph (count supplement) after) :
    ∃ change : Supplement → Graph → Graph,
      (∀ supplement, (sources.pass supplement).Does (count supplement) (change supplement)) ∧
        ∀ first second graph, change second (change first graph) =
          change first (change second graph) := by
  obtain ⟨invoked, hhistory⟩ := Usage.exists_does_apply (h .history).choose_spec
  obtain ⟨called, hprocedures⟩ := SystemProcedures.exists_does_apply (h .procedures).choose_spec
  obtain ⟨tables, hschema⟩ := Schema.exists_does_apply (h .schema).choose_spec
  refine ⟨fun
    | .history => invoked.foldl markUsed
    | .procedures => called.foldl markUsed
    | .schema => (Schema.enter · tables), ?_, ?_⟩
  -- Each supplement does the same to every graph.
  · rintro (_ | _ | _)
    · exact hhistory
    · exact hprocedures
    · exact hschema
  · -- Marks go with marks in either order, and the schema goes with marks.
    have hmarks := Graph.foldl_markUsed_comm invoked called
    have hschema := Graph.enter_foldl_markUsed
    rintro (_ | _ | _) (_ | _ | _) graph <;> simp only [hmarks, hschema]

/-- The optional passes, for what they read, are independent of each other. -/
structure Independent (sources : Sources) : Prop where
  /-- If each pass ends on a graph, they end in any order. They always leave the same graph, and
  each has the number that it has on its own. -/
  any_order {graph : Graph} {count : Supplement → Nat} :
    (∀ supplement, ∃ after, (sources.pass supplement).Ends graph (count supplement) after) →
      ∃ after, ∀ order : List Supplement, order.Perm Supplement.all →
        (Pass.inOrder (order.map sources.pass)).Ends graph (order.map count) after
  /-- The history changes no node, whether it ends or halts. -/
  history_nodes (graph : Graph) : (sources.pass .history graph).1.nodes = graph.nodes
  /-- Neither do the system procedures. -/
  procedures_nodes (graph : Graph) : (sources.pass .procedures graph).1.nodes = graph.nodes
  /-- The schema changes no mark. -/
  schema_used (graph : Graph) : (sources.pass .schema graph).1.used = graph.used
  /-- Neither do the references to tables through their indexes. -/
  links_used (graph : Graph) : (linkTables graph).1.used = graph.used

/-- The optional passes can be run in any order. -/
theorem passes_independent (sources : Sources) : Independent sources where
  any_order := by
    intro graph count h
    obtain ⟨change, hdoes, hcomm⟩ := exists_commuting_changes h
    refine ⟨Supplement.all.foldl (fun graph supplement => change supplement graph) graph, ?_⟩
    intro order horder
    rw [← horder.foldl_eq' fun first _ second _ => hcomm first second]
    exact Pass.inOrder_ends hdoes order graph
  history_nodes := Usage.keeps_nodes_apply _ _ _
  procedures_nodes := SystemProcedures.keeps_nodes_apply _
  schema_used := Schema.keeps_used_apply _
  links_used _ := rfl

/-- A history with one module that counts, two system procedures, and three tables, two of which
have the same symbol. -/
def sampleSources : Sources where
  modules := Usage.sampleModules
  usageLog := Usage.sampleLog
  since := ⟨2024, 1, 1⟩
  procedures := ⟨"p.json", .ok (Tag.bytes "\x7b\"systemProcedures\":[\"P\",\"Q\"]\x7d")⟩
  schema := ⟨"s.json", .ok (Tag.bytes
    ("[\x7b\"name\":\"T\",\"indexes\":[\x7b\"name\":\"I\"\x7d]\x7d,"
      ++ "\x7b\"name\":\"U\"\x7d,\x7b\"name\":\"t\"\x7d]"))⟩

/-- The numbers that these passes have. -/
def sampleCount : Supplement → Nat
  | .history => 1
  | .procedures => 2
  | .schema => 3

/-- With the schema first and the history last, the passes leave the same as in their usual
order. -/
theorem passes_independent_sampleSources :
    (∀ supplement, ∃ after,
        (sampleSources.pass supplement).Ends Graph.sampleUnits (sampleCount supplement) after) ∧
      ∃ after,
        (Pass.inOrder ([.history, .procedures, .schema].map sampleSources.pass)).Ends
          Graph.sampleUnits [1, 2, 3] after ∧
          (Pass.inOrder ([.schema, .procedures, .history].map sampleSources.pass)).Ends
            Graph.sampleUnits [3, 2, 1] after := by
  have hends (supplement : Supplement) : ∃ after,
      (sampleSources.pass supplement).Ends Graph.sampleUnits (sampleCount supplement) after := by
    refine ⟨_, rfl, ?_⟩
    cases supplement <;> decide +kernel
  obtain ⟨after, hafter⟩ := (passes_independent sampleSources).any_order hends
  exact ⟨hends, after, hafter _ (by decide), hafter _ (by decide)⟩

end Analysis

end CallMap
