import Mathlib.Data.List.Forall2
import CallMap.Analysis

/-!
# What passes leave behind

A pass either halts or ends with a result; here are the graphs that passes leave when they end.
Notes play no part in that.

* `Pass.ends_bind`: one pass after the other.
* `Analysis.decode_ends`: decoding enters what every single file contributes, in order.
* `Analysis.enrich_ends`: enrichment marks symbols, enters tables and links tables to indexes, and
  that is all.
* `Analysis.runWith_graph`: the graph of a whole analysis.
-/

namespace CallMap

namespace Pass

variable {α β : Type} {graph after : Graph}

/-- A pass over a graph ends with a result and leaves a graph. -/
def Ends (pass : Pass α) (graph : Graph) (result : α) (after : Graph) : Prop :=
  (pass graph).1 = after ∧ (pass graph).2.outcome = .ok result

/-- What does not touch the graph leaves it as it was. -/
theorem ends_lift {traced : Traced α} {result : α} :
    (lift traced).Ends graph result after ↔ traced.outcome = .ok result ∧ after = graph := by
  rw [Ends, lift, and_comm, eq_comm (a := graph)]

theorem ends_pure {value result : α} :
    (pure value : Pass α).Ends graph result after ↔ result = value ∧ after = graph := by
  change (lift (pure value)).Ends graph result after ↔ _
  rw [ends_lift, Traced.pure_outcome, Except.ok.injEq, eq_comm (a := value)]

theorem ends_ofExcept {outcome : Except Failure α} {result : α} :
    (ofExcept outcome).Ends graph result after ↔ outcome = .ok result ∧ after = graph := by
  rw [ofExcept, ends_lift]
  refine and_congr ?_ Iff.rfl
  cases outcome with
  | error failure => simp [Traced.ofExcept, Traced.fail, Traced.halt]
  | ok value => simp [Traced.ofExcept, Traced.result]

/-- A change of the graph always goes well. -/
theorem ends_update {change : Graph → Graph} {result : Unit} :
    (update change).Ends graph result after ↔ after = change graph := by
  simp [Ends, update, eq_comm]

theorem ends_note {level : Level} {origin : Origin} {text : String} {result : Unit} :
    (note level origin text).Ends graph result after ↔ after = graph := by
  rw [note, ends_lift]
  simp [Traced.note]

/-- A sequence of two passes ends where both of them do, the second on what the first has left. -/
theorem ends_bind {first : Pass α} {second : α → Pass β} {result : β} :
    (first >>= second).Ends graph result after ↔
      ∃ value middle, first.Ends graph value middle ∧ (second value).Ends middle result after := by
  change (first.bind second).Ends graph result after ↔ _
  unfold Ends Pass.bind
  rcases hfirst : first graph with ⟨middle, notes, outcome⟩
  cases outcome with
  | error reason => simp
  | ok value => simp

end Pass

namespace Graph

/-- A pass that ends has done nothing but count symbols as used. -/
def MarksOnly {α : Type} (pass : Pass α) : Prop :=
  ∀ graph result after, pass.Ends graph result after →
    ∃ marks, after = List.foldl markUsed graph marks

/-- What does not touch the graph marks nothing. -/
theorem marksOnly_lift {α : Type} (traced : Traced α) : MarksOnly (Pass.lift traced) := by
  intro graph result after hends
  exact ⟨[], (Pass.ends_lift.mp hends).2⟩

theorem marksOnly_pure {α : Type} (value : α) : MarksOnly (pure value : Pass α) :=
  marksOnly_lift (pure value)

/-- Two passes that only mark, one after the other, only mark. -/
theorem MarksOnly.bind {α β : Type} {first : Pass α} {second : α → Pass β}
    (hfirst : MarksOnly first) (hsecond : ∀ value, MarksOnly (second value)) :
    MarksOnly (first >>= second) := by
  intro graph result after hends
  obtain ⟨value, middle, hmiddle, hafter⟩ := Pass.ends_bind.mp hends
  obtain ⟨early, rfl⟩ := hfirst graph value middle hmiddle
  obtain ⟨late, rfl⟩ := hsecond value _ result after hafter
  exact ⟨early ++ late, List.foldl_append.symm⟩

/-- Marking some symbols is marking only. -/
theorem marksOnly_update (marks : List Symbol) :
    MarksOnly (Pass.update fun graph => marks.foldl markUsed graph) := by
  intro graph result after hends
  exact ⟨marks, Pass.ends_update.mp hends⟩

end Graph

open CallMap.Graph (MarksOnly)

/-- One logic id marks at most the symbol of its module. -/
theorem Usage.marksOnly_markModule (directory : Directory) (id : String) :
    MarksOnly (markModule directory id) := by
  unfold markModule
  split
  · exact Graph.marksOnly_lift _
  · dsimp only
    split_ifs
    · exact (Graph.marksOnly_lift _).bind fun _ => Graph.marksOnly_pure _
    · exact (Graph.marksOnly_lift _).bind fun _ => Graph.marksOnly_pure _
    · exact (Graph.marksOnly_update [_]).bind fun _ => Graph.marksOnly_pure _

/-- Several logic ids only mark symbols. -/
theorem Usage.marksOnly_markModules (directory : Directory) (ids : List String) :
    MarksOnly (markModules directory ids) := by
  induction ids with
  | nil => exact Graph.marksOnly_pure 0
  | cons id rest ih =>
    exact (marksOnly_markModule directory id).bind fun _ => ih.bind fun _ => Graph.marksOnly_pure _

/-- A usage history only marks symbols. -/
theorem Usage.marksOnly_apply (modules usageLog : Document) (since : Date) :
    MarksOnly (apply modules usageLog since) :=
  (Graph.marksOnly_lift _).bind fun directory => (Graph.marksOnly_lift _).bind fun _ =>
    marksOnly_markModules directory _

/-- A list of system procedures only marks symbols. -/
theorem SystemProcedures.marksOnly_apply (document : Document) : MarksOnly (apply document) := by
  refine (Graph.marksOnly_lift _).bind fun names => ?_
  have henter : (fun graph => enter graph names) =
      fun graph => (names.map (Symbol.of · .procedure)).foldl Graph.markUsed graph := by
    funext graph
    rw [enter, List.foldl_map]
  rw [henter]
  exact (Graph.marksOnly_update _).bind fun _ => Graph.marksOnly_pure _

namespace Analysis

variable {tokenizer : Tokenizer} {disk : Disk} {config : Config} {graph after : Graph}

/-! ### Decoding -/

/-- What a file gives when it is decoded. -/
def Decodes (tokenizer : Tokenizer) (disk : Disk) (file : ExportFile)
    (contribution : Contribution) : Prop :=
  (Contribution.ofFile tokenizer disk file.path).outcome = .ok contribution

/-- A file that is decoded is entered into the graph. -/
theorem decodeFile_ends {file : ExportFile}
    (h : (decodeFile tokenizer disk file).Ends graph () after) :
    ∃ contribution, Decodes tokenizer disk file contribution ∧
      after = graph.apply contribution := by
  simp only [decodeFile, Pass.ends_bind, Pass.ends_note, Pass.ends_lift, Pass.ends_update] at h
  obtain ⟨_, _, rfl, contribution, _, ⟨hfile, rfl⟩, _, _, rfl, rfl⟩ := h
  exact ⟨contribution, hfile, rfl⟩

/-- Decoding enters what the files contribute, one after the other. -/
theorem decode_ends {files : List ExportFile} {count : Nat}
    (h : (decode tokenizer disk files).Ends graph count after) :
    ∃ contributions, List.Forall₂ (Decodes tokenizer disk) files contributions ∧
      after = contributions.foldl Graph.apply graph := by
  induction files generalizing graph count with
  | nil => exact ⟨[], .nil, (Pass.ends_pure.mp h).2⟩
  | cons file rest ih =>
    simp only [decode, Pass.ends_bind, Pass.ends_pure] at h
    obtain ⟨_, middle, hfirst, others, final, hrest, -, rfl⟩ := h
    obtain ⟨contribution, hfile, rfl⟩ := decodeFile_ends hfirst
    obtain ⟨contributions, hcontributions, rfl⟩ := ih hrest
    exact ⟨contribution :: contributions, .cons hfile hcontributions, rfl⟩

/-! ### Enrichment -/

/-- The history only marks, whether it is given or not. -/
theorem marksOnly_enrichHistory (disk : Disk) (config : Config) :
    MarksOnly (enrichHistory disk config) := by
  unfold enrichHistory
  split
  · exact Usage.marksOnly_apply _ _ _
  · exact Graph.marksOnly_pure 0

/-- What only marks when it is given only marks. -/
theorem marksOnly_whenGiven {pass : Document → Pass Nat} (h : ∀ document, MarksOnly (pass document))
    (disk : Disk) (path : Option String) : MarksOnly (whenGiven disk path pass) := by
  cases path with
  | none => exact Graph.marksOnly_pure 0
  | some path => exact h _

/-- A schema enters its tables; without one there are no tables to enter. -/
theorem schema_ends {path : Option String} {count : Nat}
    (h : (whenGiven disk path Schema.apply).Ends graph count after) :
    ∃ tables, after = Schema.enter graph tables := by
  cases path with
  | none => exact ⟨[], (Pass.ends_pure.mp h).2⟩
  | some path =>
    simp only [whenGiven, Schema.apply, Pass.ends_bind, Pass.ends_ofExcept, Pass.ends_update,
      Pass.ends_pure] at h
    obtain ⟨tables, _, ⟨-, rfl⟩, _, _, rfl, -, rfl⟩ := h
    exact ⟨tables, rfl⟩

/-- Enrichment counts symbols as used, enters the tables of a schema, and lets nodes refer to the
tables of their indexes. -/
theorem enrich_ends {enrichment : Enrichment}
    (h : (enrich disk config).Ends graph enrichment after) :
    ∃ marks tables,
      after = (Schema.enter (List.foldl Graph.markUsed graph marks) tables).linkTables := by
  simp only [enrich, Pass.ends_bind, Pass.ends_ofExcept, Pass.ends_note, Pass.ends_pure] at h
  obtain ⟨_, _, ⟨-, rfl⟩, historyUsed, marked, hmarked, systemProcedures, called, hcalled,
    schemaTables, entered, hentered, tableLinks, linked, hlinked, _, _, rfl, -, rfl⟩ := h
  -- What was done in between: marks, marks, tables, links.
  obtain ⟨history, rfl⟩ := marksOnly_enrichHistory disk config _ _ _ hmarked
  obtain ⟨procedures, rfl⟩ :=
    marksOnly_whenGiven SystemProcedures.marksOnly_apply disk _ _ _ _ hcalled
  obtain ⟨tables, rfl⟩ := schema_ends hentered
  obtain ⟨rfl, -⟩ := hlinked
  refine ⟨history ++ procedures, tables, ?_⟩
  rw [List.foldl_append]
  rfl

/-! ### The whole analysis -/

theorem phase_outcome {α : Type} (phase : Phase) (traced : Traced α) :
    (Run.phase phase traced).traced.outcome = traced.outcome := by
  rw [Run.phase, Traced.bind_outcome]
  cases traced.outcome <;> rfl

/-- A phase gives the result of its pass, with the graph it leaves. -/
theorem withGraph_outcome {α : Type} {pass : Pass α} {result : α} :
    (withGraph pass graph).outcome = .ok (result, after) ↔ pass.Ends graph result after := by
  rw [withGraph, Traced.bind_outcome_eq_ok, Pass.Ends]
  simp [and_comm]

/-- Files entered one after the other, with marks and a schema, before nodes refer to the tables of
their indexes. -/
def unlinked (contributions : List Contribution) (marks : List Symbol)
    (tables : List Schema.Table) : Graph :=
  Schema.enter (List.foldl Graph.markUsed (contributions.foldl Graph.apply {}) marks) tables

/-- The graph of an analysis: the files that are found, one after the other, and then what
enrichment does to it. -/
theorem runWith_graph {report : Report}
    (h : (runWith tokenizer disk config).traced.outcome = .ok report) :
    ∃ files contributions marks tables, (Discovery.run disk config).outcome = .ok files ∧
      List.Forall₂ (Decodes tokenizer disk) files contributions ∧
        report.graph = (unlinked contributions marks tables).linkTables := by
  obtain ⟨-, -, h⟩ := Run.bind_outcome_eq_ok.mp h
  obtain ⟨files, hfiles, h⟩ := Run.bind_outcome_eq_ok.mp h
  obtain ⟨⟨count, decoded⟩, hdecoded, h⟩ := Run.bind_outcome_eq_ok.mp h
  obtain ⟨⟨enrichment, enriched⟩, henriched, h⟩ := Run.bind_outcome_eq_ok.mp h
  obtain rfl := Except.ok.inj h
  -- Each phase gives what its pass gives.
  rw [phase_outcome] at hfiles hdecoded henriched
  obtain ⟨contributions, hcontributions, rfl⟩ := decode_ends (withGraph_outcome.mp hdecoded)
  obtain ⟨marks, tables, rfl⟩ := enrich_ends (withGraph_outcome.mp henriched)
  exact ⟨files, contributions, marks, tables, hfiles, hcontributions, rfl⟩

end Analysis

end CallMap
