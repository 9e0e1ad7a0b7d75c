import CallMap.Discovery
import CallMap.Schema
import CallMap.Token.Lexer
import CallMap.Usage

/-!
# Analysing an export

An analysis finds the export files, decodes them one after the other into a graph, and enriches the
graph with what is known from elsewhere. The first failure ends it, and then there is no graph.
-/

namespace CallMap.Analysis

/-- The parts of an analysis. -/
inductive Phase
  /-- Finding the files. -/
  | discovery
  /-- Decoding the files. -/
  | decoding
  /-- Adding usage and schema data. -/
  | enrichment
  deriving DecidableEq, Repr

namespace Phase

/-- The name of a phase. -/
def name : Phase → String
  | discovery => "discovery"
  | decoding => "decoding"
  | enrichment => "enrichment"

/-- What a phase is doing, for someone who waits for it. -/
def label : Phase → String
  | discovery => "Finding export files"
  | decoding => "Decoding export records"
  | enrichment => "Applying usage and schema data"

end Phase

/-! ### Decoding -/

/-- Decodes a file and enters what it contributes. A file that fails leaves the graph as it was. -/
def decodeFile (tokenizer : Tokenizer) (disk : Disk) (file : ExportFile) : Pass Unit := do
  Pass.note .debug .decoding ("decoding " ++ file.relative)
  let contribution ← Pass.lift (Contribution.ofFile tokenizer disk file.path)
  Pass.note .trace .decoding
    (file.relative ++ ": " ++ toString contribution.nodes.length ++ " node(s), "
      ++ toString contribution.used.length ++ " used mark(s)")
  Pass.update (·.apply contribution)

/-- Decodes files in order and gives their number. -/
def decode (tokenizer : Tokenizer) (disk : Disk) : List ExportFile → Pass Nat
  | [] => pure 0
  | file :: rest => do
    decodeFile tokenizer disk file
    return (← decode tokenizer disk rest) + 1

/-! ### Enrichment -/

/-- How much each part of the enrichment has added. -/
structure Enrichment where
  /-- The number of modules that count as used because of the usage history. -/
  historyUsed : Nat := 0
  /-- The number of system procedures. -/
  systemProcedures : Nat := 0
  /-- The number of tables of the schema. -/
  schemaTables : Nat := 0
  /-- The number of references to tables through their indexes. -/
  tableLinks : Nat := 0
  deriving DecidableEq, Repr

/-- Applies a pass to a document if there is one, and counts nothing otherwise. -/
def whenGiven (disk : Disk) (path : Option String) (pass : Document → Pass Nat) : Pass Nat :=
  match path with
  | some path => pass (.ofDisk disk path)
  | none => pure 0

/-- The usage history pass, if there is a history. -/
def enrichHistory (disk : Disk) (config : Config) : Pass Nat :=
  match config.modulesCsv, config.usageLogCsv with
  | some modules, some usageLog =>
    Usage.apply (.ofDisk disk modules) (.ofDisk disk usageLog) config.usageSince
  | _, _ => pure 0

/-- Adds references to tables through their indexes and gives their number. -/
def linkTables : Pass Nat := fun graph =>
  (graph.linkTables, pure graph.tableLinkCount)

/-- Enriches a graph with everything that the configuration names. -/
def enrich (disk : Disk) (config : Config) : Pass Enrichment := do
  Pass.ofExcept config.check
  let historyUsed ← enrichHistory disk config
  let systemProcedures ← whenGiven disk config.systemProceduresJson SystemProcedures.apply
  let schemaTables ← whenGiven disk config.schemaJson Schema.apply
  let tableLinks ← linkTables
  Pass.note .info .enrichment
    (s!"enrichment: {historyUsed} used from history, {systemProcedures} system procedures, "
      ++ s!"{schemaTables} schema tables, {tableLinks} index→table links")
  return { historyUsed, systemProcedures, schemaTables, tableLinks }

/-! ### The whole analysis -/

/-- A computation that goes through phases. -/
structure Run (α : Type) where
  /-- The phases that have begun. -/
  begun : List Phase
  /-- The computation. -/
  traced : Traced α

namespace Run

variable {α β : Type}

/-- A computation outside any phase. -/
def lift (traced : Traced α) : Run α :=
  ⟨[], traced⟩

/-- One computation after the other. -/
protected def bind (first : Run α) (second : α → Run β) : Run β :=
  match first.traced.outcome with
  | .ok value =>
    ⟨first.begun ++ (second value).begun, first.traced >>= fun value => (second value).traced⟩
  | .error reason => ⟨first.begun, ⟨first.traced.notes, .error reason⟩⟩

instance : Monad Run where
  pure value := lift (pure value)
  bind := Run.bind

/-- A sequence succeeds where both of its parts do. -/
theorem bind_outcome_eq_ok {first : Run α} {second : α → Run β} {final : β} :
    (first >>= second).traced.outcome = .ok final ↔
      ∃ value, first.traced.outcome = .ok value ∧ (second value).traced.outcome = .ok final := by
  change (Run.bind first second).traced.outcome = .ok final ↔ _
  cases h : first.traced.outcome with
  | error reason => simp [Run.bind, h]
  | ok value => simp [Run.bind, h, Except.bind]

/-- A phase. Its end is noted with the time it took. -/
def phase (phase : Phase) (traced : Traced α) : Run α :=
  ⟨[phase], do
    let value ← traced
    (⟨[⟨.debug, .analysis, "phase " ++ phase.name ++ " took", true⟩], .ok ()⟩ : Traced Unit)
    return value⟩

end Run

/-- The figures of a finished analysis. -/
structure Stats where
  /-- The number of files decoded. -/
  filesDecoded : Nat
  /-- The number of nodes. -/
  nodes : Nat
  /-- The number of references. -/
  references : Nat
  /-- The number of used symbols. -/
  used : Nat
  /-- The number of missing symbols that something refers to. -/
  missing : Nat
  /-- The number of references to tables through their indexes. -/
  tableLinks : Nat
  deriving DecidableEq, Repr

/-- The result of an analysis. -/
structure Report where
  /-- The graph. -/
  graph : Graph
  /-- Its figures. -/
  stats : Stats

/-- A pass over a graph together with the graph it leaves. -/
def withGraph {α : Type} (pass : Pass α) (graph : Graph) : Traced (α × Graph) := do
  let value ← (pass graph).2
  return (value, (pass graph).1)

/-- Analyses an export, with a given way to cut embedded texts into tokens. The configuration is
checked before any file is looked at. -/
def runWith (tokenizer : Tokenizer) (disk : Disk) (config : Config) : Run Report := do
  Run.lift (Traced.ofExcept config.check)
  let files ← Run.phase .discovery (Discovery.run disk config)
  let (filesDecoded, decoded) ←
    Run.phase .decoding (withGraph (decode tokenizer disk files) {})
  let (enrichment, graph) ← Run.phase .enrichment (withGraph (enrich disk config) decoded)
  return {
    graph
    stats := {
      filesDecoded
      nodes := graph.nodeCount
      references := graph.referenceCount
      used := graph.usedCount
      missing := graph.missing.size
      tableLinks := enrichment.tableLinks } }

/-- Analyses an export. -/
def run (disk : Disk) (config : Config) : Run Report :=
  runWith Lexer.tokenize disk config

end CallMap.Analysis
