import CallMap.CommandLine
import CallMap.Proofs.Provenance

/-!
# Runs that fail

Every failure is fatal, but none leaves half of anything behind. A file that fails to decode adds
nothing to the graph and is the last one looked at. A phase that halts is the last phase of its
analysis, which then has no graph. A command whose analysis fails writes nothing but what is wrong.

* `Pass.halts_bind`: a sequence of passes halts in its first part or in its second.
* `Analysis.decode_halts_iff`: decoding halts at a file, and what is left is what the files before
  it contribute.
* `Analysis.runWith_halts_iff`: an analysis halts in its first phase that does.
* `CommandLine.failure_yields_nothing`: all of this together, down to the command line.
-/

namespace CallMap

namespace Pass

variable {α β : Type} {graph after : Graph} {reason : Halt}

/-- A pass over a graph halts and leaves a graph. -/
def Halts (pass : Pass α) (graph : Graph) (reason : Halt) (after : Graph) : Prop :=
  (pass graph).1 = after ∧ (pass graph).2.outcome = .error reason

/-- What does not touch the graph halts with the graph unchanged. -/
theorem halts_lift {traced : Traced α} :
    (lift traced).Halts graph reason after ↔ traced.outcome = .error reason ∧ after = graph := by
  rw [Halts, lift, and_comm, eq_comm (a := graph)]

theorem not_halts_pure {value : α} : ¬(pure value : Pass α).Halts graph reason after := by
  rintro ⟨-, ⟨⟩⟩

theorem not_halts_note {level : Level} {origin : Origin} {text : String} :
    ¬(note level origin text).Halts graph reason after := by
  rintro ⟨-, ⟨⟩⟩

theorem not_halts_update {change : Graph → Graph} : ¬(update change).Halts graph reason after := by
  rintro ⟨-, ⟨⟩⟩

/-- A sequence of two passes halts where the first one does, or else where the second one does. -/
theorem halts_bind {first : Pass α} {second : α → Pass β} :
    (first >>= second).Halts graph reason after ↔
      first.Halts graph reason after ∨
        ∃ value middle, first.Ends graph value middle ∧
          (second value).Halts middle reason after := by
  change (first.bind second).Halts graph reason after ↔ _
  unfold Halts Ends Pass.bind
  rcases hfirst : first graph with ⟨middle, notes, outcome⟩
  cases outcome with
  | error reason => simp
  | ok value => simp

/-- What would come after a pass that always halts does not matter. -/
theorem bind_congr_of_halts {first : Pass α} {second other : α → Pass β}
    (hfirst : ∀ graph, (first graph).2.outcome = .error reason) :
    first >>= second = first >>= other := by
  change first.bind second = first.bind other
  funext graph
  have houtcome := hfirst graph
  unfold Pass.bind
  rcases h : first graph with ⟨middle, notes, outcome⟩
  rw [h] at houtcome
  cases houtcome
  rfl

end Pass

namespace Analysis

variable {tokenizer : Tokenizer} {disk other : Disk} {config : Config} {graph after : Graph}
  {files before others : List ExportFile} {file : ExportFile} {contributions : List Contribution}
  {reason : Halt}

/-! ### Decoding -/

/-- Decoding comes to a file that gives nothing, after others that give their contributions. -/
structure HaltsAt (tokenizer : Tokenizer) (disk : Disk) (before : List ExportFile)
    (file : ExportFile) (contributions : List Contribution) (reason : Halt) : Prop where
  decoded : List.Forall₂ (Decodes tokenizer disk) before contributions
  halted : (Contribution.ofFile tokenizer disk file.path).outcome = .error reason

/-- A file that cannot be decoded leaves the graph as it was. -/
theorem decodeFile_halts_iff : (decodeFile tokenizer disk file).Halts graph reason after ↔
    (Contribution.ofFile tokenizer disk file.path).outcome = .error reason ∧ after = graph := by
  simp [decodeFile, Pass.halts_bind, Pass.ends_note, Pass.halts_lift, Pass.not_halts_note,
    Pass.not_halts_update]

/-- A file that can be decoded is entered. -/
theorem decodeFile_ends_apply {contribution : Contribution}
    (h : Decodes tokenizer disk file contribution) :
    (decodeFile tokenizer disk file).Ends graph () (graph.apply contribution) := by
  simp only [decodeFile, Pass.ends_bind, Pass.ends_note, Pass.ends_lift, Pass.ends_update]
  exact ⟨(), graph, rfl, contribution, graph, ⟨h, rfl⟩, (), graph, rfl, rfl⟩

/-- Decoding halts at one of the files, and leaves a graph with what the files before it
contribute. -/
theorem decode_halts_iff : (decode tokenizer disk files).Halts graph reason after ↔
    ∃ before file contributions, before ++ [file] <+: files ∧
      HaltsAt tokenizer disk before file contributions reason ∧
        after = contributions.foldl Graph.apply graph := by
  induction files generalizing graph with
  | nil => simp [decode, Pass.not_halts_pure]
  | cons first rest ih =>
    simp only [decode, Pass.halts_bind, Pass.not_halts_pure, decodeFile_halts_iff, ih]
    constructor
    · rintro (⟨hhalted, rfl⟩ | ⟨_, middle, hfirst, hrest⟩)
      · exact ⟨[], first, [], by simp, ⟨.nil, hhalted⟩, rfl⟩
      · obtain ⟨before, file, contributions, hstart, hhalts, rfl⟩ :=
          hrest.resolve_right (by rintro ⟨_, _, _, ⟨⟩⟩)
        obtain ⟨contribution, hdecodes, rfl⟩ := decodeFile_ends hfirst
        refine ⟨first :: before, file, contribution :: contributions, ?_, ?_, rfl⟩
        · exact List.cons_prefix_cons.mpr ⟨rfl, hstart⟩
        · exact ⟨.cons hdecodes hhalts.decoded, hhalts.halted⟩
    · rintro ⟨before, file, contributions, hstart, ⟨hdecoded, hhalted⟩, rfl⟩
      -- The file that fails is the first one, or one of the rest.
      cases hdecoded with
      | nil =>
        obtain ⟨rfl, -⟩ := List.cons_prefix_cons.mp hstart
        exact .inl ⟨hhalted, rfl⟩
      | cons hfirst hbefore =>
        obtain ⟨rfl, hrest⟩ := List.cons_prefix_cons.mp hstart
        exact .inr ⟨(), _, decodeFile_ends_apply hfirst,
          .inl ⟨_, file, _, hrest, ⟨hbefore, hhalted⟩, rfl⟩⟩

/-- Decoding files that the disk has the same bytes for. -/
theorem decode_congr_read (h : ∀ file ∈ files, other.read file.path = disk.read file.path) :
    decode tokenizer other files = decode tokenizer disk files := by
  induction files with
  | nil => rfl
  | cons first rest ih =>
    have hfirst : decodeFile tokenizer other first = decodeFile tokenizer disk first := by
      simp only [decodeFile, Contribution.ofFile, h first List.mem_cons_self]
    rw [decode, decode, hfirst, ih fun file hfile => h file (List.mem_cons_of_mem first hfile)]

/-- Files after one that fails are not looked at. -/
theorem decode_append_of_halted
    (hhalted : (Contribution.ofFile tokenizer disk file.path).outcome = .error reason)
    (hstart : before ++ [file] <+: files) :
    decode tokenizer disk files = decode tokenizer disk (before ++ [file]) := by
  obtain ⟨rest, rfl⟩ := hstart
  induction before with
  | nil =>
    have hfile (graph : Graph) : (decodeFile tokenizer disk file graph).2.outcome = .error reason :=
      (decodeFile_halts_iff.mpr ⟨hhalted, rfl⟩).2
    exact Pass.bind_congr_of_halts hfile
  | cons first before ih =>
    simp only [List.cons_append, decode]
    rw [ih]

/-- Where decoding halts depends on nothing but the files up to there. -/
theorem HaltsAt.decode_eq (h : HaltsAt tokenizer disk before file contributions reason)
    (hstart : before ++ [file] <+: files) (hstart' : before ++ [file] <+: others)
    (hread : ∀ read ∈ before ++ [file], other.read read.path = disk.read read.path) :
    decode tokenizer other others = decode tokenizer disk files := by
  have hhalted : (Contribution.ofFile tokenizer other file.path).outcome = .error reason := by
    rw [Contribution.ofFile, hread file (by simp), ← Contribution.ofFile, h.halted]
  calc decode tokenizer other others
      = decode tokenizer other (before ++ [file]) := decode_append_of_halted hhalted hstart'
    _ = decode tokenizer disk (before ++ [file]) := decode_congr_read hread
    _ = decode tokenizer disk files := (decode_append_of_halted h.halted hstart).symm

/-! ### Phases -/

/-- A computation halts after it has begun some phases. -/
def Run.Halts {α : Type} (run : Run α) (phases : List Phase) (reason : Halt) : Prop :=
  run.begun = phases ∧ run.traced.outcome = .error reason

/-- A run of two parts halts in the first, or in the second after the first has gone well. -/
theorem Run.halts_bind {α β : Type} {first : Run α} {second : α → Run β} {phases : List Phase} :
    (first >>= second).Halts phases reason ↔
      first.Halts phases reason ∨ ∃ value late, first.traced.outcome = .ok value ∧
        (second value).Halts late reason ∧ phases = first.begun ++ late := by
  change (Run.bind first second).Halts phases reason ↔ _
  unfold Halts Run.bind
  -- Where the first part halts, the second is not begun.
  cases h : first.traced.outcome with
  | error reason => simp
  | ok value =>
    simp only [Traced.bind_outcome, h, Except.bind, Except.ok.injEq, reduceCtorEq, and_false,
      false_or]
    constructor
    · rintro ⟨rfl, houtcome⟩
      exact ⟨value, _, rfl, ⟨rfl, houtcome⟩, rfl⟩
    · rintro ⟨_, late, rfl, ⟨rfl, houtcome⟩, rfl⟩
      exact ⟨rfl, houtcome⟩

/-- A phase that halts has begun. -/
theorem Run.halts_phase {α : Type} {phase : Phase} {traced : Traced α} {phases : List Phase} :
    (Run.phase phase traced).Halts phases reason ↔ phases = [phase] ∧
      traced.outcome = .error reason := by
  rw [Halts, phase_outcome, eq_comm]
  rfl

/-- A phase halts if its pass does, and the graph it had so far is dropped. -/
theorem withGraph_halts_iff {α : Type} {pass : Pass α} :
    (withGraph pass graph).outcome = .error reason ↔ ∃ after, pass.Halts graph reason after := by
  rw [withGraph, Traced.bind_outcome]
  cases h : (pass graph).2.outcome <;> simp [Pass.Halts, h, Except.bind]

/-- The check of the configuration fails or one of the phases halts, after all that comes before it
has succeeded. -/
inductive HaltsIn (tokenizer : Tokenizer) (disk : Disk) (config : Config) : List Phase → Halt → Prop
  | check {failure : Failure} (failed : config.check = .error failure) :
    HaltsIn tokenizer disk config [] (.failed failure)
  | discovery {reason : Halt} (checked : config.check = .ok ())
    (halted : (Discovery.run disk config).outcome = .error reason) :
    HaltsIn tokenizer disk config [.discovery] reason
  | decoding {reason : Halt} {files : List ExportFile} {left : Graph}
      (checked : config.check = .ok ())
    (found : (Discovery.run disk config).outcome = .ok files)
    (halted : (decode tokenizer disk files).Halts {} reason left) :
    HaltsIn tokenizer disk config [.discovery, .decoding] reason
  | enrichment {reason : Halt} {files : List ExportFile} {count : Nat} {decoded left : Graph}
    (checked : config.check = .ok ()) (found : (Discovery.run disk config).outcome = .ok files)
    (ended : (decode tokenizer disk files).Ends {} count decoded)
    (halted : (enrich disk config).Halts decoded reason left) :
    HaltsIn tokenizer disk config [.discovery, .decoding, .enrichment] reason

/-- An analysis halts in the first of its phases that does, and then has no graph. -/
theorem runWith_halts_iff {phases : List Phase} :
    (runWith tokenizer disk config).Halts phases reason ↔
      HaltsIn tokenizer disk config phases reason := by
  have hcheck {late : List Phase} : (Run.lift (Traced.ofExcept config.check)).Halts late reason ↔
      late = [] ∧ ∃ failure, reason = .failed failure ∧ config.check = .error failure := by
    rw [Run.Halts, Run.lift, eq_comm]
    cases config.check <;> simp [Traced.ofExcept, Traced.fail, Traced.halt, Traced.result, eq_comm]
  have hchecked : (Run.lift (Traced.ofExcept config.check)).traced.outcome = .ok () ↔
      config.check = .ok () := by
    cases config.check <;> simp [Run.lift, Traced.ofExcept, Traced.fail, Traced.halt, Traced.result]
  constructor
  · intro h
    rcases Run.halts_bind.mp h with hhalts | ⟨_, _, hok, hdiscovery, rfl⟩
    · obtain ⟨rfl, failure, rfl, hfailed⟩ := hcheck.mp hhalts
      exact .check hfailed
    replace hok := hchecked.mp hok
    rcases Run.halts_bind.mp hdiscovery with hhalts | ⟨files, _, hfiles, hdecoding, rfl⟩
    · obtain ⟨rfl, hhalted⟩ := Run.halts_phase.mp hhalts
      exact .discovery hok hhalted
    rw [phase_outcome] at hfiles
    rcases Run.halts_bind.mp hdecoding with hhalts |
      ⟨⟨count, decoded⟩, _, hdecoded, henrichment, rfl⟩
    · obtain ⟨rfl, hhalted⟩ := Run.halts_phase.mp hhalts
      obtain ⟨left, hleft⟩ := withGraph_halts_iff.mp hhalted
      exact .decoding hok hfiles hleft
    rw [phase_outcome, withGraph_outcome] at hdecoded
    -- Nothing comes after enrichment that could halt.
    rcases Run.halts_bind.mp henrichment with hhalts | ⟨_, _, -, ⟨-, ⟨⟩⟩, -⟩
    obtain ⟨rfl, hhalted⟩ := Run.halts_phase.mp hhalts
    obtain ⟨left, hleft⟩ := withGraph_halts_iff.mp hhalted
    exact .enrichment hok hfiles hdecoded hleft
  · intro h
    cases h with
    | check failed => exact Run.halts_bind.mpr (.inl (hcheck.mpr ⟨rfl, _, rfl, failed⟩))
    | discovery checked halted =>
      refine Run.halts_bind.mpr (.inr ⟨(), _, hchecked.mpr checked, ?_, rfl⟩)
      exact Run.halts_bind.mpr (.inl (Run.halts_phase.mpr ⟨rfl, halted⟩))
    | decoding checked found halted =>
      refine Run.halts_bind.mpr (.inr ⟨(), _, hchecked.mpr checked, ?_, rfl⟩)
      refine Run.halts_bind.mpr (.inr ⟨_, _, (phase_outcome _ _).trans found, ?_, rfl⟩)
      have hhalted := withGraph_halts_iff.mpr ⟨_, halted⟩
      exact Run.halts_bind.mpr (.inl (Run.halts_phase.mpr ⟨rfl, hhalted⟩))
    | enrichment checked found ended halted =>
      refine Run.halts_bind.mpr (.inr ⟨(), _, hchecked.mpr checked, ?_, rfl⟩)
      refine Run.halts_bind.mpr (.inr ⟨_, _, (phase_outcome _ _).trans found, ?_, rfl⟩)
      have hdecoded := (phase_outcome .decoding _).trans (withGraph_outcome.mpr ended)
      refine Run.halts_bind.mpr (.inr ⟨_, _, hdecoded, ?_, rfl⟩)
      have hhalted := withGraph_halts_iff.mpr ⟨_, halted⟩
      exact Run.halts_bind.mpr (.inl (Run.halts_phase.mpr ⟨rfl, hhalted⟩))

end Analysis

/-! ### Commands -/

namespace CommandLine

variable {disk : Disk} {words : List String} {request : Request} {failure : Failure}

/-- Nothing comes of a run: it prints no result, writes no file and leaves the disk as it was. -/
structure Result.YieldsNothing (result : Result) (disk : Disk) : Prop where
  output : result.output = ""
  written : result.written = none
  unchanged : result.disk = disk

/-- A request fails: the configuration cannot be read, or the analysis fails. -/
inductive Request.Fails (request : Request) (disk : Disk) : Failure → Prop
  | config {failure : Failure} (unread : request.config disk = .error failure) :
    Fails request disk failure
  | analysis {failure : Failure} {config : Config} {phases : List Analysis.Phase}
    (given : request.config disk = .ok config)
    (halted : Analysis.HaltsIn Lexer.tokenize disk config phases (.failed failure)) :
    Fails request disk failure

/-- A request that fails leads to a status and a line that tells why. -/
theorem carryOut_of_fails (h : request.Fails disk failure) : ∃ notes,
    carryOut disk request =
      { status := CommandLine.failure, errors := notes ++ failureLine failure.message, disk } := by
  cases h with
  | config unread => exact ⟨[], by rw [carryOut, unread]; rfl⟩
  | @analysis config _ given halted =>
    have houtcome : (Analysis.run disk config).traced.outcome = .error (.failed failure) :=
      (Analysis.runWith_halts_iff.mpr halted).2
    refine ⟨shownNotes config (Analysis.run disk config).traced.notes, ?_⟩
    rw [carryOut, given]
    simp only [houtcome]

/-- Running out of memory leaves nothing behind either, but it has a status of its own. -/
theorem carryOut_of_outOfMemory {config : Config} {phases : List Analysis.Phase}
    (hgiven : request.config disk = .ok config)
    (hhalted : Analysis.HaltsIn Lexer.tokenize disk config phases .outOfMemory) : ∃ notes,
    carryOut disk request =
      { status := exhausted, errors := notes ++ line "capacity overflow", disk } := by
  have houtcome : (Analysis.run disk config).traced.outcome = .error .outOfMemory :=
    (Analysis.runWith_halts_iff.mpr hhalted).2
  refine ⟨shownNotes config (Analysis.run disk config).traced.notes, ?_⟩
  rw [carryOut, hgiven]
  simp only [houtcome]

/-- Failures leave no half results.

1. Where decoding halts, the graph has what the files before the failing one contribute. Neither the
bytes of later files nor whether there are any plays a part. 2. An analysis halts if the check of
the configuration fails or a phase halts. It ends with the reason of the first one that does,
without a graph, and no later phase begins. 3. A command that fails has status 1, prints nothing but
why on the error output, and writes no file. 4. Memory that runs out ends a command with a status of
its own and leaves as little behind. -/
theorem failure_yields_nothing (tokenizer : Tokenizer) (disk : Disk) :
    (∀ files graph reason, (Analysis.decode tokenizer disk files graph).2.outcome = .error reason →
      ∃ before file contributions, before ++ [file] <+: files ∧
        Analysis.HaltsAt tokenizer disk before file contributions reason ∧
        (Analysis.decode tokenizer disk files graph).1 = contributions.foldl Graph.apply graph ∧
        ∀ (other : Disk) others, before ++ [file] <+: others →
          (∀ read ∈ before ++ [file], other.read read.path = disk.read read.path) →
          Analysis.decode tokenizer other others graph =
            Analysis.decode tokenizer disk files graph) ∧
    (∀ config phases reason, (Analysis.runWith tokenizer disk config).Halts phases reason ↔
      Analysis.HaltsIn tokenizer disk config phases reason) ∧
    (∀ words request failure, parse words = .ok request → request.Fails disk failure →
      (run disk words).status = 1 ∧ (run disk words).YieldsNothing disk ∧
        failureLine failure.message <:+ (run disk words).errors) ∧
    ∀ words request config phases, parse words = .ok request → request.config disk = .ok config →
      Analysis.HaltsIn Lexer.tokenize disk config phases .outOfMemory →
      (run disk words).status = exhausted ∧ (run disk words).YieldsNothing disk := by
  refine ⟨?_, ?_, ?_, ?_⟩
  -- What is decoded before the failure is entered, and nothing else is read.
  · intro files graph reason houtcome
    obtain ⟨before, file, contributions, hstart, hhalts, hgraph⟩ :=
      Analysis.decode_halts_iff.mp ⟨rfl, houtcome⟩
    refine ⟨before, file, contributions, hstart, hhalts, hgraph, ?_⟩
    intro other others hstart' hread
    rw [hhalts.decode_eq hstart hstart' hread]
  · intro config phases reason
    exact Analysis.runWith_halts_iff
  -- A request that fails writes its message and leaves the disk alone.
  · intro words request failure hparse hfails
    obtain ⟨notes, hresult⟩ := carryOut_of_fails hfails
    rw [run, hparse]
    dsimp only
    rw [hresult]
    exact ⟨rfl, ⟨rfl, rfl, rfl⟩, List.suffix_append _ _⟩
  -- One that runs out of memory leaves the disk alone too, without a message.
  · intro words request config phases hparse hgiven hhalted
    obtain ⟨notes, hresult⟩ := carryOut_of_outOfMemory hgiven hhalted
    rw [run, hparse]
    dsimp only
    rw [hresult]
    exact ⟨rfl, rfl, rfl, rfl⟩

section Sample

open Analysis (sampleDisk sampleFile sampleSchema)

/-- A file that the sample disk does not have. -/
def sampleAbsent : ExportFile :=
  ⟨"/Methods/b.txt", "Methods/b.txt"⟩

/-- A drawing is to go over the schema, but of the usage history only one half is given. -/
def sampleWords : List String :=
  ["graph", "/", "--modules-csv", "m.csv", "--output", "/s.json"]

def sampleRequest : Request where
  command := .graph .dot "/s.json"
  sources := { root := "/", modulesCsv := "m.csv" }
  verbose := false
  quiet := false

/-- The file is not there. -/
theorem read_sampleAbsent : sampleDisk.read sampleAbsent.path = .error .notFound := by
  have hnames : sampleAbsent.path.names = ["", "Methods", "b.txt"] := by decide +kernel
  have hfolder : (RawText.ofText "Methods").bytes.length = 7 := by decide +kernel
  have hfile : (RawText.ofText "b.txt").bytes.length = 5 := by decide +kernel
  have hplace : sampleDisk.locate sampleAbsent.path = .error .notFound := by
    rw [Analysis.locate_of_isAbsolute (by decide +kernel) (by decide +kernel), hnames]
    simp [Disk.follow, Disk.nameLimit, sampleDisk, Entry.find?, Entry.children, List.lookup_cons,
      hfolder, hfile]
  rw [Disk.read, hplace]

/-- A history with only one of its two files is refused. -/
theorem fails_sampleRequest : sampleRequest.Fails sampleDisk (.halfUsageHistory true false) := by
  obtain ⟨config, hconfig, hchecked⟩ : ∃ config, sampleRequest.config sampleDisk = .ok config ∧
      config.check = .error (.halfUsageHistory true false) := ⟨_, rfl, rfl⟩
  exact .analysis hconfig (.check hchecked)

/-- Decoding ends at the file that is not there. -/
theorem decode_sampleAbsent :
    (Analysis.decode Lexer.tokenize sampleDisk [sampleFile, sampleAbsent, sampleFile]
      {}).2.outcome = .error (.failed (.unreadable sampleAbsent.path .notFound)) := by
  have hhalted : (Contribution.ofFile Lexer.tokenize sampleDisk sampleAbsent.path).outcome =
      .error (.failed (.unreadable sampleAbsent.path .notFound)) := by
    rw [Contribution.ofFile, read_sampleAbsent]
    rfl
  have hhalts : Analysis.HaltsAt Lexer.tokenize sampleDisk [sampleFile] sampleAbsent
      [Analysis.sampleContribution] _ := ⟨.cons Analysis.decodes_sampleFile .nil, hhalted⟩
  exact (Analysis.decode_halts_iff.mpr ⟨_, _, _, ⟨[sampleFile], rfl⟩, hhalts, rfl⟩).2

/-- A missing file ends decoding, and the disk keeps its files. -/
theorem failure_yields_nothing_sampleDisk :
    (∃ before file contributions, before ++ [file] <+: [sampleFile, sampleAbsent, sampleFile] ∧
      Analysis.HaltsAt Lexer.tokenize sampleDisk before file contributions
        (.failed (.unreadable sampleAbsent.path .notFound)) ∧
      (Analysis.decode Lexer.tokenize sampleDisk [sampleFile, sampleAbsent, sampleFile] {}).1 =
        contributions.foldl Graph.apply {}) ∧
    (run sampleDisk sampleWords).status = 1 ∧
      (run sampleDisk sampleWords).disk.read "/s.json" = .ok sampleSchema := by
  obtain ⟨hdecode, -, hcommand, -⟩ := failure_yields_nothing Lexer.tokenize sampleDisk
  obtain ⟨before, file, contributions, hstart, hhalts, hgraph, -⟩ :=
    hdecode _ {} _ decode_sampleAbsent
  have hparse : parse sampleWords = .ok sampleRequest := by decide +kernel
  obtain ⟨hstatus, hnothing, -⟩ := hcommand sampleWords sampleRequest _ hparse fails_sampleRequest
  refine ⟨⟨before, file, contributions, hstart, hhalts, hgraph⟩, hstatus, ?_⟩
  rw [hnothing.unchanged]
  exact Analysis.read_sampleDisk_schema

end Sample

end CommandLine

end CallMap
