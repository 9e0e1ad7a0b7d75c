import CallMap.Proofs.Assembly
import CallMap.Proofs.Contribution
import CallMap.Proofs.Pass
import CallMap.Proofs.Utf8

/-!
# Where units come from

The units of code in the graph of an analysis are those of the files that were found. What an
analysis is enriched with adds to a unit at most references to the tables behind the indexes it
refers to.

* `Analysis.UnitsFrom`: the units of a graph, told from the nodes of files.
* `Analysis.unitsFrom_linkTables`: marks, a schema and links leave such a graph.
* `Analysis.runWith_provenance`: the units of a whole analysis.
-/

namespace CallMap

namespace Graph

variable {contributions : List Contribution} {id source target : Symbol}

/-- No node of the files is an object of the schema. -/
def UnitsOnly (contributions : List Contribution) : Prop :=
  ∀ node ∈ nodesOf contributions, node.id.kind.isSchema = false

/-- No unit of code is filled in. -/
theorem node?_foldl_apply_unit (h : id.kind.isSchema = false) :
    (contributions.foldl apply {}).node? id =
      (nodesOf contributions).findRev? fun node => node.id = id := by
  have hfilled : id ∉ (nodesOf contributions).flatMap schemaRefs := by
    rw [mem_flatMap_schemaRefs, h]
    simp
  rw [node?_foldl_apply, if_neg hfilled, node?_empty, Option.or_none, Option.or_none]

/-- If files only hold units, then no object of the schema refers to anything. -/
theorem UnitsOnly.not_refers (h : UnitsOnly contributions) (hsource : source.kind.isSchema = true) :
    ¬(contributions.foldl apply {}).Refers source target := by
  have hnone : ((nodesOf contributions).findRev? fun node => node.id = source) = none := by
    rw [findRev?_eq_none_iff]
    rintro node hnode rfl
    exact absurd hsource (by simp [h node hnode])
  rintro ⟨node, hnode, htarget⟩
  -- What is left is a placeholder.
  rw [node?_foldl_apply, hnone, node?_empty, Option.none_or, Option.none_or] at hnode
  obtain ⟨-, hplaceholder⟩ := Option.ite_none_right_eq_some.mp hnode
  rw [← Option.some.inj hplaceholder] at htarget
  simp [Node.placeholder] at htarget

end Graph

namespace Analysis

open CallMap.Graph (nodesOf UnitsOnly)

variable {tokenizer : Tokenizer} {disk : Disk} {config : Config} {report : Report}
  {contributions : List Contribution} {nodes : List Node} {graph other : Graph}

/-- The units of a graph are the last ones of their symbols among nodes. They refer to what those
nodes refer to, and to the tables that the graph has behind indexes among that. -/
structure UnitsFrom (nodes : List Node) (graph : Graph) : Prop where
  /-- There is a unit of code wherever one of the nodes has that symbol, and nowhere else. -/
  exists_iff {id : Symbol} : (∃ unit, graph.node? id = some unit) ∧ id.kind.isSchema = false ↔
    ∃ node ∈ nodes, node.id = id
  /-- A unit has the label of the last node. -/
  label {id : Symbol} {unit node : Node} : graph.node? id = some unit → IsLastOf nodes id node →
    unit.label = node.label
  /-- A unit refers to what the last node refers to, and to the tables of its indexes. -/
  refs {id target : Symbol} {unit node : Node} : graph.node? id = some unit →
    IsLastOf nodes id node → (target ∈ unit.refs ↔ target ∈ node.refs ∨ target.kind = .table ∧
      ∃ index ∈ node.refs, index.kind = .index ∧
        ∃ indexNode, graph.node? index = some indexNode ∧ target ∈ indexNode.refs)

section Unlinked

variable {marks : List Symbol} {tables : List Schema.Table} {id source index target : Symbol}
  {unit node : Node}

/-- Marks and a schema leave units alone. -/
theorem node?_unlinked (hid : id.kind.isSchema = false) :
    (unlinked contributions marks tables).node? id =
      (nodesOf contributions).findRev? fun node => node.id = id := by
  rw [unlinked, Schema.node?_enter_of_not_isSchema hid, Graph.node?_foldl_markUsed,
    Graph.node?_foldl_apply_unit hid]

/-- Objects of the schema refer to tables and to nothing else. -/
theorem kind_of_refers_unlinked (hunits : UnitsOnly contributions)
    (hsource : source.kind.isSchema = true)
    (h : (unlinked contributions marks tables).Refers source target) : target.kind = .table := by
  rcases Schema.refers_enter.mp h with hmarked | ⟨table, -, rfl, -⟩
  · rw [Graph.Refers, Graph.node?_foldl_markUsed] at hmarked
    exact absurd hmarked (hunits.not_refers hsource)
  · rfl

/-- Links lead from units through indexes, and an index refers to no other index. -/
theorem refers_index_linkTables (hunits : UnitsOnly contributions) (hindex : index.kind = .index) :
    (unlinked contributions marks tables).linkTables.Refers index target ↔
      (unlinked contributions marks tables).Refers index target := by
  rw [Graph.refers_linkTables, or_iff_left_iff_imp]
  rintro ⟨-, other, hother, hrefers, -⟩
  have htable := kind_of_refers_unlinked hunits (hindex ▸ rfl) hrefers
  exact absurd (hother.symm.trans htable) (by decide)

/-- What is stored for a unit is its last node, with the tables of its indexes. -/
theorem eq_linked_of_isLastOf (hunits : UnitsOnly contributions)
    (hstored : (unlinked contributions marks tables).linkTables.node? id = some unit)
    (hnode : IsLastOf (nodesOf contributions) id node) :
    unit = (unlinked contributions marks tables).linked node := by
  have hid : id.kind.isSchema = false := hnode.1 ▸ hunits node hnode.mem
  rw [Graph.node?_linkTables, node?_unlinked hid, findRev?_eq_some_iff.mpr hnode] at hstored
  exact (Option.some.inj hstored).symm

end Unlinked

/-- Links only add tables to units. -/
theorem unitsFrom_linkTables (hunits : UnitsOnly contributions) (marks : List Symbol)
    (tables : List Schema.Table) :
    UnitsFrom (nodesOf contributions) (unlinked contributions marks tables).linkTables := by
  constructor
  case exists_iff =>
    intro id
    constructor
    · rintro ⟨⟨unit, hstored⟩, hid⟩
      rw [Graph.node?_linkTables, node?_unlinked hid] at hstored
      obtain ⟨node, hnode, -⟩ := Option.map_eq_some_iff.mp hstored
      have hisLast := findRev?_eq_some_iff.mp hnode
      exact ⟨node, hisLast.mem, hisLast.1⟩
    · rintro ⟨node, hnode, rfl⟩
      have hid := hunits node hnode
      obtain ⟨last, hisLast⟩ := exists_isLastOf ⟨node, hnode, rfl⟩
      refine ⟨⟨(unlinked contributions marks tables).linked last, ?_⟩, hid⟩
      rw [Graph.node?_linkTables, node?_unlinked hid, findRev?_eq_some_iff.mpr hisLast,
        Option.map_some]
  case label =>
    intro id unit node hstored hnode
    rw [eq_linked_of_isLastOf hunits hstored hnode]
    rfl
  case refs =>
    intro id target unit node hstored hnode
    rw [eq_linked_of_isLastOf hunits hstored hnode, Graph.mem_refs_linked]
    -- The links were made from the indexes as they were before, but these have not changed.
    refine or_congr Iff.rfl (and_congr Iff.rfl (exists_congr fun index => ?_))
    refine and_congr Iff.rfl (and_congr_right fun hindex => ?_)
    exact (refers_index_linkTables hunits hindex).symm

/-- Two graphs with the same units agree on labels, and on all references but those to tables. -/
theorem UnitsFrom.agree (h : UnitsFrom nodes graph) (hother : UnitsFrom nodes other) {id : Symbol}
    (hid : id.kind.isSchema = false) :
    (other.node? id).map Node.label = (graph.node? id).map Node.label ∧
      ∀ target, target.kind ≠ .table → (other.Refers id target ↔ graph.Refers id target) := by
  by_cases hnodes : ∃ node ∈ nodes, node.id = id
  -- Both units come from the same last node, and only tables can be added to it.
  · obtain ⟨node, hnode⟩ := exists_isLastOf hnodes
    obtain ⟨⟨unit, hunit⟩, -⟩ := h.exists_iff.mpr hnodes
    obtain ⟨⟨same, hsame⟩, -⟩ := hother.exists_iff.mpr hnodes
    refine ⟨?_, fun target htarget => ?_⟩
    · rw [hunit, hsame, Option.map_some, Option.map_some, h.label hunit hnode,
        hother.label hsame hnode]
    · rw [Graph.Refers.iff_of_node? hunit, Graph.Refers.iff_of_node? hsame, h.refs hunit hnode,
        hother.refs hsame hnode]
      simp [htarget]
  · -- Without a node there is no unit in either graph.
    have hnone (found : Graph) (hfound : UnitsFrom nodes found) : found.node? id = none := by
      rw [Option.eq_none_iff_forall_ne_some]
      intro unit hunit
      exact hnodes (hfound.exists_iff.mp ⟨⟨unit, hunit⟩, hid⟩)
    simp [Graph.Refers, hnone graph h, hnone other hother]

/-! ### Files -/

/-- A file that is decoded has been read. -/
theorem Decodes.exists_ofBytes {file : ExportFile} {contribution : Contribution}
    (h : Decodes tokenizer disk file contribution) :
    ∃ bytes, (Contribution.ofBytes tokenizer file.path bytes).outcome = .ok contribution := by
  unfold Decodes Contribution.ofFile at h
  split at h
  next bytes _ => exact ⟨bytes, h⟩
  next => cases h

/-- Files bring no objects of the schema. -/
theorem unitsOnly_of_decodes {files : List ExportFile}
    (h : List.Forall₂ (Decodes tokenizer disk) files contributions) : UnitsOnly contributions := by
  intro node hnode
  obtain ⟨contribution, hcontribution, hunit⟩ := List.mem_flatMap.mp hnode
  obtain ⟨place, hplace⟩ := List.mem_iff_get.mp hcontribution
  have hfile := h.get (by rw [h.length_eq]; exact place.isLt) place.isLt
  obtain ⟨bytes, hbytes⟩ := hfile.exists_ofBytes
  rw [hplace] at hbytes
  exact Contribution.isSchema_id hbytes hunit

/-- Files are found in the order of their paths. -/
theorem pairwise_discovery {files : List ExportFile}
    (h : (Discovery.run disk config).outcome = .ok files) :
    files.Pairwise fun a b => a.relative ≤ b.relative := by
  unfold Discovery.run at h
  split at h
  · rw [← Except.ok.inj h]
    have hsorted := @List.pairwise_mergeSort ExportFile
        (fun a b => decide (a.relative ≤ b.relative))
      (fun a b c => by simpa using String.le_trans) (fun a b => by simpa using String.le_total _ _)
      ((Discovery.candidates disk config).filter (Discovery.isSelected config))
    simpa using hsorted
  · cases h

/-! ### An export with a method and a schema -/

/-- A method that refers to an index. -/
def sampleMethod : List UInt8 :=
  Tag.bytes "FIL,09,M.jcl\nIDX,09,I\n"

/-- The table of that index. -/
def sampleSchema : List UInt8 :=
  Tag.bytes "[\x7b\"name\":\"T\",\"indexes\":[\x7b\"name\":\"I\"\x7d]\x7d]"

def sampleDisk : Disk where
  root := .folder [("Methods", .folder [("a.txt", .file sampleMethod)]),
    ("s.json", .file sampleSchema)]

def sampleConfig : Config where
  sourceRoot := "/"
  schemaJson := some "/s.json"

def sampleFile : ExportFile :=
  ⟨"/Methods/a.txt", "Methods/a.txt"⟩

/-- An absolute path is followed from the root. -/
theorem locate_of_isAbsolute {path : RawText} (hfault : Disk.textFault? path = none)
    (habsolute : Disk.isAbsolute path = true) :
    disk.locate path = Disk.follow disk.root .existing Disk.linkLimit [] path.names := by
  rw [Disk.locate, Disk.locateFor, hfault]
  simp only [Disk.start, habsolute, if_true]

/-- The root of the sample disk is there. -/
theorem locate_sampleDisk_root : sampleDisk.locate "/" = .ok [] := by
  have hnames : RawText.names "/" = ["", ""] := by decide +kernel
  rw [locate_of_isAbsolute (by decide +kernel) (by decide +kernel), hnames]
  simp [Disk.follow]

theorem read_sampleDisk_file : sampleDisk.read sampleFile.path = .ok sampleMethod := by
  have hnames : sampleFile.path.names = ["", "Methods", "a.txt"] := by decide +kernel
  have hfolder : (RawText.ofText "Methods").bytes.length = 7 := by decide +kernel
  have hfile : (RawText.ofText "a.txt").bytes.length = 5 := by decide +kernel
  have hplace : sampleDisk.locate sampleFile.path = .ok ["Methods", "a.txt"] := by
    rw [locate_of_isAbsolute (by decide +kernel) (by decide +kernel), hnames]
    simp [Disk.follow, Disk.nameLimit, sampleDisk, Entry.find?, Entry.children, hfolder, hfile]
  rw [Disk.read, hplace]
  rfl

theorem read_sampleDisk_schema : sampleDisk.read "/s.json" = .ok sampleSchema := by
  have hnames : RawText.names "/s.json" = ["", "s.json"] := by decide +kernel
  have hsize : (RawText.ofText "s.json").bytes.length = 6 := by decide +kernel
  have hplace : sampleDisk.locate "/s.json" = .ok ["s.json"] := by
    rw [locate_of_isAbsolute (by decide +kernel) (by decide +kernel), hnames]
    simp [Disk.follow, Disk.nameLimit, sampleDisk, Entry.find?, Entry.children, List.lookup_cons,
      hsize]
  rw [Disk.read, hplace]
  rfl

/-- The method is the only export file. -/
theorem discovery_sampleDisk :
    (Discovery.run sampleDisk sampleConfig).outcome = .ok [sampleFile] := by
  have hroot : sampleConfig.sourceRoot = "/" := rfl
  have hfolder : sampleDisk.isFolder sampleConfig.sourceRoot = true := by
    rw [Disk.isFolder, hroot, locate_sampleDisk_root]
    rfl
  have hselected : (Discovery.candidates sampleDisk sampleConfig).filter
      (Discovery.isSelected sampleConfig) = [sampleFile] := by
    have hlast : Disk.lastName? "/" = none := by decide +kernel
    rw [Discovery.candidates, Discovery.filesBelow, hroot, locate_sampleDisk_root, hlast]
    decide +kernel
  simp only [Discovery.run, hfolder, if_true, hselected, List.mergeSort_singleton]

unseal Reader.text Reader.addressLimit Reader.lengthLimit in
theorem items_sampleMethod : Reader.items ⟨sampleFile.path, sampleMethod⟩ =
    ([.plain ⟨.file, "FIL,", "M.jcl"⟩, .plain ⟨.index, "IDX,", "I"⟩], none) := by
  rw [Reader.items_of_item?_ok rfl, Reader.items_of_item?_ok rfl, Reader.items_of_item?_none rfl]
  rfl

def sampleContribution : Contribution where
  nodes :=
    [{ id := ⟨"m", .method⟩, label := "M", refs := Std.ExtTreeSet.empty.insert ⟨"i", .index⟩ }]

/-- The file is decoded into one node. -/
theorem decodes_sampleFile : Decodes Lexer.tokenize sampleDisk sampleFile sampleContribution := by
  have hread : ((Contribution.ofFile Lexer.tokenize sampleDisk sampleFile.path).outcome.map
      fun contribution => (contribution.nodes, contribution.used)) =
        .ok (sampleContribution.nodes, sampleContribution.used) := by
    rw [Contribution.ofFile, read_sampleDisk_file]
    dsimp only
    rw [Contribution.ofBytes, items_sampleMethod]
    decide +kernel
  unfold Decodes
  cases hok : (Contribution.ofFile Lexer.tokenize sampleDisk sampleFile.path).outcome with
  | error reason => simp [hok, Except.map] at hread
  | ok contribution =>
    rw [hok] at hread
    cases contribution
    cases hread
    rfl

def sampleTables : List Schema.Table :=
  [{ name := "T", indexes := ["I"] }]

/-- The schema has one table. -/
theorem tables_sampleDisk : Schema.tables (.ofDisk sampleDisk "/s.json") = .ok sampleTables := by
  rw [Document.ofDisk, read_sampleDisk_schema]
  decide +kernel

def sampleGraph : Graph :=
  (unlinked [sampleContribution] [] sampleTables).linkTables

/-- The whole analysis goes well on this disk. -/
theorem runWith_sampleDisk : ∃ report,
    (runWith Lexer.tokenize sampleDisk sampleConfig).traced.outcome = .ok report ∧
      report.graph = sampleGraph := by
  -- The phases one by one: the file is entered, and of all enrichment only the schema is given.
  have hdecode : (decode Lexer.tokenize sampleDisk [sampleFile]).Ends {} 1
      (Graph.apply {} sampleContribution) := by
    have hfile := decodes_sampleFile
    unfold Decodes at hfile
    simp [decode, decodeFile, Pass.ends_bind, Pass.ends_note, Pass.ends_lift, Pass.ends_update,
      Pass.ends_pure, hfile]
  obtain ⟨enrichment, henrich⟩ : ∃ enrichment, (enrich sampleDisk sampleConfig).Ends
      (Graph.apply {} sampleContribution) enrichment sampleGraph := by
    simp only [enrich, Pass.ends_bind, Pass.ends_ofExcept, Pass.ends_note, Pass.ends_pure]
    refine ⟨_, (), _, ⟨rfl, rfl⟩, 0, _, ⟨rfl, rfl⟩, 0, _, ⟨rfl, rfl⟩, 1, _, ?_, _, _, ⟨rfl, rfl⟩,
      (), _, rfl, rfl, rfl⟩
    simp only [whenGiven, sampleConfig, Schema.apply, Pass.ends_bind, Pass.ends_ofExcept,
      Pass.ends_update, Pass.ends_pure, tables_sampleDisk]
    exact ⟨sampleTables, _, ⟨rfl, rfl⟩, (), _, rfl, rfl, rfl⟩
  refine ⟨_, Run.bind_outcome_eq_ok.mpr ⟨(), rfl, Run.bind_outcome_eq_ok.mpr ⟨[sampleFile], ?_,
    Run.bind_outcome_eq_ok.mpr ⟨(1, Graph.apply {} sampleContribution), ?_,
      Run.bind_outcome_eq_ok.mpr ⟨(enrichment, sampleGraph), ?_, rfl⟩⟩⟩⟩, rfl⟩
  · rw [phase_outcome]
    exact discovery_sampleDisk
  · rw [phase_outcome]
    exact withGraph_outcome.mpr hdecode
  · rw [phase_outcome]
    exact withGraph_outcome.mpr henrich

/-! ### The whole analysis -/

/-- Two configurations that look for the same files in the same place. -/
structure SameSource (config other : Config) : Prop where
  /-- The folder that holds the export. -/
  root : other.sourceRoot = config.sourceRoot
  /-- The folders in it. -/
  dirs : other.sourceDirs = config.sourceDirs
  /-- The end of file names. -/
  suffix : other.fileSuffix = config.fileSuffix

/-- The same files are found for the same source. -/
theorem SameSource.discovery {other : Config} (h : SameSource config other) :
    Discovery.run disk other = Discovery.run disk config := by
  simp only [Discovery.run, Discovery.candidates, h.root, h.suffix]
  have hselected : Discovery.isSelected other = Discovery.isSelected config := by
    funext file
    rw [Discovery.isSelected, Discovery.isSelected, h.dirs]
  rw [hselected]

/-- The units of an analysis, told from the files that it finds. -/
structure Provenance (tokenizer : Tokenizer) (disk : Disk) (config : Config) (report : Report)
    (files : List ExportFile) (contributions : List Contribution) : Prop where
  /-- These are the files of the export. -/
  discovered : (Discovery.run disk config).outcome = .ok files
  /-- They come in the order of their paths. -/
  ordered : files.Pairwise fun a b => a.relative ≤ b.relative
  /-- Every file can be decoded, and contributes what it contributes by itself. -/
  decoded : List.Forall₂ (Decodes tokenizer disk) files contributions
  /-- The units are those of the files. -/
  units : UnitsFrom (nodesOf contributions) report.graph
  /-- Other usage data or another schema makes no difference to what units there are, to their
  labels, and to what they refer to apart from tables. -/
  independent {other : Config} {otherReport : Report} : SameSource config other →
    (runWith tokenizer disk other).traced.outcome = .ok otherReport →
      ∀ id : Symbol, id.kind.isSchema = false →
        (otherReport.graph.node? id).map Node.label = (report.graph.node? id).map Node.label ∧
          ∀ target, target.kind ≠ .table →
            (otherReport.graph.Refers id target ↔ report.graph.Refers id target)

/-- The units of an analysis come from the files that were found. -/
theorem exists_unitsFrom (h : (runWith tokenizer disk config).traced.outcome = .ok report) :
    ∃ files contributions, (Discovery.run disk config).outcome = .ok files ∧
      List.Forall₂ (Decodes tokenizer disk) files contributions ∧
        UnitsFrom (nodesOf contributions) report.graph := by
  obtain ⟨files, contributions, marks, tables, hfiles, hdecoded, hgraph⟩ := runWith_graph h
  refine ⟨files, contributions, hfiles, hdecoded, ?_⟩
  rw [hgraph]
  exact unitsFrom_linkTables (unitsOnly_of_decodes hdecoded) marks tables

/-- What files contribute is determined. -/
theorem eq_of_decodes {files : List ExportFile} {others : List Contribution}
    (h : List.Forall₂ (Decodes tokenizer disk) files contributions)
    (hothers : List.Forall₂ (Decodes tokenizer disk) files others) : others = contributions := by
  induction h generalizing others with
  | nil => cases hothers; rfl
  | cons hfirst _ ih =>
    cases hothers with
    | cons hother hrest => rw [ih hrest, Except.ok.inj (hother.symm.trans hfirst)]

/-- The units of an analysis are those of its files, whatever it is enriched with. -/
theorem runWith_provenance (h : (runWith tokenizer disk config).traced.outcome = .ok report) :
    ∃ files contributions, Provenance tokenizer disk config report files contributions := by
  obtain ⟨files, contributions, hfiles, hdecoded, hunits⟩ := exists_unitsFrom h
  refine ⟨files, contributions, hfiles, pairwise_discovery hfiles, hdecoded, hunits, ?_⟩
  intro other otherReport hsource hother id hid
  obtain ⟨found, decoded, hfound, hother, hsame⟩ := exists_unitsFrom hother
  -- The same files are found, so they contribute the same.
  rw [hsource.discovery, hfiles] at hfound
  obtain rfl := Except.ok.inj hfound
  obtain rfl := eq_of_decodes hdecoded hother
  exact hunits.agree hsame hid

/-- The method refers to the index, and to its table as well. -/
theorem runWith_provenance_sampleDisk : ∃ report files contributions,
    (runWith Lexer.tokenize sampleDisk sampleConfig).traced.outcome = .ok report ∧
      ((report.graph.node? ⟨"m", .method⟩).map fun unit => unit.refs.toList) =
        some [⟨"i", .index⟩, ⟨"t", .table⟩] ∧
      Provenance Lexer.tokenize sampleDisk sampleConfig report files contributions := by
  obtain ⟨report, hok, hgraph⟩ := runWith_sampleDisk
  obtain ⟨files, contributions, hprovenance⟩ := runWith_provenance hok
  refine ⟨report, files, contributions, hok, ?_, hprovenance⟩
  rw [hgraph]
  decide +kernel

end Analysis

end CallMap
