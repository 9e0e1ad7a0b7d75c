import CallMap.Analysis
import CallMap.Diagram.Format

/-!
# What a user asks for

A request names a command, the export to analyse, and what to enrich it with. Together with the
configuration file it may name, it gives the configuration of an analysis.

* `Sources.configure`: what is given with a command goes before what the configuration file has.
-/

namespace CallMap.CommandLine

/-- What to do with the graph of an export. -/
inductive Command
  /-- Draw the graph, on the standard output or into a file. -/
  | graph (format : Diagram.Format) (output : Option String)
  /-- List the units of a kind. -/
  | list (kind : Kind)
  /-- Report calls of methods that do not exist. -/
  | missingMethods
  /-- Report units that nothing reaches. -/
  | orphans
  deriving DecidableEq, Repr

/-- Where the export lives and what to enrich it with. -/
structure Sources where
  /-- The folder that holds the export. -/
  root : String := ""
  /-- The configuration file. -/
  config : Option String := none
  /-- The module directory. -/
  modulesCsv : Option String := none
  /-- The usage log. -/
  usageCsv : Option String := none
  /-- The first date of the usage log that counts. -/
  since : Option Date := none
  /-- The list of procedures that are called from outside. -/
  systemProcedures : Option String := none
  /-- The tables of the database. -/
  schema : Option String := none
  deriving DecidableEq, Repr

/-- A whole request. -/
structure Request where
  /-- What to do. -/
  command : Command
  /-- What to do it with. -/
  sources : Sources
  /-- Whether to say more than usual. -/
  verbose : Bool
  /-- Whether to say nothing but errors and results. -/
  quiet : Bool
  deriving DecidableEq, Repr

namespace Sources

/-- The absolute path of the export, free of links; as it was given if it leads nowhere. -/
def absoluteRoot (sources : Sources) (disk : Disk) : RawText :=
  (disk.absolute? sources.root).getD sources.root

/-- The configuration file, or the default if none is named. -/
def baseConfig (sources : Sources) (disk : Disk) : Except Failure Config :=
  match sources.config with
  | some path => Config.ofDocument (.ofDisk disk path)
  | none => .ok {}

/-- A configuration with what was given put in its place. -/
def configure (sources : Sources) (disk : Disk) (base : Config) : Config :=
  { base with
    sourceRoot := sources.absoluteRoot disk
    modulesCsv := sources.modulesCsv <|> base.modulesCsv
    usageLogCsv := sources.usageCsv <|> base.usageLogCsv
    usageSince := sources.since.getD base.usageSince
    systemProceduresJson := sources.systemProcedures <|> base.systemProceduresJson
    schemaJson := sources.schema <|> base.schemaJson }

end Sources

/-- The configuration of the analysis that a request asks for. -/
def Request.config (request : Request) (disk : Disk) : Except Failure Config := do
  let config := request.sources.configure disk (← request.sources.baseConfig disk)
  return { config with
    verbose := config.verbose || request.verbose
    quiet := config.quiet || request.quiet }

end CallMap.CommandLine
