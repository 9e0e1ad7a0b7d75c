import CallMap.Document

/-!
# Configuration

What to analyse and what to enrich it with. A configuration may come from a JSON document, where
whatever is left out has its default.
-/

namespace CallMap

/-- The configuration of an analysis. -/
structure Config where
  /-- The folder that holds the export. -/
  sourceRoot : RawText := ""
  /-- The folders in it, by their path from it, that hold export files. -/
  sourceDirs : List String :=
    ["Exports", "Forms", "Imports", "Methods", "Procedures", "Processes", "Queries", "Reports"]
  /-- What the names of export files end in. -/
  fileSuffix : String := ".txt"
  /-- The module directory: dotted names and logic ids. -/
  modulesCsv : Option String := none
  /-- The usage log: dates and logic ids. -/
  usageLogCsv : Option String := none
  /-- The first date of the usage log that counts. -/
  usageSince : Date := ⟨2024, 1, 1⟩
  /-- The list of procedures that are called from outside. -/
  systemProceduresJson : Option String := none
  /-- The tables of the database with their fields and indexes. -/
  schemaJson : Option String := none
  /-- Whether to say more than usual. -/
  verbose : Bool := false
  /-- Whether to say nothing but errors and results. -/
  quiet : Bool := false
  deriving DecidableEq, Repr

namespace Config

/-- The module directory and the usage log only make sense together. -/
def check (config : Config) : Except Failure Unit :=
  if config.modulesCsv.isSome = config.usageLogCsv.isSome then .ok ()
  else .error (.halfUsageHistory config.modulesCsv.isSome config.usageLogCsv.isSome)

/-- Reads a path. -/
def path : Json.Reader String :=
  Json.Reader.text "path string"

/-- Reads any text. -/
def anyText : Json.Reader String :=
  Json.Reader.text "a string"

/-- The JSON form of a configuration. A list has to go as far as the last field that is optional
only in objects. -/
def shape : Json.Reader.Shape Config where
  title := "AnalysisConfig"
  initial := {}
  fields := [
    { name := "source_root"
      read := path.map fun sourceRoot config => { config with sourceRoot } },
    { name := "source_dirs"
      read := (Json.Reader.list anyText).map fun sourceDirs config => { config with sourceDirs } },
    { name := "file_suffix"
      read := anyText.map fun fileSuffix config => { config with fileSuffix } },
    { name := "modules_csv"
      read := (Json.Reader.optional path).map fun modulesCsv config => { config with modulesCsv }
      optionalInList := false },
    { name := "usage_log_csv"
      read := (Json.Reader.optional path).map fun usageLogCsv config => { config with usageLogCsv }
      optionalInList := false },
    { name := "usage_since"
      read := Json.Reader.date.map fun usageSince config => { config with usageSince } },
    { name := "system_procedures_json"
      read := (Json.Reader.optional path).map fun systemProceduresJson config =>
        { config with systemProceduresJson }
      optionalInList := false },
    { name := "schema_json"
      read := (Json.Reader.optional path).map fun schemaJson config => { config with schemaJson }
      optionalInList := false },
    { name := "verbose"
      read := Json.Reader.truth.map fun verbose config => { config with verbose } },
    { name := "quiet"
      read := Json.Reader.truth.map fun quiet config => { config with quiet } }]

/-- The configuration that a JSON document holds. -/
def ofDocument (document : Document) : Except Failure Config :=
  document.json (Json.Reader.record shape)

end Config

end CallMap
