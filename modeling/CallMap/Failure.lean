import CallMap.Csv
import CallMap.Json.Fault
import CallMap.Kind

/-!
# What ends an analysis

Every failure is fatal: a run that meets one gives no graph. Conditions that an analysis can live
with, such as a record it does not know, are noted instead (`CallMap.Note`). There is no failure for
a walk that breaks off: an analysis walks a disk that is a value, and such a walk always comes to
its end.
-/

namespace CallMap

/-- Why an analysis cannot go on. -/
inductive Failure
  /-- A file cannot be read. -/
  | unreadable (path : String) (cause : Disk.Fault)
  /-- The folder to analyse is none. -/
  | rootNotFolder (path : String)
  /-- The length of an embedded text is no number. -/
  | badTextLength (file value : String)
  /-- A file ends inside an embedded text. -/
  | shortText (file : String) (expected actual : Nat)
  /-- An embedded text is not followed by its closing record. -/
  | unclosedText (file found : String)
  /-- A public procedure is defined in a file that is no library. -/
  | procedureOutsideLibrary (file procedure : String) (kind : Kind)
  /-- The header of a library refers to something. -/
  | libraryHeaderRefers (file : String) (count : Nat)
  /-- A statement executes something unheard of. -/
  | unknownAction (unit keyword statement : String)
  /-- Of the module directory and the usage log only one is given. -/
  | halfUsageHistory (modules usageLog : Bool)
  /-- Rows cannot be read. -/
  | badRows (path : String) (cause : Csv.Fault)
  /-- A row is too short. -/
  | missingColumn (path : String) (column line : Nat)
  /-- A date of a row is none. -/
  | badDate (path value : String) (cause : Date.Fault)
  /-- The usage log names a module that the module directory does not have. -/
  | unknownModule (id : String)
  /-- A JSON document does not hold what it should. -/
  | badDocument (path : String) (cause : Json.Fault)
  deriving DecidableEq, Repr

/-- The wording of a failure. -/
def Failure.message : Failure → String
  | unreadable path cause => "I/O error on " ++ path ++ ": " ++ cause.message
  | rootNotFolder path => "source root " ++ path ++ " is not a directory"
  | badTextLength file value => "malformed TXT length '" ++ value ++ "' in " ++ file
  | shortText file expected actual =>
    s!"truncated TXT body in {file}: expected {expected} bytes, got {actual}"
  | unclosedText file found =>
    "expected XTX record after TXT body in " ++ file ++ ", got '" ++ found ++ "'"
  | procedureOutsideLibrary file procedure kind =>
    "public procedure '" ++ procedure ++ "' defined outside a public procedure library ("
      ++ kind.tag ++ ") in " ++ file
  | libraryHeaderRefers file count =>
    s!"public procedure library header in {file} carries {count} reference(s) before its first "
      ++ "procedure"
  | unknownAction unit keyword statement =>
    "unhandled execute statement in " ++ unit ++ ": keyword '" ++ keyword ++ "' in '" ++ statement
      ++ "'"
  | halfUsageHistory modules usageLog =>
    s!"module CSV files must both be provided (modules: {modules}, usage log: {usageLog})"
  | badRows path cause => "failed to read CSV " ++ path ++ ": " ++ cause.message
  | missingColumn path column line => s!"missing column {column} on line {line} of {path}"
  | badDate path value cause =>
    "invalid date '" ++ value ++ "' in " ++ path ++ ": " ++ cause.message
  | unknownModule id => "usage log references unknown module with logic id " ++ id
  | badDocument path cause => "failed to decode JSON " ++ path ++ ": " ++ cause.message

end CallMap
