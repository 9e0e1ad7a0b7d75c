import CallMap.Document
import CallMap.Graph.Pass

/-!
# Usage history

Two sets of rows tell which modules have been used. The module directory gives the dotted name of
each module by its logic id; the usage log has a row for each invocation, with its date and the
logic id of the module. Every module that was invoked on or after a date counts as used.
-/

namespace CallMap.Usage

/-- The column of the module directory with the dotted name. -/
def nameColumn : Nat := 0

/-- The column of the module directory with the logic id. -/
def idColumn : Nat := 6

/-- The column of the usage log with the date. -/
def dateColumn : Nat := 0

/-- The column of the usage log with the logic id. -/
def invokedColumn : Nat := 13

/-- A column of a row without the white space around it. -/
def column (path : String) (row : Csv.Row) (index : Nat) : Except Failure String :=
  match row.fields[index]? with
  | some field => .ok (Text.trim field)
  | none => .error (.missingColumn path index row.line)

/-- A row that could be read. -/
def readable (path : String) : Except Csv.Fault Csv.Row → Except Failure Csv.Row
  | .ok row => .ok row
  | .error cause => .error (.badRows path cause)

/-- Dotted names by logic id. -/
abbrev Directory := Std.ExtTreeMap String String

/-- Enters a row of the module directory. The last row of a logic id counts. -/
def enterModule (path : String) (directory : Directory) (row : Except Csv.Fault Csv.Row) :
    Except Failure Directory := do
  let row ← readable path row
  let name ← column path row nameColumn
  let id ← column path row idColumn
  return directory.insert id name

/-- The module directory of a document. -/
def directory (document : Document) : Except Failure Directory := do
  (← document.rows).foldlM (enterModule document.path) ∅

/-- The date of a row of the usage log. -/
def invocationDate (path : String) (row : Csv.Row) : Except Failure Date := do
  let value ← column path row dateColumn
  match Date.ofField value with
  | .ok date => .ok date
  | .error cause => .error (.badDate path value cause)

/-- Adds the logic id of a row of the usage log, if the row is recent enough to count. -/
def enterInvocation (path : String) (since : Date) (invoked : Std.ExtTreeSet String)
    (row : Except Csv.Fault Csv.Row) : Except Failure (Std.ExtTreeSet String) := do
  let row ← readable path row
  let date ← invocationDate path row
  if date.onOrAfter since then return invoked.insert (← column path row invokedColumn)
  else return invoked

/-- The logic ids invoked on or after a date. -/
def invoked (document : Document) (since : Date) : Except Failure (Std.ExtTreeSet String) := do
  (← document.rows).foldlM (enterInvocation document.path since) ∅

/-- Counts the module of a logic id as used and says whether it did. Modules without an extension,
or with one that names no kind, are left out. -/
def markModule (directory : Directory) (id : String) : Pass Bool :=
  match directory[id]? with
  | none => Pass.ofExcept (.error (.unknownModule id))
  | some name =>
    let symbol := Symbol.ofModule name
    if !name.toList.contains '.' then do
      Pass.note .warn .enrichment
        ("module '" ++ name ++ "' (id " ++ id ++ ") has a truncated name - skipping")
      return false
    else if symbol.kind = .unknown then do
      Pass.note .warn .enrichment
        ("module '" ++ name ++ "' (id " ++ id ++ ") has an unknown type - skipping")
      return false
    else do
      Pass.update (·.markUsed symbol)
      return true

/-- Counts the modules of logic ids as used, one after the other, and gives their number. -/
def markModules (directory : Directory) : List String → Pass Nat
  | [] => pure 0
  | id :: rest => do
    let marked ← markModule directory id
    let others ← markModules directory rest
    return if marked then others + 1 else others

/-- Counts every module invoked on or after a date as used and gives their number. -/
def apply (modules usageLog : Document) (since : Date) : Pass Nat := do
  let directory ← Pass.ofExcept (directory modules)
  let invoked ← Pass.ofExcept (invoked usageLog since)
  markModules directory invoked.toList

end CallMap.Usage
