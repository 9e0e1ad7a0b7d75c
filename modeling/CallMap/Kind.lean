import CallMap.Text.Case

/-!
# Kinds of units

A unit of an exported system is a piece of code (a method, a form, a report, …), a public procedure,
or an object of the database schema. Each kind has a tag, the word that stands for it in keys and
output.

* `Kind.ofTag?_tag`: a kind can be read back from its tag.
* `Kind.tag_injective`: no two kinds share a tag.
-/

namespace CallMap

/-- What a unit is. -/
inductive Kind
  /-- A routine that writes data out. -/
  | exporter
  /-- A field of a database table. -/
  | field
  /-- A screen form. -/
  | form
  /-- A routine that reads data in. -/
  | importer
  /-- An index of a database table. -/
  | index
  /-- A named routine. -/
  | method
  /-- A file of public procedures; it is no unit itself, its procedures are. -/
  | library
  /-- A background process. -/
  | process
  /-- A procedure that any unit may call. -/
  | procedure
  /-- A stored query. -/
  | query
  /-- A printed report. -/
  | report
  /-- A database table. -/
  | table
  /-- A scratch area shared by units. -/
  | workArea
  /-- A module whose file extension names no kind. -/
  | unknown
  deriving DecidableEq, Repr, Inhabited

namespace Kind

/-- The word that stands for a kind in keys and output. -/
def tag : Kind → String
  | exporter => "export"
  | field => "field"
  | form => "form"
  | importer => "import"
  | index => "index"
  | method => "method"
  | library => "public_procedure_library"
  | process => "process"
  | procedure => "public_procedure"
  | query => "query"
  | report => "report"
  | table => "table"
  | workArea => "work_area"
  | unknown => "unknown"

/-- All kinds. -/
def all : List Kind :=
  [exporter, field, form, importer, index, method, library, process, procedure, query, report,
    table, workArea, unknown]

/-- The kind with a given tag. -/
def ofTag? (text : String) : Option Kind :=
  all.find? fun kind => kind.tag == text

/-- The kind a user asks for by its tag, with hyphens as good as underscores. Nobody asks for units
of unknown kind. -/
def ofRequest? (text : String) : Option Kind :=
  (all.erase unknown).find? fun kind =>
    kind.tag.toList == text.toList.map fun c => if c = '-' then '_' else c

/-- The kind of a module by the extension of its file, in any case. -/
def ofExtension (extension : String) : Kind :=
  let small := Text.lower extension
  if small = "jcl" then method
  else if small = "imp" then importer
  else if small = "exp" then exporter
  else if small = "frm" then form
  else if small = "qry" then query
  else if small = "rep" then report
  else if small = "ppl" then library
  else unknown

/-- Schema objects exist as soon as something refers to them. -/
def isSchema : Kind → Bool
  | table | field | index | workArea => true
  | _ => false

/-- The schema objects are tables, fields, indexes and work areas. -/
theorem isSchema_iff {kind : Kind} : kind.isSchema = true ↔
    kind = table ∨ kind = field ∨ kind = index ∨ kind = workArea := by
  cases kind <;> decide

/-- Kinds that can start a chain of calls, so that it is worth knowing when nothing reaches them. -/
def isEntry : Kind → Bool
  | method | form | report | procedure | query | importer | exporter | process => true
  | _ => false

/-- Whether a reference to a unit of this kind is a call. -/
def isCallable : Kind → Bool
  | method | procedure => true
  | _ => false

/-- A kind can be read back from its tag. -/
theorem ofTag?_tag (kind : Kind) : ofTag? kind.tag = some kind := by
  cases kind <;> decide

/-- No two kinds share a tag. -/
theorem tag_injective {a b : Kind} (h : a.tag = b.tag) : a = b := by
  have found := ofTag?_tag a
  rw [h, ofTag?_tag] at found
  exact (Option.some.inj found).symm

end Kind

end CallMap
