import CallMap.Failure
import CallMap.Json.Reader

/-!
# Documents

A document is a file that an analysis is told about by its path: rows or a JSON text. It is read
when it is needed, so a document that cannot be read only matters then.
-/

namespace CallMap

/-- A path and what reading it gives. -/
structure Document where
  /-- The path as it was given. -/
  path : String
  /-- The bytes of the file, or why there are none. -/
  content : Except Disk.Fault (List UInt8)

namespace Document

/-- The document at a path of a disk. -/
def ofDisk (disk : Disk) (path : String) : Document :=
  ⟨path, disk.read path⟩

/-- The rows of a document after its header. -/
def rows (document : Document) : Except Failure (List (Except Csv.Fault Csv.Row)) :=
  match document.content with
  | .ok bytes => .ok (Csv.rows bytes)
  | .error cause => .error (.badRows document.path (.unreadable cause))

/-- The bytes of a document that has to be text. -/
def text (document : Document) : Except Failure (List UInt8) :=
  match document.content with
  | .error cause => .error (.unreadable document.path cause)
  | .ok bytes => match Text.Utf8.decode bytes with
    | .ok _ => .ok bytes
    | .error _ => .error (.unreadable document.path .notText)

/-- The value of a JSON document. -/
def json {α : Type} (document : Document) (value : Json.Reader α) : Except Failure α := do
  match Json.read value (← document.text) with
  | .ok result => .ok result
  | .error cause => .error (.badDocument document.path cause)

end Document

end CallMap
