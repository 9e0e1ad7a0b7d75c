import CallMap.Text.Utf8
import CallMap.Disk

/-!
# Comma-separated rows

Rows of fields with commas between them. A field that starts with a double quote runs to the next
quote that is not doubled, over commas and line ends; what follows the closing quote is added to it.
Rows end at a carriage return or a line feed, and empty lines are no rows. A byte order mark at the
start is dropped.

Each row remembers where the reader stood when it began to look for it. The line feed after a
carriage return and empty lines are only passed on the way to the next row.
-/

namespace CallMap.Csv

/-- A place in a file. -/
structure Position where
  /-- The number of the line, from 1. -/
  line : Nat := 1
  /-- The number of bytes before the place. -/
  byte : Nat := 0
  deriving DecidableEq, Repr

/-- The place after one more byte. -/
def Position.after (place : Position) (b : UInt8) : Position :=
  ⟨if b = 10 then place.line + 1 else place.line, place.byte + 1⟩

/-- A row with its fields as bytes. -/
structure RawRow where
  /-- Where the reader stood when it began to look for the row. -/
  start : Position
  /-- The fields, without quotes. -/
  fields : List (List UInt8)
  deriving DecidableEq, Repr

/-- Where in a row the reader stands. -/
inductive Mode
  /-- Before the first character of a row. -/
  | outside
  /-- Before the first character of a field. -/
  | fieldStart
  /-- In a field, outside quotes. -/
  | plain
  /-- Between the quotes of a field. -/
  | quoted
  /-- After a quote that may close the field or be doubled. -/
  | afterQuote
  deriving DecidableEq, Repr

/-- What the reader has of the current row. -/
structure Scan where
  /-- Where in the row it stands. -/
  mode : Mode := .outside
  /-- Where the search for the row began. -/
  start : Position := {}
  /-- The place reached. -/
  here : Position := {}
  /-- The bytes of the current field, last first. -/
  field : List UInt8 := []
  /-- The finished fields of the row, last first. -/
  fields : List (List UInt8) := []
  deriving Repr

namespace Scan

/-- The row as read so far. -/
def row (scan : Scan) : RawRow :=
  ⟨scan.start, (scan.field.reverse :: scan.fields).reverse⟩

/-- Adds a byte to the current field. -/
def keep (scan : Scan) (b : UInt8) (mode : Mode) : Scan :=
  { scan with mode, field := b :: scan.field }

/-- Closes the current field. -/
def endField (scan : Scan) : Scan :=
  { scan with mode := .fieldStart, field := [], fields := scan.field.reverse :: scan.fields }

/-- A byte outside quotes: a comma ends the field, a line end the row, anything else belongs to the
field. -/
def unquoted (scan : Scan) (b : UInt8) : Scan × Option RawRow :=
  if b = 44 then (scan.endField, none)
  else if b = 13 ∨ b = 10 then ({ start := scan.here, here := scan.here }, some scan.row)
  else (scan.keep b .plain, none)

/-- One byte: the state after it, and the row it completes. -/
def step (scan : Scan) (b : UInt8) : Scan × Option RawRow :=
  let scan := { scan with here := scan.here.after b }
  match scan.mode with
  | .outside =>
    if b = 13 ∨ b = 10 then (scan, none)
    else if b = 34 then ({ scan with mode := .quoted }, none)
    else scan.unquoted b
  | .fieldStart => if b = 34 then ({ scan with mode := .quoted }, none) else scan.unquoted b
  | .plain => scan.unquoted b
  | .quoted =>
    if b = 34 then ({ scan with mode := .afterQuote }, none) else (scan.keep b .quoted, none)
  | .afterQuote => if b = 34 then (scan.keep b .quoted, none) else scan.unquoted b

/-- All rows from a state on; the end of the file completes a row that has begun. -/
def rows (scan : Scan) : List UInt8 → List RawRow
  | [] => if scan.mode = .outside then [] else [scan.row]
  | b :: rest => match scan.step b with
    | (scan, some row) => row :: scan.rows rest
    | (scan, none) => scan.rows rest

end Scan

/-- All rows of a file, the header included. -/
def rawRows : List UInt8 → List RawRow
  | 0xEF :: 0xBB :: 0xBF :: rest => ({ here := ⟨1, 3⟩ } : Scan).rows rest
  | bytes => ({} : Scan).rows bytes

/-- A row of text. -/
structure Row where
  /-- The line on which the search for the row began. -/
  line : Nat
  /-- The fields of the row. -/
  fields : List String
  deriving DecidableEq, Repr

/-- Why rows cannot be read. -/
inductive Fault
  /-- The file cannot be read. -/
  | unreadable (cause : Disk.Fault)
  /-- A field of a row is no text. `record` counts the header as 0, `offset` is that of the first
  byte that is no part of a character. -/
  | notText (record : Nat) (place : Position) (field offset : Nat)
  deriving DecidableEq, Repr

/-- The wording of a complaint about rows. -/
def Fault.message : Fault → String
  | unreadable cause => cause.message
  | notText record place field offset =>
    s!"CSV parse error: record {record} (line {place.line}, field: {field}, byte: {place.byte}): "
      ++ s!"invalid utf-8: invalid UTF-8 in field {field} near byte index {offset}"

/-- Decodes the fields of a row, or gives the first that is no text with the offset of its fault. -/
def decodeFields (index : Nat) : List (List UInt8) → Except (Nat × Nat) (List String)
  | [] => .ok []
  | field :: rest => match Text.Utf8.decode field with
    | .error offset => .error (index, offset)
    | .ok text => (decodeFields (index + 1) rest).map (text :: ·)

/-- Decodes the row number `record`. A fault in the first row after the header is reported for the
start of the file, where reading began. -/
def decodeRow (record : Nat) (row : RawRow) : Except Fault Row :=
  match decodeFields 0 row.fields with
  | .ok fields => .ok ⟨row.start.line, fields⟩
  | .error (field, offset) =>
    if record = 1 then .error (.notText 0 {} field offset)
    else .error (.notText record row.start field offset)

/-- The rows after the header, each decoded or faulty on its own. -/
def rows (bytes : List UInt8) : List (Except Fault Row) :=
  (rawRows bytes).tail.mapIdx fun index row => decodeRow (index + 1) row

end CallMap.Csv
