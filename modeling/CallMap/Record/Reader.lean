import CallMap.Record
import CallMap.Text.Blank
import CallMap.Traced

/-!
# Reading records

A reader is a place in an export file. Records are read line by line, except for embedded texts: the
header of a text gives its length in bytes, the text may hold anything, line ends included, and a
closing record has to follow it.

* `Reader.item?_length`: reading a record uses up bytes.
* `Reader.items` is the whole file, record by record, up to the first text that is not well formed.
-/

namespace CallMap

/-- A place in an export file. -/
structure Reader where
  /-- The name of the file, for messages. -/
  file : String
  /-- The bytes that are not read yet. -/
  rest : List UInt8

namespace Reader

/-- The bytes up to the first line feed. -/
def firstLine (bytes : List UInt8) : List UInt8 :=
  bytes.takeWhile (· != 10)

/-- The bytes after the first line feed. -/
def afterLine (bytes : List UInt8) : List UInt8 :=
  (bytes.dropWhile (· != 10)).drop 1

/-- A line without the carriage return at its end. -/
def dropReturn (line : List UInt8) : List UInt8 :=
  if line.getLast? = some 13 then line.dropLast else line

/-- The reader after its current line. -/
def skipLine (reader : Reader) : Reader :=
  { reader with rest := afterLine reader.rest }

/-- The next record, and the reader after it; nothing at the end of the file. -/
def next? (reader : Reader) : Option (Record × Reader) :=
  if reader.rest.isEmpty then none
  else some (Record.ofLine (dropReturn (firstLine reader.rest)), reader.skipLine)

/-- Lengths are numbers of 64 bits. -/
@[irreducible]
def lengthLimit : Nat := Nat.pow 2 64

/-- The number of bytes that the header of a text gives: digits, perhaps with a plus sign, that make
a number below `lengthLimit`. -/
def textLength? (field : String) : Option Nat :=
  let digits := match field.toList with
    | '+' :: digits => digits
    | digits => digits
  let value := digits.foldl (fun value digit => value * 10 + (digit.toNat - '0'.toNat)) 0
  if !digits.isEmpty && digits.all Record.isDigit && value < lengthLimit then some value else none

/-- Lengths from here on cannot be held in memory, since no address goes that far. A shorter text is
taken to fit, however little memory there is: how much there is, is no part of this. -/
@[irreducible]
def addressLimit : Nat := Nat.pow 2 63

/-- Reads the text that a header announces and the closing record after it. What has been read of a
text that is not well formed stays read. -/
@[irreducible]
def text (reader : Reader) (header : Record) : Except Halt String × Reader :=
  let field := Text.trim header.name
  match textLength? field with
  | none => (.error (.failed (.badTextLength reader.file field)), reader)
  | some length =>
    if addressLimit ≤ length then (.error .outOfMemory, reader)
    else
      let body := reader.rest.take length
      let after : Reader := { reader with rest := reader.rest.drop length }
      if body.length < length then
        (.error (.failed (.shortText reader.file length body.length)), after)
      else
        let line := firstLine after.rest
        if (Tag.bytes "XTX,").isPrefixOf line then
          (.ok (Text.Windows1252.decode body), after.skipLine)
        else
          let found := Text.Windows1252.decode (dropReturn line)
          (.error (.failed (.unclosedText reader.file found)), after.skipLine)

theorem length_afterLine_le (bytes : List UInt8) : (afterLine bytes).length ≤ bytes.length := by
  have := (List.dropWhile_suffix (· != 10) (l := bytes)).length_le
  simp only [afterLine, List.length_drop]
  omega

theorem length_afterLine_lt {bytes : List UInt8} (h : bytes ≠ []) :
    (afterLine bytes).length < bytes.length := by
  have shorter := (List.dropWhile_suffix (· != 10) (l := bytes)).length_le
  have positive := List.length_pos_iff.mpr h
  simp only [afterLine, List.length_drop]
  omega

/-- Reading a record uses up at least one byte. -/
theorem next?_length {reader after : Reader} {record : Record}
    (h : reader.next? = some (record, after)) : after.rest.length < reader.rest.length := by
  unfold next? at h
  split at h
  · exact absurd h (by simp)
  · next nonempty =>
    cases h
    exact length_afterLine_lt (by simpa using nonempty)

/-- Reading a text never gives bytes back. -/
theorem text_length (reader : Reader) (header : Record) :
    (reader.text header).2.rest.length ≤ reader.rest.length := by
  unfold text
  dsimp only
  split
  · exact Nat.le_refl _
  · next length _ =>
    have drop : (reader.rest.drop length).length ≤ reader.rest.length := by simp
    have line := length_afterLine_le (reader.rest.drop length)
    split
    · exact Nat.le_refl _
    · split
      · exact drop
      · split <;> exact Nat.le_trans line drop

end Reader

/-- One record of an export file, with the text it announces. -/
inductive Item
  /-- A record of one line. -/
  | plain (record : Record)
  /-- The header of a text and the text. -/
  | text (header : Record) (body : String)
  deriving DecidableEq, Repr

namespace Reader

/-- The record of a line with the text it announces, or the reason why that text cannot be read. -/
def complete (record : Record) (after : Reader) : Except Halt Item × Reader :=
  if record.tag = .text then
    ((after.text record).1.map (Item.text record), (after.text record).2)
  else (.ok (.plain record), after)

/-- Reading the text of a record never gives bytes back. -/
theorem complete_length (record : Record) (after : Reader) :
    (complete record after).2.rest.length ≤ after.rest.length := by
  unfold complete
  split
  · exact text_length after record
  · exact Nat.le_refl _

/-- The next record with the text it announces, or the reason why that text cannot be read. -/
def item? (reader : Reader) : Option (Except Halt Item × Reader) :=
  match reader.next? with
  | none => none
  | some (record, after) => some (complete record after)

/-- Reading a record with its text uses up at least one byte. -/
theorem item?_length {reader after : Reader} {item : Except Halt Item}
    (h : reader.item? = some (item, after)) : after.rest.length < reader.rest.length := by
  unfold item? at h
  split at h
  · exact absurd h (by simp)
  · next record line next =>
    have shorter := Nat.lt_of_le_of_lt (complete_length record line) (next?_length next)
    rwa [Option.some.inj h] at shorter

/-- The records of a file up to its end, or up to the first text that cannot be read and the reason
why. -/
def items (reader : Reader) : List Item × Option Halt :=
  match _found : reader.item? with
  | none => ([], none)
  | some (.error reason, _) => ([], some reason)
  | some (.ok item, after) =>
    let (rest, stop) := after.items
    (item :: rest, stop)
termination_by reader.rest.length
decreasing_by exact item?_length _found

theorem items_of_item?_none {reader : Reader} (h : reader.item? = none) :
    reader.items = ([], none) := by
  rw [items]
  split <;> simp_all

theorem items_of_item?_error {reader after : Reader} {reason : Halt}
    (h : reader.item? = some (.error reason, after)) : reader.items = ([], some reason) := by
  rw [items]
  split <;> simp_all

theorem items_of_item?_ok {reader after : Reader} {item : Item}
    (h : reader.item? = some (.ok item, after)) :
    reader.items = (item :: after.items.1, after.items.2) := by
  rw [items]
  split <;> simp_all

end Reader

end CallMap
