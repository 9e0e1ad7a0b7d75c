import CallMap.Text.Windows1252

/-!
# Records

An export file is a sequence of records, one to a line. A record starts with a four byte tag; most
tags are followed by the width of the record as two or three digits and a comma, and then by the
payload, whose first field is the name of something.
-/

namespace CallMap

/-- What a record is about. -/
inductive Tag
  /-- The module that the file holds. -/
  | file
  /-- A reference to a field. -/
  | field
  /-- A reference to an index. -/
  | index
  /-- A reference to a work area. -/
  | workArea
  /-- A reference to a table. -/
  | table
  /-- A call of a public procedure. -/
  | procedureCall
  /-- The start of a public procedure. -/
  | procedureDefinition
  /-- A call of a procedure of the same file. -/
  | localCall
  /-- The header of an embedded text. -/
  | text
  /-- The end of an embedded text. -/
  | textEnd
  /-- Something that refers to nothing. -/
  | ignored
  /-- Anything else. -/
  | unrecognised
  deriving DecidableEq, Repr, Inhabited

namespace Tag

/-- The tags as they are written. -/
def known : List (String × Tag) := [
  ("FIL,", file), ("FLD,", field), ("IDX,", index), ("WRK,", workArea), ("SUB,", table),
  ("TBL,", table), ("PPC,", procedureCall), ("PPD,", procedureDefinition), ("LPC,", localCall),
  ("TXT,", text), ("XTX,", textEnd),
  ("GRP,", ignored), ("BLK,", ignored), ("KLB,", ignored), ("VAD,", ignored), ("VAR,", ignored),
  ("LPD,", ignored), ("AUD,", ignored), ("AUT,", ignored), ("DBS,", ignored), ("OBN,", ignored),
  ("OBP,", ignored), ("EQP,", ignored), ("DTW,", ignored), ("DPW,", ignored), ("DLW,", ignored),
  ("DBP,", ignored), ("DLD,", ignored), ("OBD,", ignored), ("DLC,", ignored), ("OBC,", ignored)]

/-- The bytes of a tag as it is written. -/
def bytes (written : String) : List UInt8 :=
  written.toList.map fun c => c.toNat.toUInt8

/-- The tag that the first four bytes of a record spell. -/
def ofBytes (spelling : List UInt8) : Tag :=
  ((known.find? fun entry => bytes entry.1 == spelling).map Prod.snd).getD unrecognised

end Tag

/-- One line of an export file. -/
structure Record where
  /-- What the record is about. -/
  tag : Tag
  /-- The tag as it is written. -/
  rawTag : String
  /-- The text after the tag and the width. -/
  payload : String
  deriving DecidableEq, Repr

namespace Record

/-- The first field of the payload. -/
def name (record : Record) : String :=
  String.ofList (record.payload.toList.takeWhile (· != ','))

/-- Whether a character is a decimal digit. -/
def isDigit (c : Char) : Bool :=
  '0' ≤ c && c ≤ '9'

/-- Removes a width of two or three digits and the comma after it. -/
def dropWidth : List Char → List Char
  | a :: b :: ',' :: rest => if isDigit a && isDigit b then rest else a :: b :: ',' :: rest
  | a :: b :: c :: ',' :: rest =>
    if isDigit a && isDigit b && isDigit c then rest else a :: b :: c :: ',' :: rest
  | text => text

/-- The record on a line. A line that is too short for a tag is not recognised. -/
def ofLine (line : List UInt8) : Record :=
  if line.length < 4 then
    { tag := .unrecognised, rawTag := Text.Windows1252.decode line, payload := "" }
  else
    { tag := .ofBytes (line.take 4)
      rawTag := Text.Windows1252.decode (line.take 4)
      payload := String.ofList (dropWidth ((line.drop 4).map Text.Windows1252.decodeByte)) }

end Record

end CallMap
