/-!
# Reading position in a JSON text

A cursor is a place in a text together with the bytes after it. Complaints about a text name a line
and a column; the column counts bytes, and is 0 before the first byte of a line.
-/

namespace CallMap.Json

/-- A place in a text. -/
structure Position where
  /-- The number of the line, from 1. -/
  line : Nat := 1
  /-- The number of bytes of the line before the place. -/
  column : Nat := 0
  deriving DecidableEq, Repr

/-- The place after one more byte. -/
def Position.after (place : Position) (b : UInt8) : Position :=
  if b = 10 then ⟨place.line + 1, 0⟩ else ⟨place.line, place.column + 1⟩

/-- A place in a text and the bytes that follow. -/
structure Cursor where
  /-- The place. -/
  place : Position := {}
  /-- The bytes that are not read yet. -/
  rest : List UInt8
  deriving Repr

namespace Cursor

/-- The cursor after the next `n` bytes, or at the end. -/
def drop (cursor : Cursor) (n : Nat) : Cursor :=
  ⟨(cursor.rest.take n).foldl Position.after cursor.place, cursor.rest.drop n⟩

/-- The cursor after the longest run of bytes with a property. -/
def dropWhile (cursor : Cursor) (p : UInt8 → Bool) : Cursor :=
  cursor.drop (cursor.rest.takeWhile p).length

/-- The place of the next byte: one column on, unless the text ends here. -/
def ahead (cursor : Cursor) : Position :=
  (cursor.drop 1).place

/-- Blanks between the parts of a text. -/
def isBlank (b : UInt8) : Bool :=
  b == 32 || b == 10 || b == 9 || b == 13

/-- The cursor after the blanks that follow. -/
def skipBlanks (cursor : Cursor) : Cursor :=
  cursor.dropWhile isBlank

end Cursor

end CallMap.Json
