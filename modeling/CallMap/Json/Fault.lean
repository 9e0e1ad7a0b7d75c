import CallMap.Date
import CallMap.Json.Cursor

/-!
# Complaints about JSON texts

What can be wrong with a JSON text that has to hold a value of a given shape, and how it is worded.
-/

namespace CallMap.Json

/-- What is wrong with a text. -/
inductive Complaint
  /-- The text ends where a value is required. -/
  | endInValue
  /-- The text ends inside a list. -/
  | endInList
  /-- The text ends inside an object. -/
  | endInObject
  /-- The text ends inside a string. -/
  | endInString
  /-- No value starts here. -/
  | noValue
  /-- An object has something other than a string for a key. -/
  | keyNotString
  /-- A key is not followed by a colon. -/
  | noColon
  /-- An element of a list is followed by neither a comma nor the end of the list. -/
  | noListComma
  /-- A value of an object is followed by neither a comma nor the end of the object. -/
  | noObjectComma
  /-- A comma stands before a closing bracket. -/
  | trailingComma
  /-- Something follows that belongs to no value. -/
  | trailingCharacters
  /-- A number is not well formed. -/
  | badNumber
  /-- A number is too large. -/
  | hugeNumber
  /-- A word starts like `true`, `false` or `null` and goes on differently. -/
  | badWord
  /-- A backslash is followed by something that is no escape. -/
  | badEscape
  /-- Half of a surrogate pair stands alone. -/
  | loneSurrogate
  /-- The second half of a surrogate pair is missing. -/
  | unpairedSurrogate
  /-- A control character stands inside a string. -/
  | controlCharacter
  /-- A value is of another type than the one required. -/
  | wrongType (found expected : String)
  /-- A required field is missing. -/
  | missingField (name : String)
  /-- A field is given twice. -/
  | duplicateField (name : String)
  /-- A record written as a list ends too early. -/
  | wrongLength (length : Nat) (expected : String)
  /-- A string is no date. -/
  | badDate (fault : Date.Fault)
  deriving DecidableEq, Repr

/-- The wording of a complaint. -/
def Complaint.message : Complaint → String
  | endInValue => "EOF while parsing a value"
  | endInList => "EOF while parsing a list"
  | endInObject => "EOF while parsing an object"
  | endInString => "EOF while parsing a string"
  | noValue => "expected value"
  | keyNotString => "key must be a string"
  | noColon => "expected `:`"
  | noListComma => "expected `,` or `]`"
  | noObjectComma => "expected `,` or `\x7d`"
  | trailingComma => "trailing comma"
  | trailingCharacters => "trailing characters"
  | badNumber => "invalid number"
  | hugeNumber => "number out of range"
  | badWord => "expected ident"
  | badEscape => "invalid escape"
  | loneSurrogate => "lone leading surrogate in hex escape"
  | unpairedSurrogate => "unexpected end of hex escape"
  | controlCharacter => "control character (\\u0000-\\u001F) found while parsing a string"
  | wrongType found expected => "invalid type: " ++ found ++ ", expected " ++ expected
  | missingField name => "missing field `" ++ name ++ "`"
  | duplicateField name => "duplicate field `" ++ name ++ "`"
  | wrongLength length expected => "invalid length " ++ toString length ++ ", expected " ++ expected
  | badDate fault => fault.message

/-- A complaint and the place it is about. -/
structure Fault where
  /-- What is wrong. -/
  complaint : Complaint
  /-- Where. -/
  place : Position
  deriving DecidableEq, Repr

/-- The wording of a fault. -/
def Fault.message (fault : Fault) : String :=
  fault.complaint.message ++ " at line " ++ toString fault.place.line ++ " column "
    ++ toString fault.place.column

end CallMap.Json
