import CallMap.Decimal.Shortest
import CallMap.Json.Fault
import CallMap.Text.Quoted
import CallMap.Text.Utf8

/-!
# Reading JSON texts

Readers take a value of a known shape off the front of a text, or complain about the first thing
that does not fit. The text is read once from left to right and never held as a tree, so a value of
the wrong type is noticed before any later fault of the text.

A complaint is either about the last byte read (`Reader.fail`) or about the byte that comes next
(`Reader.failAhead`).
-/

namespace CallMap.Json

/-- Takes a value off the front of a text. -/
abbrev Reader := StateT Cursor (Except Fault)

namespace Reader

/-- Complains about the last byte read. -/
def fail {α : Type} (complaint : Complaint) : Reader α := do
  throw ⟨complaint, (← get).place⟩

/-- Complains about the next byte. -/
def failAhead {α : Type} (complaint : Complaint) : Reader α := do
  throw ⟨complaint, (← get).ahead⟩

/-- The next byte, which stays unread. -/
def peek : Reader (Option UInt8) := do
  return (← get).rest.head?

/-- Passes over the next `n` bytes. -/
def skip (n : Nat) : Reader Unit :=
  modify (·.drop n)

/-- Reads the next byte. -/
def next : Reader (Option UInt8) := do
  let b ← peek
  skip 1
  return b

/-- Passes over blanks and gives the byte after them, which stays unread. -/
def peekToken : Reader (Option UInt8) := do
  modify (·.skipBlanks)
  peek

/-- Repeats a step until it gives a result. Every step but the last has to read something; one that
does not is taken for the end of all values. -/
def iterate {σ α : Type} (step : σ → Reader (σ ⊕ α)) (state : σ) : Reader α := fun cursor =>
  match step state cursor with
  | .error fault => .error fault
  | .ok (.inr result, after) => .ok (result, after)
  | .ok (.inl state, after) =>
    if after.rest.length < cursor.rest.length then iterate step state after
    else .error ⟨.noValue, after.place⟩
termination_by cursor => cursor.rest.length

/-- The bytes of an ASCII text. -/
def ascii (text : String) : List UInt8 :=
  text.toList.map fun c => c.toNat.toUInt8

/-- Reads the rest of a word of which the first letter has been read. -/
def restOfWord : List UInt8 → Reader Unit
  | [] => pure ()
  | expected :: rest => do
    match ← next with
    | none => fail .endInValue
    | some b => if b = expected then restOfWord rest else fail .badWord

/-! ### Strings -/

/-- The value of a hexadecimal digit. -/
def hexDigit? (b : UInt8) : Option Nat :=
  if 48 ≤ b ∧ b ≤ 57 then some (b.toNat - 48)
  else if 97 ≤ b ∧ b ≤ 102 then some (b.toNat - 87)
  else if 65 ≤ b ∧ b ≤ 70 then some (b.toNat - 55)
  else none

/-- The value of hexadecimal digits. -/
def hexValue? (digits : List UInt8) : Option Nat :=
  digits.foldlM (fun value b => (hexDigit? b).map (value * 16 + ·)) 0

/-- Reads the four digits of a numbered escape. -/
def hexEscape : Reader Nat := do
  let digits := (← get).rest.take 4
  skip 4
  if digits.length < 4 then fail .endInString
  else match hexValue? digits with
    | some value => return value
    | none => fail .badEscape

/-- The character that a single letter after a backslash stands for. -/
def shortEscape? (b : UInt8) : Option Char :=
  [(34, '"'), (92, '\\'), (47, '/'), (98, '\x08'), (102, '\x0c'), (110, '\n'), (114, '\r'),
    (116, '\t')].lookup b

/-- Reads one expected byte between the halves of a surrogate pair. -/
def pairLink (expected : UInt8) : Reader Unit := do
  match ← peek with
  | none => fail .endInString
  | some b =>
    skip 1
    if b ≠ expected then fail .unpairedSurrogate

/-- Reads the character of a numbered escape, which may take a second escape. -/
def unicodeEscape : Reader Char := do
  let high ← hexEscape
  if 0xDC00 ≤ high ∧ high ≤ 0xDFFF then fail .loneSurrogate
  else if high < 0xD800 ∨ 0xDBFF < high then return Char.ofNat high
  else
    pairLink 92
    pairLink 117
    let low ← hexEscape
    if low < 0xDC00 ∨ 0xDFFF < low then fail .loneSurrogate
    else return Char.ofNat ((high - 0xD800) * 0x400 + (low - 0xDC00) + 0x10000)

/-- Reads the character of an escape of which the backslash has been read. -/
def escape : Reader Char := do
  match ← next with
  | none => fail .endInString
  | some b =>
    if b = 117 then unicodeEscape
    else match shortEscape? b with
      | some c => return c
      | none => fail .badEscape

/-- Bytes that stand for themselves inside a string. -/
def isPlain (b : UInt8) : Bool :=
  b != 34 && b != 92 && 32 ≤ b

/-- Reads the rest of a string of which the opening quote has been read. -/
def restOfString : Reader String := do
  let bytes ← iterate (fun (read : List UInt8) => do
    let plain := (← get).rest.takeWhile isPlain
    skip plain.length
    let read := read ++ plain
    match ← next with
    | none => fail .endInString
    | some b =>
      if b = 34 then return .inr read
      else if b = 92 then return .inl (read ++ Text.Utf8.encode (String.singleton (← escape)))
      else fail .controlCharacter) []
  return (Text.Utf8.decode bytes).toOption.getD ""

/-- Passes over an escape in a string whose value does not matter. -/
def skipEscape : Reader Unit := do
  match ← next with
  | none => fail .endInString
  | some b =>
    if b = 117 then discard hexEscape
    else if (shortEscape? b).isNone then fail .badEscape

/-- Passes over the rest of a string whose value does not matter. -/
def skipString : Reader Unit :=
  iterate (fun (_ : Unit) => do
    skip ((← get).rest.takeWhile isPlain).length
    match ← peek with
    | none => fail .endInString
    | some b =>
      if b = 34 then
        skip 1
        return .inr ()
      else if b = 92 then
        skip 1
        skipEscape
        return .inl ()
      else fail .controlCharacter) ()

/-! ### Numbers -/

/-- A number as it is shown in a complaint. -/
inductive Number
  /-- A whole number that fits in 64 bits. -/
  | whole (value : Int)
  /-- Any other number. -/
  | real (value : Float)

/-- How a number is shown. -/
def Number.describe : Number → String
  | whole value => "integer `" ++ toString value ++ "`"
  | real value => "floating point `" ++ Decimal.ofFloat value ++ "`"

/-- Whether a byte is a decimal digit. -/
def isDigit (b : UInt8) : Bool :=
  48 ≤ b && b ≤ 57

/-- Appends digits to a number as long as it stays below 2^64; gives the number of digits taken. -/
def appendDigits (value : Nat) : List UInt8 → Nat × Nat
  | [] => (value, 0)
  | digit :: rest =>
    let longer := value * 10 + (digit.toNat - 48)
    if longer < Nat.pow 2 64 then
      let (value, count) := appendDigits longer rest
      (value, count + 1)
    else (value, 0)

/-- Divides by ten to a large power, in steps of at most 308. -/
def divideByPower (x : Float) (power : Nat) : Float :=
  if power ≤ 308 then x / Float.ofScientific 1 false power
  else if x == 0 then x
  else divideByPower (x / Float.ofScientific 1 false 308) (power - 308)
termination_by power

/-- The number `significand * 10 ^ exponent`. -/
def scaled (negative : Bool) (significand : Nat) (exponent : Int) : Reader Number := do
  let x := significand.toUInt64.toFloat
  let sized (x : Float) : Number := .real (if negative then -x else x)
  if 0 ≤ exponent then
    if exponent ≤ 308 then
      let x := x * Float.ofScientific 1 false exponent.toNat
      if x.isInf then fail .hugeNumber else return sized x
    else if significand = 0 then return sized 0
    else fail .hugeNumber
  else return sized (divideByPower x exponent.natAbs)

/-- Reads an exponent of which the letter comes next. -/
def exponentPart (negative : Bool) (significand : Nat) (exponent : Int) : Reader Number := do
  skip 1
  let sign ← peek
  if sign = some 43 ∨ sign = some 45 then skip 1
  match ← next with
  | none => fail .endInValue
  | some first =>
    if !isDigit first then fail .badNumber
    let digits := (← get).rest.takeWhile isDigit
    let values := digits.scanl (fun value b => value * 10 + (b.toNat - 48)) (first.toNat - 48)
    let fitting := (values.takeWhile (· < Nat.pow 2 31)).length
    if fitting < values.length then
      -- the exponent is beyond all bounds: only zero and vanishing numbers remain
      skip fitting
      if significand ≠ 0 ∧ sign ≠ some 45 then fail .hugeNumber
      skip (values.length - 1 - fitting)
      return .real (if negative then -0.0 else 0.0)
    else
      skip digits.length
      let value : Int := (values.getLast?.getD 0 : Nat)
      let bounded (n : Int) : Int := max (-0x80000000) (min 0x7fffffff n)
      scaled negative significand
        (bounded (if sign = some 45 then exponent - value else exponent + value))

/-- Reads the places after a decimal point, which comes next. -/
def fractionPart (negative : Bool) (significand : Nat) (exponent : Int) : Reader Number := do
  skip 1
  let digits := (← get).rest.takeWhile isDigit
  let (value, count) := appendDigits significand digits
  skip digits.length
  if digits.isEmpty then
    if (← peek).isNone then failAhead .endInValue else failAhead .badNumber
  let exponent := exponent - count
  match ← peek with
  | some 101 | some 69 => exponentPart negative value exponent
  | _ => scaled negative value exponent

/-- Reads a number of which the sign has been read. -/
def number (negative : Bool) : Reader Number := do
  match ← next with
  | none => fail .endInValue
  | some first =>
    if !isDigit first then fail .badNumber
    let digits := (← get).rest.takeWhile isDigit
    if first = 48 ∧ !digits.isEmpty then failAhead .badNumber
    let (value, count) := appendDigits (first.toNat - 48) digits
    skip digits.length
    let surplus := digits.length - count
    match ← peek with
    | some 46 => fractionPart negative value surplus
    | some 101 | some 69 => exponentPart negative value surplus
    | _ =>
      if surplus ≠ 0 then scaled negative value surplus
      else if !negative then return .whole value
      else if 0 < value ∧ value ≤ Nat.pow 2 63 then return .whole (-value)
      else return .real (-value.toUInt64.toFloat)

/-- Passes over digits, of which there has to be one. -/
def skipDigits : Reader Unit := do
  match ← next with
  | some b =>
    if isDigit b then modify (·.dropWhile isDigit) else fail .badNumber
  | none => fail .badNumber

/-- Passes over an exponent of which the letter comes next. -/
def skipExponent : Reader Unit := do
  skip 1
  let sign ← peek
  if sign = some 43 ∨ sign = some 45 then skip 1
  skipDigits

/-- Passes over a number of which the sign has been read. -/
def skipNumber : Reader Unit := do
  match ← next with
  | none => fail .badNumber
  | some first =>
    if !isDigit first then fail .badNumber
    if first = 48 then
      if (← peek).any isDigit then failAhead .badNumber
    else modify (·.dropWhile isDigit)
    match ← peek with
    | some 46 =>
      skip 1
      if !(← peek).any isDigit then failAhead .badNumber
      modify (·.dropWhile isDigit)
      match ← peek with
      | some 101 | some 69 => skipExponent
      | _ => pure ()
    | some 101 | some 69 => skipExponent
    | _ => pure ()

/-! ### Values that do not matter -/

/-- The two kinds of brackets. -/
inductive Bracket
  /-- Square brackets, around lists. -/
  | list
  /-- Curly brackets, around objects. -/
  | object
  deriving DecidableEq

namespace Bracket

/-- The byte that closes a bracket. -/
def closing : Bracket → UInt8
  | list => 93
  | object => 125

/-- The complaint when the text ends inside the brackets. -/
def endInside : Bracket → Complaint
  | list => .endInList
  | object => .endInObject

/-- The complaint when neither a comma nor the closing bracket follows. -/
def noComma : Bracket → Complaint
  | list => .noListComma
  | object => .noObjectComma

end Bracket

/-- Reads the colon after a key. -/
def colon : Reader Unit := do
  match ← peekToken with
  | some 58 => skip 1
  | some _ => failAhead .noColon
  | none => failAhead .endInObject

/-- Passes over a key and its colon. -/
def skipKey : Reader Unit := do
  match ← peekToken with
  | some 34 => skip 1
  | some _ => failAhead .keyNotString
  | none => failAhead .endInObject
  skipString
  colon

/-- What comes next when passing over a value, inside the given brackets, innermost first. -/
inductive Pending
  /-- A value. -/
  | value (brackets : List Bracket)
  /-- The first element of the innermost brackets, or their end. -/
  | opened (bracket : Bracket) (outer : List Bracket)
  /-- A comma in the innermost brackets, or their end. -/
  | after (bracket : Bracket) (outer : List Bracket)

/-- What comes next once a value is complete. -/
def completed : List Bracket → Pending ⊕ Unit
  | [] => .inr ()
  | bracket :: outer => .inl (.after bracket outer)

/-- Passes over a value, or over the opening bracket of one. -/
def skipStart (brackets : List Bracket) : Reader (Pending ⊕ Unit) := do
  match ← peekToken with
  | none => failAhead .endInValue
  | some b =>
    if b = 91 then
      skip 1
      return .inl (.opened .list brackets)
    else if b = 123 then
      skip 1
      return .inl (.opened .object brackets)
    else if b = 34 then
      skip 1
      skipString
    else if b = 45 then
      skip 1
      skipNumber
    else if isDigit b then skipNumber
    else if b = 110 then
      skip 1
      restOfWord (ascii "ull")
    else if b = 116 then
      skip 1
      restOfWord (ascii "rue")
    else if b = 102 then
      skip 1
      restOfWord (ascii "alse")
    else failAhead .noValue
    return completed brackets

/-- One step of passing over a value. -/
def skipStep : Pending → Reader (Pending ⊕ Unit)
  | .value brackets => skipStart brackets
  | .opened bracket outer => do
    match ← peekToken with
    | none => failAhead bracket.endInside
    | some b =>
      if b = bracket.closing then
        skip 1
        return completed outer
      else
        if bracket = .object then skipKey
        skipStart (bracket :: outer)
  | .after bracket outer => do
    match ← peekToken with
    | none => failAhead bracket.endInside
    | some b =>
      if b = 44 then
        skip 1
        if bracket = .object then skipKey
        return .inl (.value (bracket :: outer))
      else if b = bracket.closing then
        skip 1
        return completed outer
      else failAhead bracket.noComma

/-- Passes over a value of any shape. -/
def skipValue : Reader Unit :=
  iterate skipStep (.value [])

/-! ### Values of a given shape -/

/-- Complains that the next value is not of the expected type. It is read as far as its description
needs, so its own faults come first. -/
def wrongType {α : Type} (expected : String) : Reader α := do
  let describe : Reader String := do
    match ← peek with
    | none => failAhead .noValue
    | some b =>
      if b = 91 then return "sequence"
      else if b = 123 then return "map"
      else if b = 34 then
        skip 1
        return "string " ++ Text.quoted (← restOfString)
      else if b = 45 then
        skip 1
        return (← number true).describe
      else if isDigit b then return (← number false).describe
      else if b = 110 then
        skip 1
        restOfWord (ascii "ull")
        return "null"
      else if b = 116 then
        skip 1
        restOfWord (ascii "rue")
        return "boolean `true`"
      else if b = 102 then
        skip 1
        restOfWord (ascii "alse")
        return "boolean `false`"
      else failAhead .noValue
  fail (.wrongType (← describe) expected)

/-- Reads a string; `expected` says what it is read for. -/
def text (expected : String) : Reader String := do
  match ← peekToken with
  | none => failAhead .endInValue
  | some b =>
    if b = 34 then
      skip 1
      restOfString
    else wrongType expected

/-- Reads `true` or `false`. -/
def truth : Reader Bool := do
  match ← peekToken with
  | none => failAhead .endInValue
  | some b =>
    if b = 116 then
      skip 1
      restOfWord (ascii "rue")
      return true
    else if b = 102 then
      skip 1
      restOfWord (ascii "alse")
      return false
    else wrongType "a boolean"

/-- Reads a value or `null`. -/
def optional {α : Type} (value : Reader α) : Reader (Option α) := do
  match ← peekToken with
  | some 110 =>
    skip 1
    restOfWord (ascii "ull")
    return none
  | _ => return some (← value)

/-- Reads a date. -/
def date : Reader Date := do
  match Date.ofText (← text "a formatted date string") with
  | .ok date => return date
  | .error fault => fail (.badDate fault)

/-- Moves to the next element of a list and says whether there is one. -/
def nextElement (first : Bool) : Reader Bool := do
  match ← peekToken with
  | none => failAhead .endInList
  | some b =>
    if b = 93 then return false
    else if first then return true
    else if b = 44 then
      skip 1
      match ← peekToken with
      | none => failAhead .endInValue
      | some 93 => failAhead .trailingComma
      | some _ => return true
    else failAhead .noListComma

/-- Reads the end of a list. -/
def endList : Reader Unit := do
  match ← peekToken with
  | none => failAhead .endInList
  | some b =>
    if b = 93 then skip 1
    else if b = 44 then
      skip 1
      if (← peekToken) = some 93 then failAhead .trailingComma else failAhead .trailingCharacters
    else failAhead .trailingCharacters

/-- Reads a list of values. -/
def list {α : Type} (element : Reader α) : Reader (List α) := do
  match ← peekToken with
  | none => failAhead .endInValue
  | some b =>
    if b ≠ 91 then wrongType "a sequence"
    skip 1
    let elements ← iterate (fun (read : List α) => do
      if ← nextElement read.isEmpty then return .inl ((← element) :: read)
      else return .inr read.reverse) []
    endList
    return elements

/-- A field of a record. -/
structure Field (σ : Type) where
  /-- The key of the field. -/
  name : String
  /-- Reads the value of the field into the record. -/
  read : Reader (σ → σ)
  /-- Whether an object may leave the field out. -/
  optionalInObject : Bool := true
  /-- Whether a list may end before the field. -/
  optionalInList : Bool := true

/-- The shape of a record, which is written as an object, or as a list of its fields in order. -/
structure Shape (σ : Type) where
  /-- The name of the shape in complaints. -/
  title : String
  /-- The record with its fields left out. -/
  initial : σ
  /-- The fields in order. -/
  fields : List (Field σ)

/-- What a shape is called in complaints about its length. -/
def Shape.lengthText {σ : Type} (shape : Shape σ) : String :=
  let count := shape.fields.length
  "struct " ++ shape.title ++ " with " ++ toString count
    ++ (if count = 1 then " element" else " elements")

/-- Reads the fields of a record written as a list, from the field number `index` on. -/
def listedFields {σ : Type} (shape : Shape σ) (index : Nat) (record : σ) :
    List (Field σ) → Reader σ
  | [] => return record
  | field :: rest => do
    if ← nextElement (index == 0) then listedFields shape (index + 1) ((← field.read) record) rest
    else if field.optionalInList then listedFields shape (index + 1) record rest
    else
      skip 1
      fail (.wrongLength index shape.lengthText)

/-- Moves to the next key of an object and says whether there is one. -/
def nextKey (first : Bool) : Reader Bool := do
  match ← peekToken with
  | none => failAhead .endInObject
  | some b =>
    if b = 125 then return false
    else if first then
      if b = 34 then return true else failAhead .keyNotString
    else if b = 44 then
      skip 1
      match ← peekToken with
      | none => failAhead .endInValue
      | some 34 => return true
      | some 125 => failAhead .trailingComma
      | some _ => failAhead .keyNotString
    else failAhead .noObjectComma

/-- Reads the value of the key just read into a record. Unknown keys are passed over, a repeated one
is a fault, which is noticed before the next thing that is no blank or closes the object. -/
def fieldValue {σ : Type} (shape : Shape σ) (seen : List String) (record : σ) (key : String) :
    Reader (List String × σ) := do
  match shape.fields.find? (·.name == key) with
  | none =>
    colon
    skipValue
    return (seen, record)
  | some field =>
    if seen.contains key then
      if (← peekToken) = some 125 then skip 1
      fail (.duplicateField key)
    colon
    return (key :: seen, (← field.read) record)

/-- Reads the entries of a record written as an object. -/
def objectFields {σ : Type} (shape : Shape σ) : Reader σ := do
  let (seen, record) ← iterate (fun (first, seen, record) => do
    if ← nextKey first then
      skip 1
      let key ← restOfString
      let (seen, record) ← fieldValue shape seen record key
      return .inl (false, seen, record)
    else
      skip 1
      return .inr (seen, record)) (true, [], shape.initial)
  match shape.fields.find? fun field => !field.optionalInObject && !seen.contains field.name with
  | some field => fail (.missingField field.name)
  | none => return record

/-- Reads a record. -/
def record {σ : Type} (shape : Shape σ) : Reader σ := do
  match ← peekToken with
  | none => failAhead .endInValue
  | some b =>
    if b = 91 then
      skip 1
      let record ← listedFields shape 0 shape.initial shape.fields
      endList
      return record
    else if b = 123 then
      skip 1
      objectFields shape
    else wrongType ("struct " ++ shape.title)

end Reader

/-- Reads a text that holds one value and nothing else. -/
def read {α : Type} (value : Reader α) (text : List UInt8) : Except Fault α :=
  let whole : Reader α := do
    let result ← value
    if (← Reader.peekToken).isSome then Reader.failAhead .trailingCharacters
    return result
  (whole.run { rest := text }).map Prod.fst

end CallMap.Json
