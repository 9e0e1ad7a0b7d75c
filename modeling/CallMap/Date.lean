import CallMap.Text.Blank

/-!
# Calendar dates

Dates of the proleptic Gregorian calendar, written year, month and day with hyphens between them. A
date is read from left to right, and the first thing that does not fit is what the reader complains
about. Each number may have white space before it; an informal date may also have it before each
hyphen and at the end.
-/

namespace CallMap

/-- A calendar date. -/
structure Date where
  /-- The year; zero and negative years come before year 1. -/
  year : Int
  /-- The month, from 1 to 12. -/
  month : Nat
  /-- The day of the month, from 1. -/
  day : Nat
  deriving DecidableEq, Repr

namespace Date

/-- Why a text is no date. -/
inductive Fault
  /-- The text ends where something is still required. -/
  | incomplete
  /-- A character is not what is required at its place. -/
  | unexpectedCharacter
  /-- A number is too large or small, or there is no such day. -/
  | outOfRange
  /-- Something follows the date. -/
  | trailing
  deriving DecidableEq, Repr

/-- The wording of a complaint about a date. -/
def Fault.message : Fault → String
  | incomplete => "premature end of input"
  | unexpectedCharacter => "input contains invalid characters"
  | outOfRange => "input is out of range"
  | trailing => "trailing input"

/-- Whether the first date is the second or a later one. -/
def onOrAfter (date since : Date) : Bool :=
  date.year > since.year || date.year == since.year
    && (date.month > since.month || date.month == since.month && date.day ≥ since.day)

/-- Whether a year has a 29th of February. -/
def isLeap (year : Int) : Bool :=
  year % 4 == 0 && (year % 100 != 0 || year % 400 == 0)

/-- The number of days of a month. -/
def daysIn (year : Int) (month : Nat) : Nat :=
  if month = 2 then if isLeap year then 29 else 28
  else if month = 4 ∨ month = 6 ∨ month = 9 ∨ month = 11 then 30
  else 31

/-- Years for which there are dates. -/
def inCalendar (year : Int) : Bool :=
  -262143 ≤ year && year ≤ 262142

/-- The value of a string of decimal digits. -/
def digitsValue (digits : List Char) : Nat :=
  digits.foldl (fun value digit => value * 10 + (digit.toNat - '0'.toNat)) 0

/-- Reads a number of at least one digit, and of at most `width` digits if there is a limit. No
number reaches 2^63. -/
def readNumber (width : Option Nat) (text : List Char) : Except Fault (Nat × List Char) :=
  let digits := (text.take (width.getD text.length)).takeWhile Char.isDigit
  if text.isEmpty then .error .incomplete
  else if digits.isEmpty then .error .unexpectedCharacter
  else if digitsValue digits < Nat.pow 2 63 then .ok (digitsValue digits, text.drop digits.length)
  else .error .outOfRange

/-- Reads a year: at most four digits, or a sign and any number of digits. -/
def readYear (text : List Char) : Except Fault (Int × List Char) := do
  let (year, rest) ← match Text.trimStart text with
    | '-' :: digits => (readNumber none digits).map fun (n, rest) => (-(n : Int), rest)
    | '+' :: digits => (readNumber none digits).map fun (n, rest) => ((n : Int), rest)
    | digits => (readNumber (some 4) digits).map fun (n, rest) => ((n : Int), rest)
  if -0x80000000 ≤ year ∧ year < 0x80000000 then .ok (year, rest) else .error .outOfRange

/-- Reads a month or day: one or two digits that make a number from 1 to `limit`. -/
def readPart (limit : Nat) (text : List Char) : Except Fault (Nat × List Char) := do
  let (value, rest) ← readNumber (some 2) (Text.trimStart text)
  if 1 ≤ value ∧ value ≤ limit then .ok (value, rest) else .error .outOfRange

/-- Reads the hyphen between two numbers. -/
def readHyphen : List Char → Except Fault (List Char)
  | [] => .error .incomplete
  | c :: rest => if c = '-' then .ok rest else .error .unexpectedCharacter

/-- Reads a date, with `gap` removing what may stand before a hyphen and at the end. -/
def readWith (gap : List Char → List Char) (text : List Char) : Except Fault Date := do
  let (year, rest) ← readYear text
  let rest ← readHyphen (gap rest)
  let (month, rest) ← readPart 12 rest
  let rest ← readHyphen (gap rest)
  let (day, rest) ← readPart 31 rest
  if !(gap rest).isEmpty then .error .trailing
  else if inCalendar year && day ≤ daysIn year month then .ok ⟨year, month, day⟩
  else .error .outOfRange

/-- Reads a date of a record, where numbers and hyphens adjoin. -/
def ofField (text : String) : Except Fault Date :=
  readWith id text.toList

/-- Reads a date that a person wrote, with white space before hyphens and at the end. -/
def ofText (text : String) : Except Fault Date :=
  readWith Text.trimStart text.toList

/-- A number with zeros in front of it up to a width. -/
def padded (width n : Nat) : String :=
  let digits := Nat.toDigits 10 n
  String.ofList (List.replicate (width - digits.length) '0' ++ digits)

/-- The written form of a date. Years of more than four digits and years before 0 have a sign. -/
def render (date : Date) : String :=
  let sign := if date.year < 0 then "-" else if date.year > 9999 then "+" else ""
  sign ++ padded 4 date.year.natAbs ++ "-" ++ padded 2 date.month ++ "-" ++ padded 2 date.day

end Date

end CallMap
