import CallMap.Text.CaseTable

/-!
# Small and capital letters

Names are compared without regard to case, so they are stored in small letters. Every character is
replaced by its small form on its own, with one exception: a capital sigma becomes the final form
when a letter comes before it and none after it in the same word.
-/

namespace CallMap.Text

/-- The small form of a character that stands on its own. -/
def smallForm (c : Char) : List Char :=
  if c.toNat < 0x80 then [c.toLower]
  else if c.toNat = 0x130 then ['i', Char.ofNat 0x307]
  else match CaseRun.target? smallForms c.toNat with
    | some n => [Char.ofNat n]
    | none => [c]

/-- The capital form of a character. -/
def capitalForm (c : Char) : List Char :=
  if c.toNat < 0x80 then [c.toUpper]
  else match CaseRun.target? capitalForms c.toNat with
    | some n => [Char.ofNat n]
    | none => match longCapitalForms.lookup c.toNat with
      | some codes => codes.map Char.ofNat
      | none => [c]

/-- Whether a letter follows in the same word, once marks and apostrophes are skipped. -/
def letterFollows (text : List Char) : Bool :=
  match text.dropWhile fun c => inRanges caseIgnorableRanges c.toNat with
  | [] => false
  | c :: _ => inRanges casedRanges c.toNat

/-- The capital sigma, the one letter whose small form depends on its place. -/
def capitalSigma : Char := Char.ofNat 0x3A3

/-- The small form of a capital sigma between the reversed text before it and the text after it. -/
def smallSigma (before after : List Char) : Char :=
  if letterFollows before && !letterFollows after then Char.ofNat 0x3C2 else Char.ofNat 0x3C3

/-- Small forms of a text that comes after the reversed text `before`. -/
def lowerAfter (before : List Char) : List Char → List Char
  | [] => []
  | c :: rest =>
    (if c = capitalSigma then [smallSigma before rest] else smallForm c)
      ++ lowerAfter (c :: before) rest

/-- A text in small letters. -/
def lower (text : String) : String :=
  String.ofList (lowerAfter [] text.toList)

/-- A word with its first character in capital form. -/
def capitalise : List Char → List Char
  | [] => []
  | c :: rest => capitalForm c ++ rest

end CallMap.Text
