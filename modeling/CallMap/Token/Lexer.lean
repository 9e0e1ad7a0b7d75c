import CallMap.Token

/-!
# Cutting a text into tokens

At each place the longest token wins, and of a keyword and an identifier of the same length the
keyword. Keywords may be written in any case; the long s and the Kelvin sign count as the letters
they are the same as when case is disregarded. What no token starts with is illegal, and
neighbouring illegal stretches are one token.

* `Lexer.scan_eq_drop`: what is left of a token is passed over.
* `Lexer.tokenize` is the tokenizer of embedded texts.
-/

namespace CallMap.Lexer

/-- The keywords, longest first. -/
def keywords : List TokenKind := [
  .action .optimiseAllDatabasesIndexes, .action .optimiseDatabaseIndexes,
  .action .optimiseDatabaseHelper, .action .optimiseTableIndexes, .action .optimiseAllDatabases,
  .action .convertAllDatabases, .action .optimiseDatabase, .action .reportPreview,
  .action .emptyDatabase, .action .optimiseTable, .action .methodSetup, .action .methodSwap,
  .action .formSwap, .execute, .action .process, .action .command, .action .exportData,
  .action .system, .action .report, .action .importData, .method, .action .query, .action .shell,
  .action .task, .action .form]

/-- The word of a keyword in small letters. -/
def spelling (keyword : TokenKind) : List Char :=
  keyword.title.toList.map Char.toLower

/-- A character with its case disregarded, as far as keywords go. -/
def fold (c : Char) : Char :=
  if c.toNat = 0x17F then 's' else if c.toNat = 0x212A then 'k' else c.toLower

/-- Whether a text starts with a word, with case disregarded. -/
def startsWith : List Char → List Char → Bool
  | [], _ => true
  | _ :: _, [] => false
  | letter :: word, c :: text => fold c == letter && startsWith word text

/-- The longest keyword at the start of a text. -/
def keyword? (text : List Char) : Option TokenKind :=
  keywords.find? fun keyword => startsWith (spelling keyword) text

/-- Letters and the underscore. -/
def isWordStart (c : Char) : Bool :=
  c.isAlpha || c == '_'

/-- Characters of an identifier after its first. -/
def isWordPart (c : Char) : Bool :=
  c.isAlphanum || c == '_'

/-- Blanks that do not end a line. -/
def isSpace (c : Char) : Bool :=
  c == ' ' || c == '\t' || c == '\x0c'

/-- Characters that may stand between quotes. -/
def isQuotable (c : Char) : Bool :=
  c != '"' && c != '\r' && c != '\n'

/-- A quoted text, or an illegal rest of the line if it is not closed. -/
def leadQuote (rest : List Char) : TokenKind × Nat :=
  let inside := rest.takeWhile isQuotable
  if (rest.drop inside.length).head? = some '"' then (.quoted, inside.length + 1)
  else (.illegal, inside.length)

/-- A number: digits, and digits after a point if there are any. -/
def leadNumber (rest : List Char) : TokenKind × Nat :=
  let whole := (rest.takeWhile Char.isDigit).length
  match rest.drop whole with
  | '.' :: places =>
    let count := (places.takeWhile Char.isDigit).length
    if count = 0 then (.number, whole) else (.number, whole + 1 + count)
  | _ => (.number, whole)

/-- A keyword, an identifier or a single mark, whichever is longest. -/
def leadWord (c : Char) (rest : List Char) : TokenKind × Nat :=
  let letters := if isWordStart c then (rest.takeWhile isWordPart).length + 1 else 0
  match keyword? (c :: rest) with
  | some keyword =>
    if letters ≤ (spelling keyword).length then (keyword, (spelling keyword).length - 1)
    else (.identifier, letters - 1)
  | none => if letters = 0 then (.mark, 0) else (.identifier, letters - 1)

/-- The token at the start of a text: its kind and the number of its characters after the first. -/
def lead (c : Char) (rest : List Char) : TokenKind × Nat :=
  if c = '"' then leadQuote rest
  else if c = '\n' then (.newLine, 0)
  else if c = '\r' then if rest.head? = some '\n' then (.newLine, 1) else (.illegal, 0)
  else if isSpace c then (.blank, (rest.takeWhile isSpace).length)
  else if c.isDigit then leadNumber rest
  else leadWord c rest

/-- The pieces of a text whose first `left` characters belong to a piece that is already cut. -/
def scan : Nat → List Char → List Token
  | _, [] => []
  | left + 1, _ :: rest => scan left rest
  | 0, c :: rest =>
    let (kind, count) := lead c rest
    ⟨kind, String.ofList (c :: rest.take count)⟩ :: scan count rest

/-- Where the loop over the pieces of a text has come to. -/
structure Loop where
  /-- The tokens so far. -/
  tokens : Array Token := #[]
  /-- The number of characters before the next piece. -/
  position : Nat := 0
  /-- Where the illegal pieces right before it start, if there are any. -/
  illegalFrom : Option Nat := none

namespace Loop

/-- Makes one token of the illegal pieces up to a position. -/
def flush (text : List Char) (stop : Nat) (loop : Loop) : Loop :=
  match loop.illegalFrom with
  | some start =>
    { loop with
      tokens := loop.tokens.push ⟨.illegal, String.ofList (text.extract start stop)⟩
      illegalFrom := none }
  | none => loop

/-- Goes on by a piece. -/
def take (text : List Char) (loop : Loop) (piece : Token) : Loop :=
  let next := loop.position + piece.text.length
  if piece.kind = .illegal then
    { loop with position := next, illegalFrom := loop.illegalFrom <|> some loop.position }
  else
    let flushed := loop.flush text loop.position
    { flushed with tokens := flushed.tokens.push piece, position := next }

end Loop

/-- The tokens of a text. Illegal pieces that follow each other make up one token, and the last
token stands for the end of the text. -/
def tokenize : Tokenizer := fun text =>
  let characters := text.toList
  let loop := (scan 0 characters).foldl (Loop.take characters) {}
  ((loop.flush characters characters.length).tokens.push ⟨.endOfText, ""⟩).toList

/-- What is left of a token is passed over. -/
theorem scan_eq_drop (left : Nat) (text : List Char) :
    scan left text = scan 0 (text.drop left) := by
  induction text generalizing left with
  | nil => cases left <;> simp [scan]
  | cons c rest ih =>
    cases left with
    | zero => rfl
    | succ left => simpa [scan] using ih left

end CallMap.Lexer
