import CallMap.Proofs.Windows1252
import CallMap.Record.Reader

/-!
# Writing records

A writer of the record format, as the other side of `Reader.items`. Lines may end in a line feed
alone or in a carriage return and a line feed, each as one likes; an embedded text may hold any
bytes.

* `Writer.Piece.shows_iff`: what should be read, by the bytes that its texts are written as.
* `Writer.items_write`: reading gives back what was written, whatever the line ends.
-/

namespace CallMap.Writer

open Text (Windows1252.byte? Windows1252.decode Windows1252.decode_eq_iff Windows1252.decodeByte)

/-- How a line ends. -/
inductive LineEnd
  /-- With a line feed. -/
  | feed
  /-- With a carriage return and a line feed. -/
  | returnFeed
  deriving DecidableEq, Repr

/-- The bytes before the line feed that ends a line. -/
def LineEnd.before : LineEnd → List UInt8
  | feed => []
  | returnFeed => [13]

/-- The bytes at the end of a line. -/
def LineEnd.bytes (lineEnd : LineEnd) : List UInt8 :=
  lineEnd.before ++ [10]

/-- The byte of a decimal digit. -/
def digitByte (digit : Fin 10) : UInt8 :=
  48 + digit.val.toUInt8

/-- The width of a record. -/
inductive Width
  /-- Two digits. -/
  | two (first second : Fin 10)
  /-- Three digits. -/
  | three (first second third : Fin 10)
  deriving DecidableEq, Repr

/-- The bytes of a width, with the comma after it. -/
def Width.bytes : Width → List UInt8
  | two first second => [digitByte first, digitByte second, 44]
  | three first second third => [digitByte first, digitByte second, digitByte third, 44]

/-- A record of one line, as it is to be written. -/
structure Line where
  /-- The tag, which need not be a known one. -/
  tag : List UInt8
  /-- The width. -/
  width : Width
  /-- What comes after the width. -/
  payload : List UInt8
  /-- A tag has four bytes. -/
  tag_length : tag.length = 4
  /-- A tag does not end the line. -/
  tag_oneLine : 10 ∉ tag
  /-- Texts are written as blocks. -/
  tag_ne_text : tag ≠ Tag.bytes "TXT,"
  /-- A payload does not end the line. -/
  payload_oneLine : 10 ∉ payload
  /-- A return at the end of the payload would belong to the end of the line. -/
  payload_noReturn : payload.getLast? ≠ some 13

/-- The line without its end. -/
def Line.bytes (line : Line) : List UInt8 :=
  line.tag ++ line.width.bytes ++ line.payload

/-- The record that should be read from a line: the width is gone, and only the width. -/
def Line.record (line : Line) : Record :=
  { tag := .ofBytes line.tag
    rawTag := Windows1252.decode line.tag
    payload := Windows1252.decode line.payload }

/-- Whether a byte stands for white space inside a line. -/
def IsBlankByte (b : UInt8) : Prop :=
  b ≠ 10 ∧ Text.isBlank (Windows1252.decodeByte b) = true

/-- An embedded text with its header and its closing record, as it is to be written. -/
structure Block where
  /-- The width of the header. -/
  width : Width
  /-- White space before the length of the text. -/
  before : List UInt8
  /-- White space after it. -/
  after : List UInt8
  /-- The text. -/
  body : List UInt8
  /-- What stands after the tag of the closing record. -/
  closing : List UInt8
  /-- Only white space comes before the length. -/
  before_blank : ∀ b ∈ before, IsBlankByte b
  /-- Only white space comes after the length. -/
  after_blank : ∀ b ∈ after, IsBlankByte b
  /-- The text fits into memory, as every byte string does. -/
  body_fits : body.length < Reader.addressLimit
  /-- The closing record is one line. -/
  closing_oneLine : 10 ∉ closing

/-- The decimal digits of a number. -/
def decimal (n : Nat) : List UInt8 :=
  (Nat.toDigits 10 n).map fun digit => digit.toNat.toUInt8

/-- What comes after the width in the header of a text. -/
def Block.count (block : Block) : List UInt8 :=
  block.before ++ decimal block.body.length ++ block.after ++ [44]

/-- The header of a text, without its line end. -/
def Block.header (block : Block) : List UInt8 :=
  Tag.bytes "TXT," ++ block.width.bytes ++ block.count

/-- The record that should be read from the header of a text. -/
def Block.record (block : Block) : Record :=
  { tag := .text, rawTag := "TXT,", payload := Windows1252.decode block.count }

/-- The closing record of a text, without its line end. -/
def Block.footer (block : Block) : List UInt8 :=
  Tag.bytes "XTX," ++ block.closing

/-- One record to be written, with the text it announces. -/
inductive Piece
  /-- A record of one line. -/
  | line (line : Line)
  /-- An embedded text. -/
  | block (block : Block)

/-- The ends of the lines of a record: of its first line, and of the closing record of a text. -/
abbrev LineEnds := LineEnd × LineEnd

/-- The bytes of a record. -/
def Piece.bytes (ends : LineEnds) : Piece → List UInt8
  | .line plain => plain.bytes ++ ends.1.bytes
  | .block text => text.header ++ ends.1.bytes ++ text.body ++ text.footer ++ ends.2.bytes

/-- What should be read where a record was written. -/
def Piece.item : Piece → Item
  | .line plain => .plain plain.record
  | .block text => .text text.record (Windows1252.decode text.body)

/-- A text is written as bytes, character by character. -/
def Spells (text : String) (bytes : List UInt8) : Prop :=
  text.toList.map Windows1252.byte? = bytes.map some

/-- An item has the texts that are written as the bytes of a record. -/
inductive Piece.Shows : Piece → Item → Prop
  /-- A line shows its tag and its payload. -/
  | line {plain : Line} {rawTag payload : String} (htag : Spells rawTag plain.tag)
      (hpayload : Spells payload plain.payload) :
      Shows (.line plain) (.plain { tag := .ofBytes plain.tag, rawTag, payload })
  /-- A block shows its header and its text. -/
  | block {text : Block} {payload body : String} (hpayload : Spells payload text.count)
      (hbody : Spells body text.body) :
      Shows (.block text) (.text { tag := .text, rawTag := "TXT,", payload } body)

/-- What should be read can be told from how texts are written, without reading any. -/
theorem Piece.shows_iff {piece : Piece} {item : Item} : piece.Shows item ↔ item = piece.item := by
  constructor
  · rintro (⟨htag, hpayload⟩ | ⟨hpayload, hbody⟩)
    · rw [Piece.item, Line.record, Windows1252.decode_eq_iff.mpr htag,
        Windows1252.decode_eq_iff.mpr hpayload]
    · rw [Piece.item, Block.record, Windows1252.decode_eq_iff.mpr hpayload,
        Windows1252.decode_eq_iff.mpr hbody]
  · rintro rfl
    cases piece with
    | line plain =>
      exact .line (Windows1252.decode_eq_iff.mp rfl) (Windows1252.decode_eq_iff.mp rfl)
    | block text =>
      exact .block (Windows1252.decode_eq_iff.mp rfl) (Windows1252.decode_eq_iff.mp rfl)

/-- Records written one after the other, the `i`-th with the line ends `ends i`. -/
def write (ends : Nat → LineEnds) (pieces : List Piece) : List UInt8 :=
  (pieces.mapIdx fun place piece => piece.bytes (ends place)).flatten

/-! ### Lines -/

section Lines

variable {line : List UInt8} {rest : List UInt8}

theorem ne_feed_of_mem (h : 10 ∉ line) (lineEnd : LineEnd) :
    ∀ b ∈ line ++ lineEnd.before, (b != 10) = true := by
  have hbefore : 10 ∉ lineEnd.before := by
    cases lineEnd <;> decide
  intro b hb
  rw [bne_iff_ne]
  rintro rfl
  exact (List.mem_append.mp hb).elim h hbefore

/-- The first line of a file is read without its line feed. -/
theorem firstLine_append (h : 10 ∉ line) (lineEnd : LineEnd) :
    Reader.firstLine (line ++ lineEnd.bytes ++ rest) = line ++ lineEnd.before := by
  rw [Reader.firstLine, LineEnd.bytes, ← List.append_assoc, List.append_assoc _ [10],
    List.takeWhile_append_of_pos (ne_feed_of_mem h lineEnd)]
  simp

/-- After the first line comes the rest. -/
theorem afterLine_append (h : 10 ∉ line) (lineEnd : LineEnd) :
    Reader.afterLine (line ++ lineEnd.bytes ++ rest) = rest := by
  rw [Reader.afterLine, LineEnd.bytes, ← List.append_assoc, List.append_assoc _ [10],
    List.dropWhile_append_of_pos (ne_feed_of_mem h lineEnd)]
  simp

/-- A carriage return at the end of a line belongs to the line end. -/
theorem dropReturn_append (h : line.getLast? ≠ some 13) (lineEnd : LineEnd) :
    Reader.dropReturn (line ++ lineEnd.before) = line := by
  cases lineEnd with
  | feed => simp [LineEnd.before, Reader.dropReturn, h]
  | returnFeed => simp [LineEnd.before, Reader.dropReturn]

/-- The next record of a file is that of its first line, however that line ends. -/
theorem next?_append (hline : 10 ∉ line) (hreturn : line.getLast? ≠ some 13) (file : String)
    (lineEnd : LineEnd) (rest : List UInt8) :
    (Reader.mk file (line ++ lineEnd.bytes ++ rest)).next? =
      some (Record.ofLine line, ⟨file, rest⟩) := by
  have hne : (line ++ lineEnd.bytes ++ rest).isEmpty = false := by simp [LineEnd.bytes]
  simp only [Reader.next?, hne, Bool.false_eq_true, if_false, Reader.skipLine,
    firstLine_append hline, afterLine_append hline, dropReturn_append hreturn]

end Lines

/-! ### Widths -/

theorem isDigit_decode_digitByte :
    ∀ digit, Record.isDigit (Windows1252.decodeByte (digitByte digit)) = true := by
  decide

/-- A digit is no comma. -/
theorem decode_digitByte_ne_comma : ∀ digit, Windows1252.decodeByte (digitByte digit) ≠ ',' := by
  decide

/-- The width before a name is dropped. -/
theorem dropWidth_append (width : Width) (rest : List Char) :
    Record.dropWidth (width.bytes.map Windows1252.decodeByte ++ rest) = rest := by
  have hcomma : Windows1252.decodeByte 44 = ',' := by decide
  cases width with
  | two first second =>
    simp [Width.bytes, hcomma, Record.dropWidth, isDigit_decode_digitByte]
  | three first second third =>
    -- The third character is a digit and no comma, so this is not a width of two digits.
    simp [Width.bytes, hcomma, Record.dropWidth, isDigit_decode_digitByte,
      decode_digitByte_ne_comma]

/-- A width stays on its line. -/
theorem notMem_width (width : Width) : 10 ∉ width.bytes := by
  have hdigit : ∀ digit, 10 ≠ digitByte digit := by decide
  cases width <;> simp [Width.bytes, hdigit]

theorem getLast?_width (width : Width) : width.bytes.getLast? = some 44 := by
  cases width <;> rfl

/-- A line is read as its tag and its payload; the width is gone, and only the width. -/
theorem ofLine_append {tag : List UInt8} (htag : tag.length = 4) (width : Width)
    (payload : List UInt8) :
    Record.ofLine (tag ++ width.bytes ++ payload) =
      { tag := .ofBytes tag, rawTag := Windows1252.decode tag,
        payload := Windows1252.decode payload } := by
  have hlong : ¬(tag ++ width.bytes ++ payload).length < 4 := by
    simp
    omega
  rw [Record.ofLine, if_neg hlong, List.append_assoc, List.take_left' htag, List.drop_left' htag,
    List.map_append, dropWidth_append, Windows1252.decode, Windows1252.decode]

/-- Only one tag announces a text. -/
theorem ofBytes_ne_text {tag : List UInt8} (h : tag ≠ Tag.bytes "TXT,") :
    Tag.ofBytes tag ≠ .text := by
  -- `TXT,` is the only spelling in the table of known tags that stands for a text.
  have honly : ∀ entry ∈ Tag.known, entry.2 = .text → entry.1 = "TXT," := by decide
  intro htext
  rw [Tag.ofBytes] at htext
  cases hfound : Tag.known.find? fun entry => Tag.bytes entry.1 == tag with
  | none => simp [hfound] at htext
  | some entry =>
    have hspelling : Tag.bytes entry.1 = tag := by simpa using List.find?_some hfound
    have htag : entry.2 = .text := by simpa [hfound] using htext
    rw [honly entry (List.mem_of_find?_eq_some hfound) htag] at hspelling
    exact h hspelling.symm

/-! ### Records of one line -/

/-- A line has no line feed. -/
theorem notMem_line (line : Line) : 10 ∉ line.bytes := by
  simp [Line.bytes, line.tag_oneLine, notMem_width, line.payload_oneLine]

/-- A line does not end in a carriage return. -/
theorem getLast?_line (line : Line) : line.bytes.getLast? ≠ some 13 := by
  rw [Line.bytes, List.getLast?_append, List.getLast?_append, getLast?_width]
  cases hlast : line.payload.getLast? with
  | none => simp
  | some b => simpa [hlast] using line.payload_noReturn

/-- A line is read as its record. -/
theorem ofLine_line (line : Line) : Record.ofLine line.bytes = line.record := by
  rw [Line.bytes, ofLine_append line.tag_length, Line.record]

/-! ### Texts -/

/-- The byte of a digit is read as the digit. -/
theorem decode_digit {digit : Char} (h : digit.isDigit = true) :
    Windows1252.decodeByte digit.toNat.toUInt8 = digit := by
  obtain ⟨hlow, hhigh⟩ : 48 ≤ digit.toNat ∧ digit.toNat ≤ 57 := by
    simpa [Char.isDigit, UInt32.le_iff_toNat_le] using h
  have hsmall : digit.toNat.toUInt8.toNat = digit.toNat := by
    simp
    omega
  have hplain : ¬(0x80 ≤ digit.toNat.toUInt8 && digit.toNat.toUInt8 < 0xA0) = true := by
    simp [UInt8.le_iff_toNat_le, hsmall]
    omega
  rw [Windows1252.decodeByte, if_neg hplain, hsmall, Char.ofNat_toNat]

theorem isDigit_of_mem_toDigits {n : Nat} {digit : Char} (h : digit ∈ Nat.toDigits 10 n) :
    digit.isDigit = true :=
  Nat.isDigit_of_mem_toDigits (by decide) (by decide) h

/-- A number is read as its digits. -/
theorem map_decode_decimal (n : Nat) :
    (decimal n).map Windows1252.decodeByte = Nat.toDigits 10 n := by
  rw [decimal, List.map_map]
  refine (List.map_congr_left fun digit hdigit => ?_).trans (List.map_id _)
  exact decode_digit (isDigit_of_mem_toDigits hdigit)

/-- Digits are not blank. -/
theorem isBlank_eq_false_of_isDigit {c : Char} (h : c.isDigit = true) : Text.isBlank c = false := by
  have hrange : 48 ≤ c.toNat ∧ c.toNat ≤ 57 := by
    simpa [Char.isDigit, UInt32.le_iff_toNat_le] using h
  simp [Text.isBlank]
  omega

/-- Blanks before a text are cut off. -/
theorem trimStart_append {blanks text : List Char} (hblanks : ∀ c ∈ blanks, Text.isBlank c = true)
    (htext : ∀ c ∈ text.head?, Text.isBlank c = false) :
    Text.trimStart (blanks ++ text) = text := by
  rw [Text.trimStart, List.dropWhile_append_of_pos hblanks]
  cases text with
  | nil => rfl
  | cons c rest => simp [htext c rfl]

/-- Trimming leaves the digits of a number that stands between blanks. -/
theorem trim_append {before digits after : List Char}
    (hbefore : ∀ c ∈ before, Text.isBlank c = true) (hafter : ∀ c ∈ after, Text.isBlank c = true)
    (hdigits : ∀ c ∈ digits, c.isDigit = true) (hne : digits ≠ []) :
    Text.trim (String.ofList (before ++ digits ++ after)) = String.ofList digits := by
  -- Cutting stops at the first digit from the left, and at the last one from the right.
  have hhead : ∀ c ∈ (digits ++ after).head?, Text.isBlank c = false := by
    intro c hc
    rw [List.head?_append, List.head?_eq_some_head hne, Option.some_or] at hc
    exact isBlank_eq_false_of_isDigit (hdigits c (Option.some.inj hc ▸ List.head_mem hne))
  have hlast : ∀ c ∈ digits.reverse.head?, Text.isBlank c = false := by
    intro c hc
    exact isBlank_eq_false_of_isDigit (hdigits c (List.mem_reverse.mp (List.mem_of_mem_head? hc)))
  have hrevert : ∀ c ∈ after.reverse, Text.isBlank c = true := by
    simpa using hafter
  rw [Text.trim, String.toList_ofList, List.append_assoc, trimStart_append hbefore hhead,
    List.reverse_append, trimStart_append hrevert hlast, List.reverse_reverse]

/-- A number that is not too large is read as a length. -/
theorem textLength?_toDigits {n : Nat} (h : n < Reader.lengthLimit) :
    Reader.textLength? (String.ofList (Nat.toDigits 10 n)) = some n := by
  have hall : (Nat.toDigits 10 n).all Record.isDigit = true := by
    rw [List.all_eq_true]
    intro c hc
    simpa [Char.isDigit, Record.isDigit, Char.le_def] using isDigit_of_mem_toDigits hc
  have hvalue :
      (Nat.toDigits 10 n).foldl (fun value digit => value * 10 + (digit.toNat - '0'.toNat)) 0 =
        n := by
    have hread := @Nat.ofDigitChars_ten_toDigits n
    rw [Nat.ofDigitChars_eq_foldl] at hread
    simpa only [Nat.mul_comm] using hread
  -- A plus sign would be cut off, but a number does not start with one.
  have hplus : ∀ digits, Nat.toDigits 10 n ≠ '+' :: digits := by
    intro digits hcons
    exact absurd (@isDigit_of_mem_toDigits n '+' (by simp [hcons])) (by decide)
  have hne : Nat.toDigits 10 n ≠ [] := Nat.toDigits_ne_nil
  rw [Reader.textLength?, String.toList_ofList]
  split
  next digits hcons => exact absurd hcons (hplus digits)
  next =>
    simp only [hvalue, hall, h]
    simp [hne]

theorem ne_comma_of_isBlank {c : Char} (h : Text.isBlank c = true) : c ≠ ',' := by
  rintro rfl
  revert h
  decide

theorem ne_comma_of_isDigit {c : Char} (h : c.isDigit = true) : c ≠ ',' := by
  rintro rfl
  revert h
  decide

/-- Blank bytes are read as blanks. -/
theorem isBlank_decode {bytes : List UInt8} (h : ∀ b ∈ bytes, IsBlankByte b) :
    ∀ c ∈ bytes.map Windows1252.decodeByte, Text.isBlank c = true := by
  intro c hc
  obtain ⟨b, hb, rfl⟩ := List.mem_map.mp hc
  exact (h b hb).2

/-- The header of a text is read as its record. -/
theorem ofLine_header (block : Block) : Record.ofLine block.header = block.record := by
  rw [Block.header, ofLine_append (by decide)]
  rfl

/-- The name of a header is the length of its text, with the blanks around it. -/
theorem name_record (block : Block) :
    block.record.name = String.ofList (block.before.map Windows1252.decodeByte ++
      Nat.toDigits 10 block.body.length ++ block.after.map Windows1252.decodeByte) := by
  have hcomma : Windows1252.decodeByte 44 = ',' := by decide
  -- The comma after the blanks is the first one of the payload.
  have hplain : ∀ c ∈ block.before.map Windows1252.decodeByte ++
      Nat.toDigits 10 block.body.length ++ block.after.map Windows1252.decodeByte,
      (c != ',') = true := by
    intro c hc
    rw [bne_iff_ne]
    rcases List.mem_append.mp hc with hc | hafter
    · rcases List.mem_append.mp hc with hbefore | hdigit
      · exact ne_comma_of_isBlank (isBlank_decode block.before_blank c hbefore)
      · exact ne_comma_of_isDigit (isDigit_of_mem_toDigits hdigit)
    · exact ne_comma_of_isBlank (isBlank_decode block.after_blank c hafter)
  rw [Record.name, Block.record, Windows1252.decode, String.toList_ofList, Block.count,
    List.map_append, List.map_append, List.map_append, map_decode_decimal, List.map_singleton,
    hcomma, List.takeWhile_append_of_pos hplain]
  simp

/-- The header of a text announces as many bytes as the body has. -/
theorem textLength?_record (block : Block) :
    Reader.textLength? (Text.trim block.record.name) = some block.body.length := by
  have hlimit : block.body.length < Reader.lengthLimit := by
    refine Nat.lt_of_lt_of_le block.body_fits ?_
    unfold Reader.addressLimit Reader.lengthLimit
    decide
  rw [name_record, trim_append (isBlank_decode block.before_blank)
    (isBlank_decode block.after_blank) (fun _ => isDigit_of_mem_toDigits) Nat.toDigits_ne_nil,
    textLength?_toDigits hlimit]

/-- The header of a text stays on its line. -/
theorem notMem_header (block : Block) : 10 ∉ block.header := by
  have htag : 10 ∉ Tag.bytes "TXT," := by decide
  have hbefore : 10 ∉ block.before := fun h => (block.before_blank 10 h).1 rfl
  have hafter : 10 ∉ block.after := fun h => (block.after_blank 10 h).1 rfl
  have hdecimal : 10 ∉ decimal block.body.length := by
    -- A line feed among the digits would be decoded to a digit.
    intro h
    have hdecoded := List.mem_map_of_mem (f := Windows1252.decodeByte) h
    rw [map_decode_decimal] at hdecoded
    exact absurd (isDigit_of_mem_toDigits hdecoded) (by decide)
  simp [Block.header, Block.count, htag, notMem_width, hbefore, hafter, hdecimal]

/-- The header of a text does not end in a carriage return. -/
theorem getLast?_header (block : Block) : block.header.getLast? ≠ some 13 := by
  simp [Block.header, Block.count, ← List.append_assoc]

/-- The line that closes a text has no line feed. -/
theorem notMem_footer (block : Block) : 10 ∉ block.footer := by
  have htag : 10 ∉ Tag.bytes "XTX," := by decide
  simp [Block.footer, htag, block.closing_oneLine]

/-- A text is read in full, whatever it holds, and the closing record after it is skipped. -/
theorem text_append (block : Block) (file : String) (lineEnd : LineEnd) (rest : List UInt8) :
    (Reader.mk file (block.body ++ (block.footer ++ lineEnd.bytes ++ rest))).text block.record =
      (.ok (Windows1252.decode block.body), ⟨file, rest⟩) := by
  have hclosed : (Tag.bytes "XTX,").isPrefixOf (block.footer ++ lineEnd.before) = true := by
    simp [Block.footer]
  unfold Reader.text
  simp only [textLength?_record, if_neg (Nat.not_le.mpr block.body_fits), List.take_left,
    List.drop_left, Nat.lt_irrefl, if_false, firstLine_append (notMem_footer block), hclosed,
    if_true, Reader.skipLine, afterLine_append (notMem_footer block)]

/-! ### Files -/

/-- Reading a written record gives it back, and leaves what comes after it. -/
theorem item?_append (piece : Piece) (file : String) (ends : LineEnds) (rest : List UInt8) :
    (Reader.mk file (piece.bytes ends ++ rest)).item? = some (.ok piece.item, ⟨file, rest⟩) := by
  cases piece with
  | line plain =>
    have htag : plain.record.tag ≠ .text := ofBytes_ne_text plain.tag_ne_text
    have hnext := next?_append (notMem_line plain) (getLast?_line plain) file ends.1 rest
    rw [Piece.bytes, Reader.item?, hnext, ofLine_line]
    simp only [Reader.complete, if_neg htag, Piece.item]
  | block text =>
    have htag : text.record.tag = .text := rfl
    have hnext := next?_append (notMem_header text) (getLast?_header text) file ends.1
      (text.body ++ (text.footer ++ ends.2.bytes ++ rest))
    -- The header is a line like any other; what follows it is cut by length and not by lines.
    have hsplit : (Piece.block text).bytes ends ++ rest =
        text.header ++ ends.1.bytes ++ (text.body ++ (text.footer ++ ends.2.bytes ++ rest)) := by
      simp [Piece.bytes]
    rw [hsplit, Reader.item?, hnext, ofLine_header]
    simp only [Reader.complete, if_pos htag, text_append, Piece.item, Except.map]

/-- Reading gives back what was written, whatever the texts hold and however the lines end. -/
theorem items_write (file : String) (ends : Nat → LineEnds) (pieces : List Piece) :
    Reader.items ⟨file, write ends pieces⟩ = (pieces.map Piece.item, none) := by
  -- Each record that is read off the front leaves a file that was written with the other line ends.
  induction pieces generalizing ends with
  | nil => exact Reader.items_of_item?_none rfl
  | cons piece rest ih =>
    have hwrite : write ends (piece :: rest) =
        piece.bytes (ends 0) ++ write (fun place => ends (place + 1)) rest := by
      simp [write, List.mapIdx_cons]
    rw [hwrite, Reader.items_of_item?_ok (item?_append piece file (ends 0) _), ih]
    rfl

end CallMap.Writer
