import CallMap.Record.Reader

/-!
# Where records stand in a file

The records of a file, told from its bytes without a reader. A record is a line, and a text takes
the bytes that its header announces and a closing line.

* `Reader.Frames`: a record with the bytes after its line makes up an item.
* `Reader.TextFault`: the ways in which a text is not well formed.
* `Reader.Reaches`: the items up to a place in a file.
* `Reader.items_of_reaches`: reading a file goes through these items.
-/

namespace CallMap.Reader

variable {file : String} {bytes rest after : List UInt8} {record : Record} {item : Item}
  {reason : Halt} {before : List Item}

/-- The record on the first line. -/
def firstRecord (bytes : List UInt8) : Record :=
  Record.ofLine (dropReturn (firstLine bytes))

/-- A record, with the bytes after its line, makes up an item, and leaves bytes. A text has as many
bytes as its header says, and a closing record has to follow. -/
inductive Frames (record : Record) (rest : List UInt8) : Item → List UInt8 → Prop
  /-- A record of one line. -/
  | line (htag : record.tag ≠ .text) : Frames record rest (.plain record) rest
  /-- A text. -/
  | text {length : Nat} (htag : record.tag = .text)
      (hcount : textLength? (Text.trim record.name) = some length)
      (haddress : length < addressLimit)
      (hfits : length ≤ rest.length) (hclosed : Tag.bytes "XTX," <+: firstLine (rest.drop length)) :
      Frames record rest (.text record (Text.Windows1252.decode (rest.take length)))
        (afterLine (rest.drop length))

/-- What is wrong with a text, from its header and the bytes after the line of the header. -/
inductive TextFault (file : String) (header : Record) (rest : List UInt8) : Halt → Prop
  /-- The header gives no number. -/
  | count (hcount : textLength? (Text.trim header.name) = none) :
      TextFault file header rest (.failed (.badTextLength file (Text.trim header.name)))
  /-- The header gives a number that no memory can hold. -/
  | oversized {length : Nat} (hcount : textLength? (Text.trim header.name) = some length)
      (haddress : addressLimit ≤ length) : TextFault file header rest .outOfMemory
  /-- The file ends inside the text. -/
  | short {length : Nat} (hcount : textLength? (Text.trim header.name) = some length)
      (haddress : length < addressLimit) (hshort : rest.length < length) :
      TextFault file header rest (.failed (.shortText file length rest.length))
  /-- Another line follows the text. -/
  | unclosed {length : Nat} (hcount : textLength? (Text.trim header.name) = some length)
      (haddress : length < addressLimit) (hfits : length ≤ rest.length)
      (hopen : ¬Tag.bytes "XTX," <+: firstLine (rest.drop length)) :
      TextFault file header rest (.failed (.unclosedText file
        (Text.Windows1252.decode (dropReturn (firstLine (rest.drop length))))))

/-- A record is completed with the bytes that follow it. -/
theorem complete_of_frames (h : Frames record rest item after) :
    complete record ⟨file, rest⟩ = (.ok item, ⟨file, after⟩) := by
  cases h with
  | line htag => rw [complete, if_neg htag]
  | @text length htag hcount haddress hfits hclosed =>
    have hclosing := List.isPrefixOf_iff_prefix.mpr hclosed
    -- All announced bytes are there.
    have hbody : ¬(rest.take length).length < length := by
      rw [List.length_take]
      omega
    have htext : text ⟨file, rest⟩ record =
        (.ok (Text.Windows1252.decode (rest.take length)),
          ⟨file, afterLine (rest.drop length)⟩) := by
      unfold text
      simp only [hcount, if_neg (Nat.not_le.mpr haddress), if_neg hbody, hclosing, if_true,
        skipLine]
    rw [complete, if_pos htag, htext]
    rfl

/-- A text with a fault ends reading for the reason of the fault. -/
theorem complete_of_textFault (htag : record.tag = .text) (h : TextFault file record rest reason) :
    (complete record ⟨file, rest⟩).1 = .error reason := by
  have htext : (text ⟨file, rest⟩ record).1 = .error reason := by
    unfold text
    cases h with
    | count hcount => simp only [hcount]
    | oversized hcount haddress => simp only [hcount, if_pos haddress]
    | @short length hcount haddress hshort =>
      -- Fewer bytes are there than announced.
      have hbody : (rest.take length).length = rest.length := by
        rw [List.length_take]
        omega
      simp only [hcount, if_neg (Nat.not_le.mpr haddress), hbody, if_pos hshort]
    | @unclosed length hcount haddress hfits hopen =>
      -- The bytes are there, but the line after them does not close the text.
      have hclosing : (Tag.bytes "XTX,").isPrefixOf (firstLine (rest.drop length)) = false := by
        rw [Bool.eq_false_iff, Ne, List.isPrefixOf_iff_prefix]
        exact hopen
      have hbody : ¬(rest.take length).length < length := by
        rw [List.length_take]
        omega
      simp only [hcount, if_neg (Nat.not_le.mpr haddress), if_neg hbody, hclosing,
        Bool.false_eq_true, if_false]
  rw [complete, if_pos htag, htext]
  rfl

/-- A record makes up an item, or it is the header of a text that is not well formed. -/
theorem frames_or_textFault (file : String) (record : Record) (rest : List UInt8) :
    (∃ item after, Frames record rest item after) ∨
      record.tag = .text ∧ ∃ reason, TextFault file record rest reason := by
  by_cases htag : record.tag = .text
  -- A text is looked at in the order in which it is checked: its length, its bytes, its end.
  · cases hcount : textLength? (Text.trim record.name) with
    | none => exact .inr ⟨htag, _, .count hcount⟩
    | some length =>
      by_cases haddress : length < addressLimit
      · by_cases hfits : length ≤ rest.length
        · by_cases hclosed : Tag.bytes "XTX," <+: firstLine (rest.drop length)
          · exact .inl ⟨_, _, .text htag hcount haddress hfits hclosed⟩
          · exact .inr ⟨htag, _, .unclosed hcount haddress hfits hclosed⟩
        · exact .inr ⟨htag, _, .short hcount haddress (Nat.not_le.mp hfits)⟩
      · exact .inr ⟨htag, _, .oversized hcount (Nat.not_lt.mp haddress)⟩
  · exact .inl ⟨_, _, .line htag⟩

/-- A text that can be read has no fault. -/
theorem Frames.not_textFault (h : Frames record rest item after) (htag : record.tag = .text) :
    ¬TextFault file record rest reason := by
  intro hfault
  have hcomplete := complete_of_textFault htag hfault
  rw [complete_of_frames h] at hcomplete
  cases hcomplete

/-- A record and what follows it make up at most one item. -/
theorem Frames.item_eq {other : Item} {otherAfter : List UInt8} (h : Frames record rest item after)
    (hother : Frames record rest other otherAfter) : other = item := by
  have hcomplete := @complete_of_frames "" _ _ _ _ hother
  rw [complete_of_frames h] at hcomplete
  exact (Except.ok.inj (Prod.ext_iff.mp hcomplete).1).symm

/-- Completing a record does not go back. -/
theorem Frames.length_le (h : Frames record rest item after) : after.length ≤ rest.length := by
  have hlength := complete_length record ⟨"", rest⟩
  rwa [complete_of_frames h] at hlength

/-! ### Places in a file -/

/-- Some items of a file, from its start, and the bytes that are left after them. -/
inductive Reaches (bytes : List UInt8) : List Item → List UInt8 → Prop
  /-- The start of the file. -/
  | start : Reaches bytes [] bytes
  /-- The place after one more item. -/
  | next {before : List Item} {rest after : List UInt8} {item : Item}
      (hbefore : Reaches bytes before rest) (hrest : rest ≠ [])
      (hframes : Frames (firstRecord rest) (afterLine rest) item after) :
      Reaches bytes (before ++ [item]) after

/-- Where something is left, the next item starts with the record of the next line. -/
theorem item?_of_ne_nil (file : String) (h : rest ≠ []) :
    item? ⟨file, rest⟩ = some (complete (firstRecord rest) ⟨file, afterLine rest⟩) := by
  have hsome : next? ⟨file, rest⟩ = some (firstRecord rest, ⟨file, afterLine rest⟩) := by
    rw [next?, if_neg (by simpa using h)]
    rfl
  rw [item?, hsome]

/-- The first item comes before the items of what is left. -/
theorem items_of_frames (hrest : rest ≠ [])
    (h : Frames (firstRecord rest) (afterLine rest) item after) :
    items ⟨file, rest⟩ = (item :: (items ⟨file, after⟩).1, (items ⟨file, after⟩).2) := by
  apply items_of_item?_ok
  rw [item?_of_ne_nil file hrest, complete_of_frames h]

/-- Reading stops at a text with a fault. -/
theorem items_of_textFault (hrest : rest ≠ []) (htag : (firstRecord rest).tag = .text)
    (h : TextFault file (firstRecord rest) (afterLine rest) reason) :
    items ⟨file, rest⟩ = ([], some reason) := by
  rw [@items_of_item?_error ⟨file, rest⟩ _ reason]
  rw [item?_of_ne_nil file hrest, ← complete_of_textFault htag h]

/-- What is read up to a place does not depend on what comes after it. -/
theorem items_of_reaches (h : Reaches bytes before rest) :
    items ⟨file, bytes⟩ = (before ++ (items ⟨file, rest⟩).1, (items ⟨file, rest⟩).2) := by
  induction h with
  | start => rfl
  | next _ hrest hframes ih =>
    rw [ih, items_of_frames hrest hframes, List.append_assoc]
    rfl

/-- A file is read to its end if no text in it is at fault. -/
theorem exists_reaches_end
    (h : ∀ before rest, Reaches bytes before rest → rest ≠ [] → (firstRecord rest).tag = .text →
      ∀ reason, ¬TextFault file (firstRecord rest) (afterLine rest) reason) :
    ∃ items, Reaches bytes items [] := by
  -- The bytes that are left become fewer with every item.
  suffices hfrom : ∀ size before rest, rest.length ≤ size → Reaches bytes before rest →
      ∃ items, Reaches bytes items [] from hfrom bytes.length [] bytes (Nat.le_refl _) .start
  intro size
  induction size with
  | zero =>
    intro before rest hsize hreaches
    obtain rfl := List.eq_nil_of_length_eq_zero (Nat.le_zero.mp hsize)
    exact ⟨before, hreaches⟩
  | succ size ih =>
    intro before rest hsize hreaches
    by_cases hrest : rest = []
    · exact ⟨before, hrest ▸ hreaches⟩
    · rcases frames_or_textFault file (firstRecord rest) (afterLine rest) with
        ⟨item, after, hframes⟩ | ⟨htag, reason, hfault⟩
      · have hshorter := length_afterLine_lt hrest
        have hafter := hframes.length_le
        exact ih _ after (by omega) (hreaches.next hrest hframes)
      · exact absurd hfault (h before rest hreaches hrest htag reason)

end CallMap.Reader
