import CallMap.Proofs.Framing
import CallMap.Proofs.SmallTokens

/-!
# Records in small letters

Two files that only differ in the case of ASCII letters hold the same records but for case, as long
as no tag differs. What divides a file into records is no letter: line ends, commas, and the digits
of lengths.

* `SameLetters`: byte strings that are the same but for the case of ASCII letters.
* `Reader.Frames.small_eq`: two such places of a file make up the same item.
* `Reader.TextFault.sort_eq`: what is wrong with a text is told by two numbers.
* `Reader.items_small`: two such files hold the same records, and stop for the same sort of reason.
-/

namespace CallMap

/-- What sort of end a halt is: a failure, by the number of its constructor and whatever its message
says, or running out of memory. -/
def Halt.sort : Halt → Option Nat
  | .failed failure => some failure.ctorIdx
  | .outOfMemory => none

namespace Text

/-- Trimming does not depend on the case of letters. -/
theorem trim_small (text : String) : trim (small text) = small (trim text) := by
  have hstart (chars : List Char) : trimStart (chars.map Char.toLower) =
      (trimStart chars).map Char.toLower :=
    dropWhile_map_eq (congr_toLower (by decide)) chars
  rw [trim, trim, small_ofList, toList_small, hstart, ← List.map_reverse, hstart,
    ← List.map_reverse]

end Text

open Text

/-! ### Records -/

namespace Record

/-- A record with its texts in small letters; its tag is what it was. -/
def small (record : Record) : Record :=
  { record with rawTag := Text.small record.rawTag, payload := Text.small record.payload }

/-- The name of a record in small letters is its name in small letters. -/
theorem name_small (record : Record) : record.small.name = Text.small record.name := by
  have hfield := takeWhile_map_eq (f := Char.toLower) (p := (· != ',')) (toLower_bne (by decide))
  rw [name, small, toList_small, hfield, name, small_ofList]

/-- Dropping a width does not depend on the case of letters. -/
theorem dropWidth_map_toLower (payload : List Char) :
    dropWidth (payload.map Char.toLower) = (dropWidth payload).map Char.toLower := by
  have hdigit (c : Char) : isDigit c.toLower = isDigit c := congr_toLower (by decide) c
  have hcomma (c : Char) : c.toLower = ',' ↔ c = ',' := toLower_eq_iff (by decide)
  -- The comma after a width stands in the third or the fourth place.
  rcases payload with _ | ⟨a, _ | ⟨b, _ | ⟨c, rest⟩⟩⟩
  · rfl
  · rfl
  · rfl
  · by_cases hc : c = ','
    · subst hc
      show dropWidth (a.toLower :: b.toLower :: ',' :: rest.map Char.toLower) = _
      rw [dropWidth, dropWidth, hdigit, hdigit]
      split_ifs <;> rfl
    · rcases rest with _ | ⟨d, rest⟩
      · simp [dropWidth, hc, hcomma]
      · by_cases hd : d = ','
        · subst hd
          simp only [List.map_cons, show Char.toLower ',' = ',' from rfl]
          rw [dropWidth, dropWidth, hdigit, hdigit, hdigit]
          · split_ifs <;> rfl
          · exact hc
          · exact mt (hcomma c).mp hc
        · simp [dropWidth, hc, hd, hcomma]

end Record

/-! ### Bytes -/

namespace Text.Windows1252

/-- A byte, or that of the small letter if it stands for a capital ASCII letter. -/
def smallByte (b : UInt8) : UInt8 :=
  if 0x41 ≤ b && b ≤ 0x5A then b + 0x20 else b

/-- The small form of a byte stands for the small form of its character. -/
theorem decodeByte_smallByte (b : UInt8) : decodeByte (smallByte b) = (decodeByte b).toLower := by
  have hall : ∀ n : Fin 256, decodeByte (smallByte (.ofFin n)) =
      (decodeByte (.ofFin n)).toLower := by
    decide +kernel
  exact hall b.toFin

/-- Line feeds are no letters. -/
theorem smallByte_bne (b : UInt8) : (smallByte b != 10) = (b != 10) := by
  have hall : ∀ n : Fin 256, (smallByte (.ofFin n) != 10) = (UInt8.ofFin n != 10) := by
    decide +kernel
  exact hall b.toFin

theorem smallByte_eq_return (b : UInt8) : smallByte b = 13 ↔ b = 13 := by
  have hall : ∀ n : Fin 256, smallByte (.ofFin n) = 13 ↔ UInt8.ofFin n = 13 := by decide +kernel
  exact hall b.toFin

theorem map_decodeByte_smallByte (bytes : List UInt8) :
    (bytes.map smallByte).map decodeByte = (bytes.map decodeByte).map Char.toLower := by
  rw [List.map_map, List.map_map]
  exact List.map_congr_left fun b _ => decodeByte_smallByte b

/-- Small letters can be formed before decoding. -/
theorem small_decode (bytes : List UInt8) :
    small (decode bytes) = decode (bytes.map smallByte) := by
  rw [decode, small_ofList, decode, map_decodeByte_smallByte]

end Text.Windows1252

open Text.Windows1252 (smallByte)

/-- Two byte strings are the same but for the case of ASCII letters. -/
def SameLetters (bytes other : List UInt8) : Prop :=
  bytes.map smallByte = other.map smallByte

namespace SameLetters

variable {bytes other : List UInt8}

theorem length_eq (h : SameLetters bytes other) : bytes.length = other.length := by
  simpa using congrArg List.length h

/-- What can be done with small letters as well keeps byte strings the same. -/
theorem lift {f : List UInt8 → List UInt8} (h : SameLetters bytes other)
    (hf : ∀ bytes, f (bytes.map smallByte) = (f bytes).map smallByte) :
    SameLetters (f bytes) (f other) := by
  rw [SameLetters, ← hf, h, hf]

theorem take (h : SameLetters bytes other) (count : Nat) :
    SameLetters (bytes.take count) (other.take count) :=
  h.lift fun _ => List.map_take.symm

theorem drop (h : SameLetters bytes other) (count : Nat) :
    SameLetters (bytes.drop count) (other.drop count) :=
  h.lift fun _ => List.map_drop.symm

theorem firstLine (h : SameLetters bytes other) :
    SameLetters (Reader.firstLine bytes) (Reader.firstLine other) :=
  h.lift (takeWhile_map_eq Windows1252.smallByte_bne)

theorem afterLine (h : SameLetters bytes other) :
    SameLetters (Reader.afterLine bytes) (Reader.afterLine other) := by
  refine h.lift fun bytes => ?_
  rw [Reader.afterLine, dropWhile_map_eq Windows1252.smallByte_bne, ← List.map_drop,
    Reader.afterLine]

theorem dropReturn (h : SameLetters bytes other) :
    SameLetters (Reader.dropReturn bytes) (Reader.dropReturn other) := by
  refine h.lift fun bytes => ?_
  have hlast : (bytes.map smallByte).getLast? = some 13 ↔ bytes.getLast? = some 13 := by
    rw [List.getLast?_map, Option.map_eq_some_iff]
    simp [Windows1252.smallByte_eq_return]
  simp only [Reader.dropReturn, hlast]
  split_ifs
  · exact List.map_dropLast.symm
  · rfl

/-- Lines that are the same but for the case of letters hold such records, if their tags are
equal. -/
theorem small_ofLine {line other : List UInt8} (h : SameLetters line other)
    (htag : (Record.ofLine line).tag = (Record.ofLine other).tag) :
    (Record.ofLine line).small = (Record.ofLine other).small := by
  -- Small letters can be formed before decoding and before a width is dropped.
  have hpayload (line : List UInt8) : Text.small (String.ofList
      (Record.dropWidth ((line.drop 4).map Windows1252.decodeByte))) = String.ofList
        (Record.dropWidth (((line.map smallByte).drop 4).map Windows1252.decodeByte)) := by
    rw [small_ofList, ← Record.dropWidth_map_toLower, ← Windows1252.map_decodeByte_smallByte,
      List.map_drop]
  -- A line that is too short for a tag is kept as it is.
  by_cases hshort : line.length < 4
  · have hother : other.length < 4 := h.length_eq ▸ hshort
    rw [Record.ofLine, if_pos hshort, Record.ofLine, if_pos hother]
    simp only [Record.small, Windows1252.small_decode,
      show line.map smallByte = other.map smallByte from h]
  · have hother : ¬other.length < 4 := h.length_eq ▸ hshort
    rw [Record.ofLine, if_neg hshort, Record.ofLine, if_neg hother] at htag ⊢
    have htags : Tag.ofBytes (line.take 4) = Tag.ofBytes (other.take 4) := htag
    simp only [Record.small, htags, hpayload, Windows1252.small_decode, List.map_take,
      show line.map smallByte = other.map smallByte from h]

/-- Records with the same tag are the same but for case. -/
theorem small_firstRecord (h : SameLetters bytes other)
    (htag : (Reader.firstRecord bytes).tag = (Reader.firstRecord other).tag) :
    (Reader.firstRecord bytes).small = (Reader.firstRecord other).small :=
  h.firstLine.dropReturn.small_ofLine htag

end SameLetters

/-! ### Items -/

/-- The tag of a record, or of the header of a text. -/
def Item.tag : Item → Tag
  | .plain record => record.tag
  | .text header _ => header.tag

/-- A record with its texts in small letters. -/
def Item.small : Item → Item
  | .plain record => .plain record.small
  | .text header body => .text header.small (Text.small body)

namespace Reader

variable {file otherFile : String} {bytes other : List UInt8}

/-- A field with letters is no length. -/
theorem textLength?_of_isAlpha {field : String} {c : Char} (hc : c ∈ field.toList)
    (hletter : c.isAlpha = true) : textLength? field = none := by
  have hdigit (digits : List Char) (hmem : c ∈ digits) : digits.all Record.isDigit = false := by
    rw [List.all_eq_false]
    refine ⟨c, hmem, fun hdigit => ?_⟩
    -- Letters come after digits.
    have hlast : c.toNat ≤ '9'.toNat :=
      UInt32.le_iff_toNat_le.mp (of_decide_eq_true (Bool.and_eq_true_iff.mp hdigit).2)
    rcases Bool.or_eq_true_iff.mp hletter with hupper | hlower
    · exact absurd (Nat.le_trans (toNat_of_isUpper hupper).1 hlast) (by decide)
    · exact absurd (Nat.le_trans (toNat_of_isLower hlower).1 hlast) (by decide)
  unfold textLength?
  split
  next digits hfield =>
    have hmem : c ∈ digits := by
      rw [hfield] at hc
      refine (List.mem_cons.mp hc).resolve_left ?_
      rintro rfl
      exact absurd hletter (by decide)
    simp [hdigit digits hmem]
  next => simp [hdigit _ hc]

/-- A field without letters is the same in small letters. -/
theorem textLength?_small (field : String) : textLength? (small field) = textLength? field := by
  by_cases hletters : ∃ c ∈ field.toList, c.isAlpha = true
  -- A letter makes the length illegible in either case, and without letters there is only one case.
  · obtain ⟨c, hc, hletter⟩ := hletters
    have hsmall : c.toLower ∈ (small field).toList := by
      rw [toList_small]
      exact List.mem_map_of_mem hc
    have hstill : c.toLower.isAlpha = true :=
      (congr_toLower (f := Char.isAlpha) (by decide) c).trans hletter
    rw [textLength?_of_isAlpha hc hletter, textLength?_of_isAlpha hsmall hstill]
  · have hsame : small field = field := by
      rw [← String.toList_inj, toList_small]
      refine (List.map_congr_left fun c hc => ?_).trans (List.map_id _)
      exact toLower_of_not_isAlpha (.inl (Bool.eq_false_iff.mpr fun h => hletters ⟨c, hc, h⟩))
    rw [hsame]

/-- What sort of end a fault is, from the length that the header announces and the number of bytes
left. -/
def faultSort (announced : Option Nat) (left : Nat) : Option Nat :=
  match announced with
  | none => some (Failure.badTextLength "" "").ctorIdx
  | some length =>
    if addressLimit ≤ length then none
    else if left < length then some (Failure.shortText "" 0 0).ctorIdx
    else some (Failure.unclosedText "" "").ctorIdx

/-- What is wrong with a text depends on the length it announces and on the bytes that are there. -/
theorem TextFault.sort_eq {header : Record} {rest : List UInt8} {reason : Halt}
    (h : TextFault file header rest reason) :
    reason.sort = faultSort (textLength? (trim header.name)) rest.length := by
  cases h with
  | count hcount =>
    rw [hcount]
    rfl
  | oversized hcount haddress =>
    rw [hcount, faultSort, if_pos haddress]
    rfl
  | short hcount haddress hshort =>
    rw [hcount, faultSort, if_neg (Nat.not_le.mpr haddress), if_pos hshort]
    rfl
  | unclosed hcount haddress hfits =>
    rw [hcount, faultSort, if_neg (Nat.not_le.mpr haddress), if_neg (Nat.not_lt.mpr hfits)]
    rfl

/-- An item has the tag of its record. -/
theorem Frames.tag_eq {record : Record} {rest after : List UInt8} {item : Item}
    (h : Frames record rest item after) : item.tag = record.tag := by
  cases h <;> rfl

/-- Records that are the same but for the case of letters announce the same length. -/
theorem textLength?_congr {header otherHeader : Record} (h : header.small = otherHeader.small) :
    textLength? (trim header.name) = textLength? (trim otherHeader.name) := by
  have hname : small header.name = small otherHeader.name := by
    rw [← Record.name_small, h, Record.name_small]
  rw [← textLength?_small, ← trim_small, hname, trim_small, textLength?_small]

/-- Two records with the same bytes after them, but for the case of letters, make up the same
item. -/
theorem Frames.small_eq {header otherHeader : Record} {rest otherRest after otherAfter : List UInt8}
    {item otherItem : Item} (h : Frames header rest item after)
    (hother : Frames otherHeader otherRest otherItem otherAfter)
    (hheader : header.small = otherHeader.small) (hrest : SameLetters rest otherRest) :
    item.small = otherItem.small ∧ SameLetters after otherAfter := by
  have htags : header.small.tag = otherHeader.small.tag := congrArg Record.tag hheader
  cases h with
  | line htag =>
    cases hother with
    | line => exact ⟨congrArg Item.plain hheader, hrest⟩
    | text hotherTag => exact absurd (htags.trans hotherTag) htag
  -- Both texts announce the same length, so they take the same bytes.
  | @text length htag hcount =>
    cases hother with
    | line hotherTag => exact absurd (htags.symm.trans htag) hotherTag
    | @text otherLength _ hotherCount =>
      rw [textLength?_congr hheader, hotherCount] at hcount
      obtain rfl := Option.some.inj hcount
      refine ⟨?_, (hrest.drop _).afterLine⟩
      show Item.text header.small _ = Item.text otherHeader.small _
      rw [hheader, Windows1252.small_decode, hrest.take, Windows1252.small_decode]

/-- Files that are the same but for the case of letters, and whose records have the same tags, hold
the same records but for the case of letters, and their reading stops for the same sort of
reason. -/
theorem items_small (hbytes : SameLetters bytes other)
    (htags : (items ⟨file, bytes⟩).1.map Item.tag = (items ⟨otherFile, other⟩).1.map Item.tag) :
    (items ⟨file, bytes⟩).1.map Item.small = (items ⟨otherFile, other⟩).1.map Item.small ∧
      (items ⟨file, bytes⟩).2.map Halt.sort = (items ⟨otherFile, other⟩).2.map Halt.sort := by
  have hend (file : String) : items ⟨file, []⟩ = ([], none) := items_of_item?_none rfl
  -- The bytes that are left become fewer with every item.
  induction hsize : bytes.length using Nat.strong_induction_on generalizing bytes other with
  | _ size ih =>
    subst hsize
    by_cases hempty : bytes = []
    · subst hempty
      obtain rfl : other = [] := List.map_eq_nil_iff.mp hbytes.symm
      rw [hend, hend]
      exact ⟨rfl, rfl⟩
    have hotherEmpty : other ≠ [] := by
      rintro rfl
      exact hempty (List.map_eq_nil_iff.mp hbytes)
    have hrest := hbytes.afterLine
    rcases frames_or_textFault file (firstRecord bytes) (afterLine bytes) with
        ⟨item, after, hframes⟩ | ⟨htag, reason, hfault⟩ <;>
      rcases frames_or_textFault otherFile (firstRecord other) (afterLine other) with
        ⟨otherItem, otherAfter, hotherFrames⟩ | ⟨hotherTag, otherReason, hotherFault⟩
    · rw [items_of_frames hempty hframes, items_of_frames hotherEmpty hotherFrames] at htags ⊢
      obtain ⟨htag, htags⟩ := List.cons.inj htags
      rw [hframes.tag_eq, hotherFrames.tag_eq] at htag
      obtain ⟨hitem, hafter⟩ := hframes.small_eq hotherFrames (hbytes.small_firstRecord htag) hrest
      have hshorter := Nat.lt_of_le_of_lt hframes.length_le (length_afterLine_lt hempty)
      obtain ⟨hitems, hstop⟩ := ih after.length hshorter hafter htags rfl
      exact ⟨congrArg₂ List.cons hitem hitems, hstop⟩
    · -- A closing record that only one of the files has shows in the tags.
      rw [items_of_frames hempty hframes, items_of_textFault hotherEmpty hotherTag hotherFault]
        at htags
      cases htags
    · rw [items_of_textFault hempty htag hfault, items_of_frames hotherEmpty hotherFrames] at htags
      cases htags
    · rw [items_of_textFault hempty htag hfault,
        items_of_textFault hotherEmpty hotherTag hotherFault]
      have hheader := hbytes.small_firstRecord (htag.trans hotherTag.symm)
      refine ⟨rfl, congrArg some ?_⟩
      rw [hfault.sort_eq, hotherFault.sort_eq, textLength?_congr hheader, hrest.length_eq]

end Reader

end CallMap
