import CallMap.Proofs.Offence
import CallMap.Proofs.Writer

/-!
# Lines that say nothing

Some lines have no bearing on what a file contributes: those that are too short for a tag, those
with a tag that is ignored or not known, and closing records without a text. Such a line can stand
between any two records. The reader takes it as a record of its own and goes on where it would have
gone on without it, and the record leaves everything as it is.

* `Reader.IsIdle`: a line says nothing.
* `Reader.Frames.replace`, `Reader.Reaches.replace`: what has been read of a file does not depend on
  what comes after it.
* `Reader.Reaches.insert`: a line that is put between two records is read as one more record.
* `Progress.readRecord_idle`: such a record changes nothing.
* `Contribution.ofBytes_insert_idle`: neither does its line, wherever it stands.
-/

namespace CallMap

/-- The tags of records that have no bearing on anything. -/
def Tag.idle : List Tag :=
  [.ignored, .unrecognised, .textEnd]

namespace Reader

variable {file : String} {bytes front left rest other line : List UInt8} {record : Record}
  {item : Item} {before : List Item}

/-! ### Whole lines -/

/-- The bytes stop at the end of a line. -/
def WholeLines (bytes : List UInt8) : Prop :=
  bytes = [] ∨ bytes.getLast? = some 10

/-- Whole lines have a line feed. -/
theorem WholeLines.mem (h : WholeLines bytes) (hbytes : bytes ≠ []) : 10 ∈ bytes :=
  List.mem_of_getLast? (h.resolve_left hbytes)

/-- What is left of whole lines are whole lines. -/
theorem WholeLines.of_suffix (h : WholeLines bytes) (hleft : left <:+ bytes) : WholeLines left := by
  obtain ⟨first, rfl⟩ := hleft
  by_cases hnil : left = []
  · exact .inl hnil
  · have hlast := h.resolve_left (by simp [hnil])
    rw [List.getLast?_append_of_ne_nil first hnil] at hlast
    exact .inr hlast

/-- What comes after a line is the end of the bytes. -/
theorem afterLine_suffix (bytes : List UInt8) : afterLine bytes <:+ bytes :=
  (List.drop_suffix _ _).trans (List.dropWhile_suffix _)

theorem firstLine_append_feed (h : 10 ∉ line) : firstLine (line ++ 10 :: rest) = line := by
  simpa [Writer.LineEnd.bytes, Writer.LineEnd.before] using
    @Writer.firstLine_append line rest h .feed

theorem afterLine_append_feed (h : 10 ∉ line) : afterLine (line ++ 10 :: rest) = rest := by
  simpa [Writer.LineEnd.bytes, Writer.LineEnd.before] using
    @Writer.afterLine_append line rest h .feed

/-- The first line does not depend on what comes after its line feed. -/
theorem firstLine_append_of_mem (h : 10 ∈ bytes) : firstLine (bytes ++ rest) = firstLine bytes := by
  obtain ⟨line, tail, rfl, hline⟩ := List.eq_append_cons_of_mem h
  rw [List.append_assoc, List.cons_append, firstLine_append_feed hline, firstLine_append_feed hline]

theorem afterLine_append_of_mem (h : 10 ∈ bytes) :
    afterLine (bytes ++ rest) = afterLine bytes ++ rest := by
  obtain ⟨line, tail, rfl, hline⟩ := List.eq_append_cons_of_mem h
  rw [List.append_assoc, List.cons_append, afterLine_append_feed hline, afterLine_append_feed hline]

/-- The first record does not depend on what comes after its line. -/
theorem firstRecord_append_of_mem (h : 10 ∈ bytes) :
    firstRecord (bytes ++ rest) = firstRecord bytes := by
  rw [firstRecord, firstLine_append_of_mem h, firstRecord]

/-! ### What comes after does not matter -/

/-- An item that ends in front of some bytes is the same in front of any others. -/
theorem Frames.replace (hfront : WholeLines front)
    (h : Frames record (front ++ rest) item (left ++ rest)) :
    Frames record (front ++ other) item (left ++ other) := by
  generalize hwhole : front ++ rest = whole at h
  generalize hafter : left ++ rest = after at h
  cases h with
  | line htag =>
    obtain rfl := List.append_cancel_right (hafter.trans hwhole.symm)
    exact .line htag
  | @text length htag hcount haddress hfits hclosed =>
    subst hwhole
    -- The closing record is not empty, so all of it and the text before it stand in the first part.
    have hclosing : (front ++ rest).drop length ≠ [] := by
      intro hnil
      rw [hnil] at hclosed
      exact absurd (List.prefix_nil.mp hclosed) (by decide)
    have hlength : length < front.length := by
      have hshorter := length_afterLine_lt hclosing
      rw [← hafter, List.length_append, List.length_drop, List.length_append] at hshorter
      omega
    have hdrop (tail : List UInt8) : (front ++ tail).drop length = front.drop length ++ tail :=
      List.drop_append_of_le_length hlength.le
    have htake (tail : List UInt8) : (front ++ tail).take length = front.take length :=
      List.take_append_of_le_length hlength.le
    have hfeed : 10 ∈ front.drop length :=
      (hfront.of_suffix (List.drop_suffix length front)).mem (by simp [hlength])
    rw [hdrop, afterLine_append_of_mem hfeed] at hafter
    obtain rfl := List.append_cancel_right hafter
    rw [hdrop, firstLine_append_of_mem hfeed] at hclosed
    have hframes : Frames record (front ++ other) _ _ :=
      .text htag hcount haddress (by rw [List.length_append]; omega)
        (by rwa [hdrop, firstLine_append_of_mem hfeed])
    rw [htake, hdrop, afterLine_append_of_mem hfeed] at hframes
    rwa [htake]

/-- An item takes its bytes from the front. -/
theorem Frames.suffix {after : List UInt8} (h : Frames record rest item after) :
    after <:+ rest := by
  cases h with
  | line htag => exact List.suffix_refl _
  | text => exact (afterLine_suffix _).trans (List.drop_suffix _ _)

/-- What is left after some items is the end of the bytes. -/
theorem Reaches.suffix (h : Reaches bytes before rest) : rest <:+ bytes := by
  induction h with
  | start => exact List.suffix_refl _
  | next _ _ hframes ih => exact (hframes.suffix.trans (afterLine_suffix _)).trans ih

/-- The items in front of a place are the same whatever comes after that place. -/
theorem Reaches.replace (hfront : WholeLines front)
    (h : Reaches (front ++ rest) before (left ++ rest)) :
    Reaches (front ++ other) before (left ++ other) := by
  generalize hplace : left ++ rest = place at h
  induction h generalizing left with
  | start =>
    obtain rfl := List.append_cancel_right hplace
    exact .start
  | @next before place after item hbefore hne hframes ih =>
    subst hplace
    -- The place before the item lies in the first part as well, since the item takes up bytes.
    have hlength : rest.length < place.length := by
      have hafter := hframes.length_le
      have hshorter := length_afterLine_lt hne
      rw [List.length_append] at hafter
      omega
    obtain ⟨head, rfl⟩ := List.suffix_of_suffix_length_le (List.suffix_append front rest)
      hbefore.suffix hlength.le
    have hhead : head <:+ front := by
      obtain ⟨first, hfirst⟩ := hbefore.suffix
      rw [← List.append_assoc] at hfirst
      exact ⟨first, List.append_cancel_right hfirst⟩
    have hwhole := hfront.of_suffix hhead
    have hnil : head ≠ [] := by
      rintro rfl
      exact Nat.lt_irrefl _ hlength
    have hfeed := hwhole.mem hnil
    rw [firstRecord_append_of_mem hfeed, afterLine_append_of_mem hfeed] at hframes
    refine (ih rfl).next (by simp [hnil]) ?_
    rw [firstRecord_append_of_mem hfeed, afterLine_append_of_mem hfeed]
    exact hframes.replace (hwhole.of_suffix (afterLine_suffix head))

/-! ### A line between two records -/

/-- A line says nothing: it is too short for a tag, or its tag has no bearing on anything. -/
def IsIdle (line : List UInt8) : Prop :=
  10 ∉ line ∧ ((dropReturn line).length < 4 ∨ Tag.ofBytes ((dropReturn line).take 4) ∈ Tag.idle)

instance (line : List UInt8) : Decidable (IsIdle line) :=
  inferInstanceAs (Decidable (_ ∧ _))

/-- The record of an idle line has a tag that nothing is done with. -/
theorem IsIdle.tag_mem (h : IsIdle line) : (Record.ofLine (dropReturn line)).tag ∈ Tag.idle := by
  unfold Record.ofLine
  split
  next => exact List.mem_of_elem_eq_true rfl
  next hlong => exact h.2.resolve_left hlong

/-- A line that is put between two records is read as one more record. -/
theorem Reaches.insert (hfront : WholeLines front) (h : Reaches (front ++ rest) before rest)
    (hline : 10 ∉ line) (htag : (Record.ofLine (dropReturn line)).tag ≠ .text) :
    Reaches (front ++ (line ++ 10 :: rest)) (before ++ [.plain (Record.ofLine (dropReturn line))])
      rest := by
  have hplace : Reaches (front ++ (line ++ 10 :: rest)) before (line ++ 10 :: rest) :=
    @Reaches.replace front [] rest (line ++ 10 :: rest) before hfront h
  have hrecord : firstRecord (line ++ 10 :: rest) = Record.ofLine (dropReturn line) := by
    rw [firstRecord, firstLine_append_feed hline]
  refine hplace.next (by simp) ?_
  rw [hrecord, afterLine_append_feed hline]
  exact .line htag

end Reader

namespace Progress

variable {record : Record}

/-- A record that has no bearing on anything leaves everything as it is. -/
theorem readRecord_idle (h : record.tag ∈ Tag.idle) (file : String) (progress : Progress) :
    (progress.readRecord file record).outcome = .ok progress := by
  unfold readRecord
  simp only [Tag.idle, List.mem_cons, List.not_mem_nil, or_false] at h
  rcases h with htag | htag | htag
  · simp only [htag, Traced.pure_outcome]
  · simp only [htag, Traced.bind_outcome]
    rfl
  · simp only [htag, Traced.pure_outcome]

/-- Reading a record with such a tag changes nothing. -/
theorem foldlM_concat_idle (h : record.tag ∈ Tag.idle) (tokenizer : Tokenizer) (file : String)
    (before : List Item) (progress : Progress) :
    ((before ++ [Item.plain record]).foldlM (readItem tokenizer file) progress).outcome =
      (before.foldlM (readItem tokenizer file) progress).outcome := by
  rw [Traced.foldlM_append_outcome]
  cases (before.foldlM (readItem tokenizer file) progress).outcome with
  | error reason => rfl
  | ok middle =>
    change ([Item.plain record].foldlM (readItem tokenizer file) middle).outcome = .ok middle
    simp only [List.foldlM_cons, List.foldlM_nil, Traced.bind_outcome, readItem, readRecord_idle h,
      Except.bind, Traced.pure_outcome]

end Progress

namespace Contribution

/-- A line that says nothing can be put between any two records: decoding the file ends in the same
way, with the same contribution or for the same reason. -/
theorem ofBytes_insert_idle (tokenizer : Tokenizer) (file : String) {front rest line : List UInt8}
    {before : List Item} (hfront : front = [] ∨ front.getLast? = some 10)
    (hbetween : Reader.Reaches (front ++ rest) before rest) (hline : Reader.IsIdle line) :
    (ofBytes tokenizer file (front ++ line ++ [10] ++ rest)).outcome =
      (ofBytes tokenizer file (front ++ rest)).outcome := by
  have hidle := hline.tag_mem
  have hplain : (Record.ofLine (Reader.dropReturn line)).tag ≠ .text := by
    intro htag
    rw [htag] at hidle
    exact absurd hidle (by decide)
  have hinserted : Reader.Reaches (front ++ line ++ [10] ++ rest)
      (before ++ [.plain (Record.ofLine (Reader.dropReturn line))]) rest := by
    simpa using hbetween.insert hfront hline.1 hplain
  -- Both files hold the same items, but for the record in between.
  have hsame (items : List Item) :
      ((before ++ [Item.plain (Record.ofLine (Reader.dropReturn line))] ++ items).foldlM
        (Progress.readItem tokenizer file) {}).outcome =
          ((before ++ items).foldlM (Progress.readItem tokenizer file) {}).outcome := by
    rw [Traced.foldlM_append_outcome, Progress.foldlM_concat_idle hidle,
      Traced.foldlM_append_outcome]
  rw [ofBytes_outcome_of_reaches .start rfl, ofBytes_outcome_of_reaches .start rfl,
    Reader.items_of_reaches hinserted, Reader.items_of_reaches hbetween, hsame]

/-- A module with a text. -/
def sampleFront : List UInt8 :=
  Tag.bytes "FIL,130,A.jcl\nTXT,132,2,\nx\nXTX,\n"

/-- A reference, and a text that is not complete. -/
def sampleRest : List UInt8 :=
  Tag.bytes "FLD,12,F\nTXT,132,9,\n"

/-- The carriage return does not count, so that there are too few bytes for a tag. -/
def sampleIdleLine : List UInt8 :=
  Tag.bytes "FLD\r"

/-- A text of two bytes ends where the rest starts. -/
theorem reaches_sampleFront :
    ∃ before, Reader.Reaches (sampleFront ++ sampleRest) before sampleRest := by
  have hmodule : Reader.Reaches (sampleFront ++ sampleRest) _ _ :=
    Reader.Reaches.start.next (by decide +kernel) (.line (by decide +kernel))
  have htext := hmodule.next (by decide +kernel) (@Reader.Frames.text _ _ 2 (by decide +kernel)
    (by decide +kernel) (by unfold Reader.addressLimit; decide) (by decide +kernel)
      (by decide +kernel))
  have hrest :
      Reader.afterLine ((Reader.afterLine (Reader.afterLine (sampleFront ++ sampleRest))).drop 2) =
      sampleRest := by decide +kernel
  rw [hrest] at htext
  exact ⟨_, htext⟩

/-- A line put behind that text changes nothing. -/
theorem ofBytes_insert_idle_sampleFront : (∃ before,
    Reader.Reaches (sampleFront ++ sampleRest) before sampleRest) ∧ Reader.IsIdle sampleIdleLine ∧
      (ofBytes Lexer.tokenize "a.txt" (sampleFront ++ sampleIdleLine ++ [10] ++
        sampleRest)).outcome =
        (ofBytes Lexer.tokenize "a.txt" (sampleFront ++ sampleRest)).outcome := by
  have hidle : Reader.IsIdle sampleIdleLine := by decide +kernel
  obtain ⟨before, hbetween⟩ := reaches_sampleFront
  refine ⟨⟨before, hbetween⟩, hidle, ?_⟩
  exact ofBytes_insert_idle Lexer.tokenize "a.txt" (.inr (by decide +kernel)) hbetween hidle

end Contribution

end CallMap
