import Mathlib.Data.List.Basic
import CallMap.Proofs.LineTokens

/-!
# Lines on their own

A text can be read line by line: a line gives the tokens and the calls that it gives as a text of
its own, whatever statement it leaves unfinished and whatever quote it leaves open. It does not
matter either which of the two line ends a text uses.

* `Lexer.exists_tokenize_line`: the tokens of a line, its end and what comes after.
* `Statement.callsOfText_line`: the calls of a line, then those of what comes after.
* `Statement.texts_read_line_by_line`: both, with what happens to failures, and the change of line
  ends.
-/

namespace CallMap

namespace Lexer

/-- The end of a line takes the place of the end of the text, and what comes after is a text of its
own. -/
theorem exists_tokenize_line {line lineEnd : String} (h : IsLineEnd line.toList lineEnd.toList) :
    ∃ tokens, tokenize line = tokens ++ [⟨.endOfText, ""⟩] ∧
      ∀ more, tokenize (line ++ lineEnd ++ more) = tokens ++ ⟨.newLine, lineEnd⟩ ::
        tokenize more := by
  obtain ⟨tokens, htokens⟩ := exists_foldr_join (scan 0 line.toList)
  have hnewLine : Token.kind ⟨.newLine, lineEnd⟩ ≠ .illegal := by simp
  refine ⟨tokens, (tokenize_eq line).trans (htokens _ _ (by simp)), fun more => ?_⟩
  rw [tokenize_eq, tokenize_eq, String.append_assoc, String.toList_append, String.toList_append,
    scan_line h, String.ofList_toList, List.foldr_append, List.foldr_cons, join_of_ne hnewLine]
  exact htokens _ _ hnewLine

end Lexer

namespace Statement

open Lexer (tokenize IsLineEnd)

variable {unit line lineEnd : String} {token : Token}

/-! ### Statements and calls -/

/-- The end of a line ends its last statement, as the end of the text would. -/
theorem ofTokens_stop (h : token.kind = .newLine ∨ token.kind = .endOfText)
    (tokens others : List Token) :
    ofTokens (tokens ++ token :: others) = ofTokens tokens ++ ofTokens others := by
  have hexecute : token.kind ≠ .execute := by rcases h with h | h <;> simp [h]
  have hstop : continues token = false := by rcases h with h | h <;> simp [continues, h]
  induction tokens with
  | nil => simp [ofTokens_nil, ofTokens_cons, hexecute]
  | cons first rest ih =>
    rw [List.cons_append, ofTokens_cons, ofTokens_cons, ih, Lexer.takeWhile_append_stop hstop]
    split
    · rfl
    · rfl

/-- No statement reaches over the end of a line. -/
theorem ofTokens_line (h : IsLineEnd line.toList lineEnd.toList) (more : String) :
    ofTokens (tokenize (line ++ lineEnd ++ more)) =
      ofTokens (tokenize line) ++ ofTokens (tokenize more) := by
  obtain ⟨tokens, hline, hmore⟩ := Lexer.exists_tokenize_line h
  rw [hmore, hline, ofTokens_stop (.inl rfl), ofTokens_stop (.inr rfl), ofTokens_nil,
    List.append_nil]

/-- The calls of two lists of statements are those of the first, and then those of the second. -/
theorem calls_append (unit : String) (statements others : List Statement) :
    calls unit (statements ++ others) = do
      let names ← calls unit statements
      let more ← calls unit others
      return names ++ more := by
  induction statements with
  | nil => exact (Traced.bind_pure (calls unit others)).symm
  | cons first rest ih =>
    rw [List.cons_append, calls, calls, ih]
    simp only [Traced.bind_assoc, Traced.pure_bind, List.append_assoc]

/-- The calls of a line, with their notes, come before those of the other lines. -/
theorem callsOfText_line (h : IsLineEnd line.toList lineEnd.toList) (unit more : String) :
    callsOfText tokenize unit (line ++ lineEnd ++ more) = do
      let names ← callsOfText tokenize unit line
      let others ← callsOfText tokenize unit more
      return names ++ others := by
  rw [callsOfText, ofTokens_line h, calls_append]
  rfl

/-! ### Line ends -/

/-- A text with a carriage return before each line feed. -/
def withReturns (text : List Char) : List Char :=
  text.flatMap fun c => if c = '\n' then ['\r', '\n'] else [c]

/-- The statements stay the same when the lines after `line` get carriage returns. -/
theorem ofTokens_withReturns {line rest : List Char} (hline : '\r' ∉ line) (hrest : '\r' ∉ rest) :
    ofTokens (tokenize (String.ofList (line ++ withReturns rest))) =
      ofTokens (tokenize (String.ofList (line ++ rest))) := by
  -- `line` is what has been read of the current line.
  induction rest generalizing line with
  | nil => rfl
  | cons c rest ih =>
    obtain ⟨hc, hrest⟩ := not_or.mp (mt List.mem_cons.mpr hrest)
    by_cases hfeed : c = '\n'
    · -- The line is complete, and the next one starts with nothing read.
      have hlast : line.getLast? ≠ some '\r' := fun hlast => hline (List.mem_of_getLast? hlast)
      have hleft : String.ofList (line ++ withReturns (c :: rest)) =
          String.ofList line ++ "\r\n" ++ String.ofList (withReturns rest) := by
        apply String.toList_injective
        simp [withReturns, hfeed]
      have hright : String.ofList (line ++ c :: rest) = String.ofList line ++ "\n" ++
          String.ofList rest := by
        apply String.toList_injective
        simp [hfeed]
      have hothers := ih List.not_mem_nil hrest
      rw [List.nil_append, List.nil_append] at hothers
      rw [hleft, hright, ofTokens_line, ofTokens_line, hothers]
      · simpa using IsLineEnd.feed hlast
      · simpa using IsLineEnd.returnFeed
    · have hleft : line ++ withReturns (c :: rest) = line ++ [c] ++ withReturns rest := by
        simp [withReturns, hfeed]
      have hline : '\r' ∉ line ++ [c] := by simp [hline, hc]
      rw [hleft, ih hline hrest, List.append_assoc, List.singleton_append]

/-- A carriage return before each line feed changes nothing. -/
theorem callsOfText_withReturns {text : String} (h : '\r' ∉ text.toList) (unit : String) :
    callsOfText tokenize unit (String.ofList (withReturns text.toList)) =
      callsOfText tokenize unit text := by
  have hstatements := ofTokens_withReturns List.not_mem_nil h
  rw [List.nil_append, List.nil_append, String.ofList_toList] at hstatements
  rw [callsOfText, hstatements, callsOfText]

/-! ### Texts -/

/-- How a text is read that consists of `first`, a line end and `second`. -/
structure LineByLine (unit first lineEnd second : String) : Prop where
  /-- The line end is a token between the tokens of the two parts. -/
  tokens : ∃ tokens, tokenize first = tokens ++ [⟨.endOfText, ""⟩] ∧
    tokenize (first ++ lineEnd ++ second) = tokens ++ ⟨.newLine, lineEnd⟩ :: tokenize second
  /-- The calls, with their notes, are those of the first part and then those of the second. -/
  calls : callsOfText tokenize unit (first ++ lineEnd ++ second) = do
    let names ← callsOfText tokenize unit first
    let others ← callsOfText tokenize unit second
    return names ++ others
  /-- A failure of the first part is the failure of the text. -/
  halts_first : ∀ reason, (callsOfText tokenize unit first).outcome = .error reason →
    (callsOfText tokenize unit (first ++ lineEnd ++ second)).outcome = .error reason
  /-- If only the second part fails, this is the failure of the text. -/
  halts_second : ∀ names reason, (callsOfText tokenize unit first).outcome = .ok names →
    (callsOfText tokenize unit second).outcome = .error reason →
      (callsOfText tokenize unit (first ++ lineEnd ++ second)).outcome = .error reason
  /-- Otherwise the text has the names of both. -/
  names : ∀ names others, (callsOfText tokenize unit first).outcome = .ok names →
    (callsOfText tokenize unit second).outcome = .ok others →
      (callsOfText tokenize unit (first ++ lineEnd ++ second)).outcome = .ok (names ++ others)

/-- Texts are read line by line, and the two line ends mean the same. -/
theorem texts_read_line_by_line (unit : String) :
    (∀ first lineEnd second : String, IsLineEnd first.toList lineEnd.toList →
      LineByLine unit first lineEnd second) ∧
    ∀ text : String, '\r' ∉ text.toList →
      callsOfText tokenize unit (String.ofList (withReturns text.toList)) =
        callsOfText tokenize unit text := by
  refine ⟨fun first lineEnd second hend => ?_,
    fun text hreturn => callsOfText_withReturns hreturn unit⟩
  have hcalls := callsOfText_line hend unit second
  obtain ⟨tokens, hfirst, hmore⟩ := Lexer.exists_tokenize_line hend
  refine ⟨⟨tokens, hfirst, hmore second⟩, hcalls, ?_, ?_, ?_⟩
  -- A failure in the first part, a failure in the second, and no failure.
  · intro reason hhalts
    simp [hcalls, hhalts, Except.bind]
  · intro names reason hnames hhalts
    simp [hcalls, hnames, hhalts, Except.bind]
  · intro names others hnames hothers
    simp [hcalls, hnames, hothers, Except.bind]

/-- A line with an open quote and after it one with a call. -/
def sampleOpenQuote : String := "execute method \"a\nexecute method \"b\""

/-- The open quote ends with its line. -/
theorem texts_read_line_by_line_sampleOpenQuote :
    (callsOfText tokenize "caller"
        ("execute method \"a" ++ "\r\n" ++ "execute method \"b\"")).outcome = .ok ["b"] ∧
      callsOfText tokenize "caller" (String.ofList (withReturns sampleOpenQuote.toList)) =
        callsOfText tokenize "caller" sampleOpenQuote := by
  have hreturn : '\r' ∉ sampleOpenQuote.toList := by decide
  have hend : IsLineEnd "execute method \"a".toList "\r\n".toList := by
    simpa using IsLineEnd.returnFeed
  refine ⟨((texts_read_line_by_line "caller").1 _ _ _ hend).names [] ["b"] ?_ ?_,
    (texts_read_line_by_line "caller").2 _ hreturn⟩
  · decide +kernel
  · decide +kernel

end Statement

end CallMap
