import CallMap.Proofs.Extraction
import CallMap.Proofs.MaximalMunch
import CallMap.Proofs.SmallLetters

/-!
# Which tokens name a method

A method is named by a text between quotes, and the name is found by looking at the first and the
last character of a token, whatever its kind. That is the same as looking for a quoted token, with
one exception: a quote that is not closed, a carriage return and another quote that is not closed
are one illegal token, and it starts and ends with a quote.

* `Lexer.LooksQuoted`: the exception.
* `Lexer.Faults.return_before_quote`: why there is no other.
* `Statement.targets_constant_unless_looksQuoted`: where the name of a method can come from, and
  when it is only from quoted tokens.
-/

namespace CallMap

namespace Lexer

variable {after word front : List Char} {token : Token}

/-- An illegal token that starts with a quote and ends with a carriage return and a quote. -/
def LooksQuoted (token : Token) : Prop :=
  token.kind = .illegal ∧ ∃ inside, token.text.toList = '"' :: (inside ++ ['\r', '"'])

/-- A fault that ends with a quote is nothing but that quote. -/
theorem IsFault.eq_nil_of_quote (h : IsFault after (front ++ ['"'])) : front = [] := by
  generalize hword : front ++ ['"'] = word at h
  cases h with
  | @openQuote inside hinside =>
    cases front with
    | nil => rfl
    | cons first front =>
      -- A second quote would have closed the first.
      have hquote : '"' ∈ inside := by
        rw [← (List.cons.inj hword).2]
        exact List.mem_append_right _ List.mem_cons_self
      exact absurd (hinside '"' hquote) (by decide)
  | loneReturn =>
    have hlast := congrArg List.getLast? hword
    rw [List.getLast?_concat] at hlast
    cases hlast

/-- Before a quote at the end of several faults comes a carriage return. -/
theorem Faults.return_before_quote (h : Faults after word) (hword : word = front ++ ['"']) :
    front = [] ∨ ∃ inside, front = inside ++ ['\r'] := by
  induction h generalizing front with
  | last hfault =>
    subst hword
    exact .inl hfault.eq_nil_of_quote
  | @more word others hfault hothers ih =>
    refine .inr ?_
    -- The last fault is among the others, so they end with the quote.
    obtain ⟨last, rfl⟩ : ∃ last, others = last ++ ['"'] := by
      have hlast := congrArg List.getLast? hword
      rw [List.getLast?_append_of_ne_nil _ hothers.ne_nil, List.getLast?_concat] at hlast
      exact ⟨_, (List.dropLast_append_getLast? '"' hlast).symm⟩
    rw [← List.append_assoc] at hword
    obtain rfl := (List.append_left_injective _ hword).symm
    rcases ih rfl with rfl | ⟨inside, rfl⟩
    · -- Right before a quote, only a carriage return is a fault.
      cases hfault with
      | openQuote _ hend => exact absurd (hend '"' rfl) (by decide)
      | loneReturn => exact ⟨[], rfl⟩
    · exact ⟨word ++ inside, (List.append_assoc _ _ _).symm⟩

/-- A carriage return among faults has no line feed after it. -/
theorem Faults.exists_lone_return (h : Faults after word) (hreturn : '\r' ∈ word) :
    ∃ before behind, word ++ after = before ++ '\r' :: behind ∧ behind.head? ≠ some '\n' := by
  -- A single fault with a carriage return is nothing but this return.
  have hfault {after word : List Char} (h : IsFault after word) (hreturn : '\r' ∈ word) :
      word = ['\r'] ∧ after.head? ≠ some '\n' := by
    cases h with
    | openQuote hinside =>
      rcases List.mem_cons.mp hreturn with hquote | hmem
      · exact absurd hquote (by decide)
      · exact absurd (hinside _ hmem) (by decide)
    | loneReturn hend => exact ⟨rfl, hend⟩
  induction h with
  | last h =>
    obtain ⟨rfl, hend⟩ := hfault h hreturn
    exact ⟨[], after, rfl, hend⟩
  -- The return stands in the first fault, or in one of the others.
  | @more word others h _ ih =>
    rcases List.mem_append.mp hreturn with hfirst | hothers
    · obtain ⟨rfl, hend⟩ := hfault h hfirst
      exact ⟨[], others ++ after, by simp, hend⟩
    · obtain ⟨before, behind, htext, hend⟩ := ih hothers
      exact ⟨word ++ before, behind, by rw [List.append_assoc, htext, List.append_assoc], hend⟩

/-- What there is to know about a token of a text on its own. -/
theorem cases_of_mem_tokenize {text : String} (h : token ∈ tokenize text) :
    (token.kind = .illegal ∧ ∃ before after, text.toList = before ++ token.text.toList ++ after ∧
      Faults after token.text.toList) ∨
    token = ⟨.endOfText, ""⟩ ∨ IsKindOf token.text.toList token.kind := by
  have hmunch := maximalMunch_tokenize text
  obtain ⟨before, after, htokens⟩ := List.append_of_mem h
  have hsuffix : token :: after <:+ tokenize text := ⟨before, htokens.symm⟩
  by_cases hillegal : token.kind = .illegal
  · refine .inl ⟨hillegal, chars before, chars after, ?_,
      hmunch.faults token after hsuffix hillegal⟩
    rw [← hmunch.chars_eq, htokens, chars_append, chars_cons, List.append_assoc]
  · by_cases hend : token.kind = .endOfText
    -- The end of the text comes last, and only there.
    · obtain ⟨inner, hinner, hothers⟩ := hmunch.ends
      rw [hinner, List.mem_append, List.mem_singleton] at h
      exact .inr (.inl (h.resolve_left fun hmem => (hothers token hmem).1 hend))
    · exact .inr (.inr (hmunch.longest token after hsuffix hillegal hend).2)

/-- Text without a token stands between quotes only if a carriage return precedes the closing
quote. -/
theorem Faults.exists_between_quotes_iff (h : Faults after word) :
    (∃ literal, word = '"' :: (literal ++ ['"'])) ↔
      ∃ inside, word = '"' :: (inside ++ ['\r', '"']) := by
  constructor
  · rintro ⟨literal, hliteral⟩
    have hend : word = ('"' :: literal) ++ ['"'] := hliteral
    -- Before the closing quote there is a carriage return, and it is not the opening quote.
    rcases h.return_before_quote hend with hnil | ⟨inside, hinside⟩
    · cases hnil
    · cases inside with
      | nil => exact absurd (List.cons.inj hinside).1 (by decide)
      | cons first inside =>
        obtain rfl : literal = inside ++ ['\r'] := (List.cons.inj hinside).2
        exact ⟨inside, by rw [hliteral, List.append_assoc, List.singleton_append]⟩
  · rintro ⟨inside, hinside⟩
    exact ⟨inside ++ ['\r'], by rw [hinside, List.append_assoc, List.singleton_append]⟩

/-- A token is a text between quotes if it is quoted or looks like it. -/
theorem exists_between_quotes_iff {text : String} (h : token ∈ tokenize text) :
    (∃ literal, token.text.toList = '"' :: (literal ++ ['"'])) ↔ token.kind = .quoted ∨
      LooksQuoted token := by
  rcases cases_of_mem_tokenize h with ⟨hillegal, before, after, -, hfaults⟩ | rfl | hkind
  · rw [hfaults.exists_between_quotes_iff, LooksQuoted]
    simp [hillegal]
  · simp [LooksQuoted]
  · have hlegal : ¬LooksQuoted token := fun hlooks => hkind.ne_illegal hlooks.1
    rw [or_iff_left hlegal]
    constructor
    · -- Only quoted words start with a quote.
      rintro ⟨literal, hliteral⟩
      have hmem := hkind.mem
      rw [hliteral] at hmem
      exact eq_of_openingOf (opening_of_mem hmem).symm (by decide)
    · intro hquoted
      have hmem := hkind.mem
      rw [hquoted] at hmem
      obtain ⟨inside, hinside, -⟩ := mem_quoted.mp hmem
      exact ⟨inside, hinside⟩

end Lexer

namespace Statement

open Lexer (tokenize LooksQuoted)

variable {unit text : String} {token : Token} {literal : List Char} {name : String}

/-- Exactly the tokens between quotes name a method. -/
theorem isSome_methodName?_iff : (methodName? token.text).isSome = true ↔
    ∃ literal, token.text.toList = '"' :: (literal ++ ['"']) := by
  rw [methodName?, Option.isSome_map, Option.isSome_iff_exists]
  exact exists_congr fun literal => unquoted?_eq_some_iff

/-- A sign in a name is one of the text between quotes. -/
theorem IsNameOf.mem {d : Char} (h : IsNameOf literal name) (hd : Text.IsSign d)
    (hmem : d ∈ name.toList) : d ∈ literal := by
  have hsmall : d ∈ (Text.lower (String.ofList literal)).toList := by
    rcases h with h | ⟨-, h⟩
    · rw [h]
      exact List.mem_append_left _ hmem
    · rwa [h]
  rw [hd.mem_lower_iff] at hsmall
  simpa using hsmall

theorem isSign_return : Text.IsSign '\r' := ⟨by decide, by decide, by decide⟩

theorem isSign_feed : Text.IsSign '\n' := ⟨by decide, by decide, by decide⟩

/-- A carriage return at the end of a name stays there: what comes before it is no suffix. -/
theorem IsNameOf.return_mem {inside : List Char} (h : IsNameOf (inside ++ ['\r']) name) :
    '\r' ∈ name.toList := by
  obtain ⟨front, hfront⟩ := isSign_return.exists_lowerAfter_concat inside []
  have hsmall : (Text.lower (String.ofList (inside ++ ['\r']))).toList = front ++ ['\r'] := by
    rw [Text.lower]
    simpa using hfront
  rw [IsNameOf, hsmall] at h
  rcases h with h | ⟨-, h⟩
  · -- A name with the suffix ends with a letter.
    have hlast := congrArg List.getLast? h
    rw [List.getLast?_concat, List.getLast?_append_of_ne_nil _ (by decide)] at hlast
    exact absurd hlast (by decide)
  · rw [← h]
    exact List.mem_append_right _ List.mem_cons_self

/-- A quoted token gives a name without line ends. -/
theorem lineEnds_of_quoted (hkind : Lexer.IsKindOf token.text.toList .quoted)
    (hliteral : token.text.toList = '"' :: (literal ++ ['"'])) (hname : IsNameOf literal name) :
    '\n' ∉ name.toList ∧ '\r' ∉ name.toList := by
  obtain ⟨inside, hinside, hquotable⟩ := Lexer.mem_quoted.mp hkind.mem
  obtain rfl : literal = inside := by
    rw [hliteral] at hinside
    exact List.append_cancel_right (List.cons.inj hinside).2
  constructor
  · intro hfeed
    exact absurd (hquotable _ (hname.mem isSign_feed hfeed)) (by decide)
  · intro hreturn
    exact absurd (hquotable _ (hname.mem isSign_return hreturn)) (by decide)

/-- A token that only looks quoted gives a name with a carriage return. -/
theorem lineEnds_of_looksQuoted {after : List Char} (hfaults : Lexer.Faults after token.text.toList)
    (hliteral : token.text.toList = '"' :: (literal ++ ['"'])) (hname : IsNameOf literal name) :
    '\n' ∉ name.toList ∧ '\r' ∈ name.toList := by
  obtain ⟨inside, hinside⟩ := hfaults.exists_between_quotes_iff.mp ⟨literal, hliteral⟩
  obtain rfl : literal = inside ++ ['\r'] := by
    rw [hliteral, ← List.singleton_append (l := ['"']), ← List.append_assoc] at hinside
    exact List.append_cancel_right (List.cons.inj hinside).2
  refine ⟨fun hfeed => hfaults.feed_notMem ?_, hname.return_mem⟩
  rw [hliteral]
  exact List.mem_cons_of_mem _ (List.mem_append_left _ (hname.mem isSign_feed hfeed))

/-- A name has a carriage return if and only if it comes from a token that is not quoted. -/
theorem lineEnds_of_name (htoken : token ∈ tokenize text)
    (hliteral : token.text.toList = '"' :: (literal ++ ['"'])) (hname : IsNameOf literal name) :
    '\n' ∉ name.toList ∧
      (token.kind = .quoted ∧ '\r' ∉ name.toList ∨ LooksQuoted token ∧ '\r' ∈ name.toList) := by
  rcases (Lexer.exists_between_quotes_iff htoken).mp ⟨literal, hliteral⟩ with hquoted | hlooks
  -- A quoted token is neither illegal nor the end of the text.
  · rcases Lexer.cases_of_mem_tokenize htoken with ⟨hillegal, -⟩ | rfl | hkind
    · rw [hquoted] at hillegal
      cases hillegal
    · cases hquoted
    · rw [hquoted] at hkind
      obtain ⟨hfeed, hreturn⟩ := lineEnds_of_quoted hkind hliteral hname
      exact ⟨hfeed, .inl ⟨hquoted, hreturn⟩⟩
  · rcases Lexer.cases_of_mem_tokenize htoken with ⟨-, before, after, -, hfaults⟩ | rfl | hkind
    · obtain ⟨hfeed, hreturn⟩ := lineEnds_of_looksQuoted hfaults hliteral hname
      exact ⟨hfeed, .inr ⟨hlooks, hreturn⟩⟩
    · cases hlooks.1
    · exact absurd hlooks.1 hkind.ne_illegal

/-- A token that looks quoted has a carriage return without a line feed. -/
theorem exists_lone_return_of_looksQuoted (htoken : token ∈ tokenize text) (h : LooksQuoted token) :
    ∃ before after, text.toList = before ++ '\r' :: after ∧ after.head? ≠ some '\n' := by
  rcases Lexer.cases_of_mem_tokenize htoken with ⟨-, before, after, htext, hfaults⟩ | rfl | hkind
  · obtain ⟨inside, hinside⟩ := h.2
    have hreturn : '\r' ∈ token.text.toList := by simp [hinside]
    obtain ⟨front, behind, hword, hend⟩ := hfaults.exists_lone_return hreturn
    exact ⟨before ++ front, behind, by rw [htext, List.append_assoc, hword, List.append_assoc],
      hend⟩
  · cases h.1
  · exact absurd h.1 hkind.ne_illegal

/-- Where the names of methods come from. -/
structure TargetsConstant (unit text : String) : Prop where
  /-- A token names a method if it is quoted or looks like it. -/
  isSome_iff : ∀ token ∈ tokenize text,
    (methodName? token.text).isSome = true ↔ token.kind = .quoted ∨ LooksQuoted token
  /-- A name in the result is that of a token in the fourth place of a run. It has no line feed, and
  it has a carriage return if and only if the token is not quoted. -/
  origin : ∀ names, (callsOfText tokenize unit text).outcome = .ok names → ∀ name ∈ names,
    ∃ statement ∈ ofTokens (tokenize text), ∃ target ∈ tokenize text,
      statement.run[3]? = some target ∧ methodName? target.text = some name ∧ '\n' ∉ name.toList ∧
      (target.kind = .quoted ∧ '\r' ∉ name.toList ∨ LooksQuoted target ∧ '\r' ∈ name.toList)
  /-- Only quoted tokens name methods in exactly those texts in which no other token looks like
  one. -/
  constant_iff :
    (∀ token ∈ tokenize text, (methodName? token.text).isSome = true ↔ token.kind = .quoted) ↔
      ∀ token ∈ tokenize text, ¬LooksQuoted token
  /-- This includes all texts in which every carriage return has its line feed. -/
  constant_of_lines :
    (∀ before after, text.toList = before ++ '\r' :: after → after.head? = some '\n') →
      ∀ token ∈ tokenize text, ¬LooksQuoted token

/-- The name of a method comes from a quoted token, except where an illegal token looks like one. -/
theorem targets_constant_unless_looksQuoted (unit text : String) : TargetsConstant unit text := by
  have hsome : ∀ token ∈ tokenize text,
      (methodName? token.text).isSome = true ↔ token.kind = .quoted ∨ LooksQuoted token := by
    intro token htoken
    rw [isSome_methodName?_iff, Lexer.exists_between_quotes_iff htoken]
  refine ⟨hsome, ?_, ⟨?_, ?_⟩, ?_⟩
  -- Every name comes from the fourth token of a statement.
  · intro names hnames name hname
    obtain ⟨statement, hstatement, action, target, literal, -, -, htarget, hliteral, hnamed⟩ :=
      exists_names_of_mem hnames hname
    have hmem : target ∈ tokenize text := mem_of_mem_run hstatement (List.mem_of_getElem? htarget)
    exact ⟨statement, hstatement, target, hmem, htarget,
      methodName?_eq_some_iff.mpr ⟨literal, hliteral, hnamed⟩,
      lineEnds_of_name hmem hliteral hnamed⟩
  · intro hconstant token htoken hlooks
    have hquoted := (hconstant token htoken).mp ((hsome token htoken).mpr (.inr hlooks))
    rw [hlooks.1] at hquoted
    cases hquoted
  · intro hnone token htoken
    rw [hsome token htoken, or_iff_left (hnone token htoken)]
  -- A token that only looks quoted needs a carriage return on its own.
  · intro hlines token htoken hlooks
    obtain ⟨before, after, htext, hend⟩ := exists_lone_return_of_looksQuoted htoken hlooks
    exact hend (hlines before after htext)

/-- A call of a method whose name is cut in two by a carriage return. -/
def sampleReturn : String := "execute method \"a\r\""

/-- The quotes with a carriage return between them are one illegal token. -/
theorem tokenize_sampleReturn : tokenize sampleReturn = [⟨.execute, "execute"⟩, ⟨.blank, " "⟩,
    ⟨.method, "method"⟩, ⟨.blank, " "⟩, ⟨.illegal, "\"a\r\""⟩, ⟨.endOfText, ""⟩] := by
  decide +kernel

/-- An illegal token can name a method, and the name has a carriage return in it. -/
theorem illegal_target_sampleReturn :
    (callsOfText tokenize "caller" sampleReturn).outcome = .ok ["a\r"] ∧
      ¬∀ token ∈ tokenize sampleReturn, (methodName? token.text).isSome = true ↔
        token.kind = .quoted := by
  rw [callsOfText, tokenize_sampleReturn]
  refine ⟨rfl, fun hconstant => ?_⟩
  have hquoted := (hconstant ⟨.illegal, "\"a\r\""⟩ (by simp)).mp (by decide +kernel)
  cases hquoted

end Statement

end CallMap
