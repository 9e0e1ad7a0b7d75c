import Mathlib.Data.List.Chain
import CallMap.Proofs.LongestMatch

/-!
# The tokens of a text

The tokens of a text are what is left when every token is the longest word that fits and
neighbouring faults are put together. Nothing else is needed to find them: two lists of tokens with
these properties and the same text are equal.

* `Lexer.Faults`: an illegal token, one fault after the other.
* `Lexer.Munched`: tokens as they come about, from the end of the text to its start.
* `Lexer.MaximalMunch`: the same tokens, by what holds at each of them.
* `Lexer.tokenize_eq_iff_maximalMunch`: the tokens of a text are the only ones of this kind.
-/

namespace CallMap.Lexer

variable {after word text : List Char} {kind : TokenKind} {token : Token}
  {tokens others : List Token}

/-- The text of a list of tokens. -/
def chars (tokens : List Token) : List Char :=
  tokens.flatMap fun token => token.text.toList

@[simp]
theorem chars_nil : chars [] = [] := rfl

@[simp]
theorem chars_cons (token : Token) (tokens : List Token) :
    chars (token :: tokens) = token.text.toList ++ chars tokens :=
  List.flatMap_cons

/-- The text of tokens that follow one another is put together. -/
@[simp]
theorem chars_append (tokens others : List Token) :
    chars (tokens ++ others) = chars tokens ++ chars others :=
  List.flatMap_append

theorem chars_ofList (kind : TokenKind) (word : List Char) (tokens : List Token) :
    chars (⟨kind, String.ofList word⟩ :: tokens) = word ++ chars tokens := by
  rw [chars_cons, String.toList_ofList]

/-! ### Faults in a row -/

/-- One or more faults in a row, in a text that goes on with `after`. -/
inductive Faults (after : List Char) : List Char → Prop
  | last {word : List Char} (hfault : IsFault after word) : Faults after word
  | more {word others : List Char} (hfault : IsFault (others ++ after) word)
      (hothers : Faults after others) :
    Faults after (word ++ others)

/-- The first of several faults in a row. -/
theorem Faults.exists_first (h : Faults after word) :
    ∃ first others, word = first ++ others ∧ IsFault (others ++ after) first := by
  cases h with
  | last hfault => exact ⟨word, [], (List.append_nil word).symm, hfault⟩
  | more hfault => exact ⟨_, _, rfl, hfault⟩

/-- Text without a token is not empty. -/
theorem Faults.ne_nil (h : Faults after word) : word ≠ [] := by
  obtain ⟨first, others, rfl, hfault⟩ := h.exists_first
  exact List.append_ne_nil_of_left_ne_nil hfault.ne_nil others

/-- No pattern fits at a place without a token. -/
theorem Faults.not_fits {other : List Char} (h : Faults after word) :
    ¬Fits (word ++ after) other := by
  obtain ⟨first, others, rfl, hfault⟩ := h.exists_first
  rw [List.append_assoc]
  exact hfault.not_fits

/-- A line feed is part of no fault. -/
theorem Faults.feed_notMem (h : Faults after word) : '\n' ∉ word := by
  have hfault {after word : List Char} (h : IsFault after word) : '\n' ∉ word := by
    cases h with
    | openQuote hinside =>
      rw [List.mem_cons, not_or]
      exact ⟨by decide, fun hmem => absurd (hinside _ hmem) (by decide)⟩
    | loneReturn => decide
  induction h with
  | last h => exact hfault h
  | more h _ ih => exact List.mem_append.not.mpr (not_or.mpr ⟨hfault h, ih⟩)

/-- All faults of two texts that agree agree, if they go on as long as there are any. -/
theorem Faults.unique {other more : List Char} (h : Faults after word) (hother : Faults more other)
    (hafter : ∀ word others, Faults others word → word ++ others ≠ after)
    (hmore : ∀ word others, Faults others word → word ++ others ≠ more)
    (htext : other ++ more = word ++ after) : other = word := by
  -- The faults are compared from the left; the row that ends first would have to go on.
  induction h generalizing other with
  | last hfault =>
    cases hother with
    | last hfault' => exact (hfault.unique hfault' htext).1
    | @more first others hfault' hothers =>
      rw [List.append_assoc] at htext
      exact absurd (hfault.unique hfault' htext).2 (hafter others more hothers)
  | @more word others hfault hothers ih =>
    rw [List.append_assoc] at htext
    cases hother with
    | last hfault' => exact absurd (hfault.unique hfault' htext).2.symm (hmore others after hothers)
    | @more first others' hfault' hothers' =>
      rw [List.append_assoc] at htext
      obtain ⟨rfl, hrest⟩ := hfault.unique hfault' htext
      rw [ih hothers' hrest]

/-! ### Tokens from the end of a text -/

/-- Tokens as they come about when a text is read from its end: before the others comes the longest
word that fits, or as many faults as there are. -/
inductive Munched : List Token → Prop
  | done : Munched [⟨.endOfText, ""⟩]
  | token {word : List Char} {kind : TokenKind} {tokens : List Token}
      (hlongest : IsLongest (word ++ chars tokens) word) (hkind : IsKindOf word kind)
      (htokens : Munched tokens) : Munched (⟨kind, String.ofList word⟩ :: tokens)
  | faults {word : List Char} {tokens : List Token} (hfaults : Faults (chars tokens) word)
      (hnext : ∀ next ∈ tokens.head?, next.kind ≠ .illegal) (htokens : Munched tokens) :
      Munched (⟨.illegal, String.ofList word⟩ :: tokens)

/-- No pattern stands for illegal text. -/
theorem IsKindOf.ne_illegal (h : IsKindOf word kind) : kind ≠ .illegal := by
  rintro rfl
  exact Language.notMem_zero _ h.mem

theorem IsKindOf.ne_endOfText (h : IsKindOf word kind) : kind ≠ .endOfText := by
  rintro rfl
  exact Language.notMem_zero _ h.mem

/-- One step of the lexer: what is cut off a text is put before the tokens of the rest. -/
theorem Munched.join (h : Munched tokens) (hcut : IsCut (chars tokens) word kind) :
    Munched (join ⟨kind, String.ofList word⟩ tokens) ∧
      chars (join ⟨kind, String.ofList word⟩ tokens) = word ++ chars tokens := by
  cases hcut with
  | token hlongest hkind =>
    rw [join_of_ne hkind.ne_illegal]
    exact ⟨.token hlongest hkind h, by simp⟩
  | fault hfault =>
    cases h with
    | done => exact ⟨.faults (.last hfault) (by simp) .done, by simp [Lexer.join]⟩
    | token hlongest hkind htokens =>
      have hnext := hkind.ne_illegal
      rw [Lexer.join, if_neg fun hboth => hnext hboth.2]
      exact ⟨.faults (.last hfault) (by simpa using hnext) (.token hlongest hkind htokens), by simp⟩
    | @faults others tokens hfaults hnext htokens =>
      -- The fault joins those that follow it.
      rw [Lexer.join, if_pos ⟨rfl, rfl⟩, ← String.ofList_append]
      rw [chars_ofList] at hfault
      exact ⟨.faults (.more hfault hfaults) hnext htokens, by simp⟩

/-- A whole run of the lexer. -/
theorem munched_scan (text : List Char) :
    Munched ((scan 0 text).foldr join [⟨.endOfText, ""⟩]) ∧
      chars ((scan 0 text).foldr join [⟨.endOfText, ""⟩]) = text := by
  -- The induction goes from token to token, so it is on the length of the text.
  induction hlength : text.length using Nat.strong_induction_on generalizing text with
  | _ length ih =>
    cases text with
    | nil => exact ⟨.done, rfl⟩
    | cons c rest =>
      have hcut := isCut_lead c rest
      rw [scan, List.foldr_cons, scan_eq_drop]
      generalize lead c rest = token at hcut
      obtain ⟨kind, count⟩ := token
      have hshorter : (rest.drop count).length < length := by
        rw [List.length_cons] at hlength
        rw [List.length_drop]
        omega
      obtain ⟨htokens, hchars⟩ := ih _ hshorter (rest.drop count) rfl
      rw [← hchars] at hcut
      obtain ⟨hjoined, htext⟩ := htokens.join hcut
      refine ⟨hjoined, htext.trans ?_⟩
      rw [hchars, List.cons_append, List.take_append_drop]

/-- The tokens of a text are cut one after the other, each as long as possible. -/
theorem munched_tokenize (text : String) : Munched (tokenize text) := by
  rw [tokenize_eq]
  exact (munched_scan text.toList).1

/-- The tokens of a text spell the text. -/
theorem chars_tokenize (text : String) : chars (tokenize text) = text.toList := by
  rw [tokenize_eq]
  exact (munched_scan text.toList).2

/-! ### Only one list of tokens -/

/-- Where the next token is not illegal, there is no fault. -/
theorem Munched.chars_ne (h : Munched tokens)
    (hnext : ∀ next ∈ tokens.head?, next.kind ≠ .illegal) :
    ∀ word others, Faults others word → word ++ others ≠ chars tokens := by
  rintro word others hfaults htext
  cases h with
  | done => exact hfaults.ne_nil (List.append_eq_nil_iff.mp htext).1
  | token hlongest =>
    rw [chars_ofList] at htext
    exact hfaults.not_fits (htext ▸ hlongest.fits)
  | faults => exact hnext _ rfl rfl

/-- A text is cut in only one way. -/
theorem Munched.unique (h : Munched tokens) (hothers : Munched others)
    (htext : chars others = chars tokens) : others = tokens := by
  -- At each place either both lists have the longest word or both have all faults, since where a
  -- word fits there is no fault.
  induction h generalizing others with
  | done =>
    cases hothers with
    | done => rfl
    | token hlongest hkind =>
      rw [chars_ofList] at htext
      exact absurd (List.append_eq_nil_iff.mp htext).1 (ne_nil_of_mem hkind.mem)
    | faults hfaults =>
      rw [chars_ofList] at htext
      exact absurd (List.append_eq_nil_iff.mp htext).1 hfaults.ne_nil
  | @token word kind tokens hlongest hkind htokens ih =>
    rw [chars_ofList] at htext
    cases hothers with
    | done => exact absurd (List.append_eq_nil_iff.mp htext.symm).1 (ne_nil_of_mem hkind.mem)
    | token hlongest' hkind' hothers =>
      rw [chars_ofList] at htext
      rw [htext] at hlongest'
      obtain rfl := hlongest.unique hlongest'
      rw [hkind.unique hkind', ih hothers (List.append_cancel_left htext)]
    | faults hfaults =>
      rw [chars_ofList] at htext
      exact absurd (htext ▸ hlongest.fits) hfaults.not_fits
  | @faults word tokens hfaults hnext htokens ih =>
    rw [chars_ofList] at htext
    cases hothers with
    | done => exact absurd (List.append_eq_nil_iff.mp htext.symm).1 hfaults.ne_nil
    | token hlongest' =>
      rw [chars_ofList] at htext
      exact absurd (htext ▸ hlongest'.fits) hfaults.not_fits
    | faults hfaults' hnext' hothers =>
      rw [chars_ofList] at htext
      obtain rfl := hfaults.unique hfaults' (htokens.chars_ne hnext) (hothers.chars_ne hnext') htext
      rw [ih hothers (List.append_cancel_left htext)]

/-! ### What holds at each token -/

/-- The tokens of a text by the longest match. At each token, the text that is left is that of the
token and of those after it. -/
structure MaximalMunch (text : List Char) (tokens : List Token) : Prop where
  /-- Nothing of the text is lost or added. -/
  chars_eq : chars tokens = text
  /-- The last token stands for the end of the text, no other does, and all others have a text. -/
  ends : ∃ inner, tokens = inner ++ [⟨.endOfText, ""⟩] ∧
    ∀ token ∈ inner, token.kind ≠ .endOfText ∧ token.text ≠ ""
  /-- Illegal tokens are not neighbours. -/
  apart : tokens.IsChain fun first second => ¬(first.kind = .illegal ∧ second.kind = .illegal)
  /-- A token is the longest word that fits, and has the kind of that word. -/
  longest : ∀ token after, token :: after <:+ tokens → token.kind ≠ .illegal →
    token.kind ≠ .endOfText → IsLongest (chars (token :: after)) token.text.toList ∧
    IsKindOf token.text.toList token.kind
  /-- An illegal token consists of faults. -/
  faults : ∀ token after, token :: after <:+ tokens → token.kind = .illegal →
    Faults (chars after) token.text.toList

namespace MaximalMunch

theorem done : MaximalMunch [] [⟨.endOfText, ""⟩] := by
  refine ⟨rfl, ⟨[], rfl, by simp⟩, .singleton _, ?_, ?_⟩
  · intro token after hsuffix _ hkind
    obtain ⟨rfl, -⟩ := List.cons.inj ((List.suffix_cons_iff.mp hsuffix).resolve_right (by simp))
    exact absurd rfl hkind
  · intro token after hsuffix hkind
    obtain ⟨rfl, -⟩ := List.cons.inj ((List.suffix_cons_iff.mp hsuffix).resolve_right (by simp))
    cases hkind

/-- What holds at a token and at those after it holds at all of them. -/
theorem cons (h : MaximalMunch (chars tokens) tokens) (hend : token.kind ≠ .endOfText)
    (htext : token.text ≠ "")
    (hnext : token.kind = .illegal → ∀ next ∈ tokens.head?, next.kind ≠ .illegal)
    (hlongest : token.kind ≠ .illegal →
      IsLongest (chars (token :: tokens)) token.text.toList ∧ IsKindOf token.text.toList token.kind)
    (hfaults : token.kind = .illegal → Faults (chars tokens) token.text.toList) :
    MaximalMunch (chars (token :: tokens)) (token :: tokens) := by
  obtain ⟨inner, htokens, hinner⟩ := h.ends
  refine ⟨rfl, ⟨token :: inner, by rw [htokens, List.cons_append], ?_⟩, ?_, ?_, ?_⟩
  · exact List.forall_mem_cons.mpr ⟨⟨hend, htext⟩, hinner⟩
  · rw [List.isChain_cons]
    refine ⟨fun next hmem hboth => hnext hboth.1 next hmem hboth.2, h.apart⟩
  -- A suffix that starts with a token is the whole list or a suffix of the rest.
  · intro other after hsuffix hlegal hother
    rcases List.suffix_cons_iff.mp hsuffix with heq | hsuffix
    · obtain ⟨rfl, rfl⟩ := List.cons.inj heq
      exact hlongest hlegal
    · exact h.longest other after hsuffix hlegal hother
  · intro other after hsuffix hillegal
    rcases List.suffix_cons_iff.mp hsuffix with heq | hsuffix
    · obtain ⟨rfl, rfl⟩ := List.cons.inj heq
      exact hfaults hillegal
    · exact h.faults other after hsuffix hillegal

/-- What holds at all tokens holds at those after the first. -/
theorem tail (h : MaximalMunch text (token :: tokens)) (htokens : tokens ≠ []) :
    MaximalMunch (chars tokens) tokens := by
  obtain ⟨inner, hinner, hall⟩ := h.ends
  refine ⟨rfl, ?_, h.apart.tail, ?_, ?_⟩
  · cases inner with
    | nil => exact absurd (List.cons.inj hinner).2 htokens
    | cons first inner =>
      exact ⟨inner, (List.cons.inj hinner).2, (List.forall_mem_cons.mp hall).2⟩
  · intro other after hsuffix
    exact h.longest other after (hsuffix.trans (List.suffix_cons _ _))
  · intro other after hsuffix
    exact h.faults other after (hsuffix.trans (List.suffix_cons _ _))

end MaximalMunch

theorem ofList_ne_empty (h : word ≠ []) : String.ofList word ≠ "" := by
  intro hempty
  exact h (by simpa using congrArg String.toList hempty)

/-- Tokens that are cut one after the other are the maximal munch of their text. -/
theorem Munched.maximalMunch (h : Munched tokens) : MaximalMunch (chars tokens) tokens := by
  induction h with
  | done => exact .done
  -- A token: it is not illegal, and it is longest by assumption.
  | token hlongest hkind htokens ih =>
    refine ih.cons hkind.ne_endOfText (ofList_ne_empty (ne_nil_of_mem hkind.mem)) ?_ ?_ ?_
    · intro hillegal
      exact absurd hillegal hkind.ne_illegal
    · intro _
      rw [chars_cons]
      simp only [String.toList_ofList]
      exact ⟨hlongest, hkind⟩
    · intro hillegal
      exact absurd hillegal hkind.ne_illegal
  -- Illegal text: what follows is not illegal, so both stay apart.
  | faults hfaults hnext htokens ih =>
    refine ih.cons (by simp) (ofList_ne_empty hfaults.ne_nil) (fun _ => hnext) ?_ ?_
    · intro hlegal
      exact absurd rfl hlegal
    · intro _
      simpa only [String.toList_ofList] using hfaults

/-- The maximal munch of a text is cut token by token. -/
theorem MaximalMunch.munched (h : MaximalMunch text tokens) : Munched tokens := by
  -- The text of the tokens after the first is their own, so the induction is for all texts.
  induction tokens generalizing text with
  | nil =>
    obtain ⟨inner, hinner, -⟩ := h.ends
    exact absurd hinner.symm (by simp)
  | cons token tokens ih =>
    obtain ⟨inner, hinner, hall⟩ := h.ends
    cases inner with
    | nil =>
      obtain ⟨rfl, rfl⟩ := List.cons.inj hinner
      exact .done
    | cons first inner =>
      obtain ⟨rfl, htokens⟩ := List.cons.inj hinner
      have hrest : Munched tokens := ih (h.tail (by simp [htokens]))
      have hself : token = ⟨token.kind, String.ofList token.text.toList⟩ := by
        rw [String.ofList_toList]
      rw [hself]
      by_cases hillegal : token.kind = .illegal
      · rw [hillegal]
        refine .faults (h.faults token tokens List.suffix_rfl hillegal) ?_ hrest
        intro next hnext hboth
        exact (List.isChain_cons.mp h.apart).1 next hnext ⟨hillegal, hboth⟩
      · have hend := (hall token List.mem_cons_self).1
        obtain ⟨hlongest, hkind⟩ := h.longest token tokens List.suffix_rfl hillegal hend
        exact .token (by simpa using hlongest) hkind hrest

/-- The lexer computes the maximal munch. -/
theorem maximalMunch_tokenize (text : String) : MaximalMunch text.toList (tokenize text) := by
  have h := (munched_tokenize text).maximalMunch
  rwa [chars_tokenize] at h

/-- The tokens of a text are those that the longest match at each place gives, and no others;
illegal ones stay within their line. -/
theorem tokenize_eq_iff_maximalMunch (text : String) :
    (∀ tokens, tokenize text = tokens ↔ MaximalMunch text.toList tokens) ∧
      ∀ token ∈ tokenize text, token.kind = .illegal → '\n' ∉ token.text.toList := by
  refine ⟨fun tokens => ⟨?_, ?_⟩, ?_⟩
  · rintro rfl
    exact maximalMunch_tokenize text
  · intro h
    refine h.munched.unique (munched_tokenize text) ?_
    rw [chars_tokenize, h.chars_eq]
  · intro token htoken hillegal
    obtain ⟨before, after, htokens⟩ := List.append_of_mem htoken
    have hfaults := (maximalMunch_tokenize text).faults token after ⟨before, htokens.symm⟩ hillegal
    exact hfaults.feed_notMem

end CallMap.Lexer
