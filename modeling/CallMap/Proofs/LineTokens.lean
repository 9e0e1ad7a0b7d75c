import Mathlib.Data.List.Basic
import Mathlib.Data.List.TakeWhile
import CallMap.Proofs.Extraction
import CallMap.Proofs.SmallLetters
import CallMap.Proofs.TokenLoop

/-!
# Statements line by line

No token goes on after the end of its line, so what a line says does not depend on the lines around
it. In particular a line that starts with a call of a method by name is such a call, whatever else
the text holds.

* `Lexer.scan_line`: the tokens of a line, its end and what comes after.
* `Lexer.scan_call`: the tokens of a call.
* `Statement.mem_of_callsOfText`: a call at the start of a line is among the calls of the text.
-/

namespace CallMap

namespace Lexer

open Text (SameButCase)

variable {c stop : Char} {rest more text lineEnd before after : List Char}
  {kind keyword : TokenKind}

/-! ### One token -/

theorem length_takeWhile_le (p : Char → Bool) (text : List Char) :
    (text.takeWhile p).length ≤ text.length :=
  (List.takeWhile_prefix p).length_le

/-- Taking stops at the first character that does not fit. -/
theorem takeWhile_append_cons {p : Char → Bool} (htext : ∀ t ∈ text, p t = true) (hc : p c = false)
    (rest : List Char) : (text ++ c :: rest).takeWhile p = text := by
  rw [List.takeWhile_append_of_pos htext, List.takeWhile_cons, if_neg (by simp [hc]),
    List.append_nil]

/-- Taking elements comes to a stop where one is not taken, whatever comes after it. -/
theorem takeWhile_append_stop {α : Type} {p : α → Bool} {stop : α} (h : p stop = false)
    (text more : List α) : (text ++ stop :: more).takeWhile p = text.takeWhile p := by
  induction text with
  | nil => simp [h]
  | cons c rest ih => rw [List.cons_append, List.takeWhile_cons, List.takeWhile_cons, ih]

/-- A quoted token does not look past a character that ends it. -/
theorem leadQuote_stop (hquotable : isQuotable stop = false) (hquote : stop ≠ '"')
    (rest more : List Char) : leadQuote (rest ++ stop :: more) = leadQuote rest := by
  have hhead (left : List Char) : (left ++ stop :: more).head? = some '"' ↔
      left.head? = some '"' := by
    cases left with
    | nil => simp [hquote]
    | cons => rfl
  unfold leadQuote
  rw [takeWhile_append_stop hquotable]
  dsimp only
  rw [List.drop_append_of_le_length (length_takeWhile_le isQuotable rest)]
  simp only [hhead]

/-- A number does not look past a character that ends it. -/
theorem leadNumber_stop (hdigit : stop.isDigit = false) (hpoint : stop ≠ '.')
    (rest more : List Char) : leadNumber (rest ++ stop :: more) = leadNumber rest := by
  unfold leadNumber
  rw [takeWhile_append_stop hdigit]
  dsimp only
  rw [List.drop_append_of_le_length (length_takeWhile_le Char.isDigit rest)]
  cases rest.drop (rest.takeWhile Char.isDigit).length with
  | nil =>
    -- The stop is no point, so the number is over.
    rw [List.nil_append]
    split
    next heq => exact absurd (List.cons.inj heq).1 hpoint
    next => rfl
  | cons next places =>
    rw [List.cons_append]
    by_cases hnext : next = '.'
    · subst hnext
      simp only [takeWhile_append_stop hdigit]
    · split
      next heq => exact absurd (List.cons.inj heq).1 hnext
      next =>
        split
        next heq => exact absurd (List.cons.inj heq).1 hnext
        next => rfl

/-- A keyword is looked for in the folded text. -/
theorem startsWith_eq_isPrefixOf (word text : List Char) :
    startsWith word text = word.isPrefixOf (text.map fold) := by
  induction word generalizing text with
  | nil => rfl
  | cons letter word ih =>
    cases text with
    | nil => rfl
    | cons c rest => rw [startsWith, List.map_cons, List.isPrefixOf_cons_cons, ih, Bool.beq_comm]

/-- Keywords are spelled with small letters. -/
theorem spelling_letters : ∀ keyword ∈ keywords, spelling keyword ≠ [] ∧
    ∀ letter ∈ spelling keyword, letter.isLower = true := by
  have hall : ∀ keyword ∈ keywords, spelling keyword ≠ [] ∧
      (spelling keyword).all Char.isLower = true := by
    decide +kernel
  intro keyword hkeyword
  obtain ⟨hne, hletters⟩ := hall keyword hkeyword
  exact ⟨hne, List.all_eq_true.mp hletters⟩

/-- Keywords are spelt with small letters only. -/
theorem notMem_spelling (h : c.isLower = false) : ∀ keyword ∈ keywords, c ∉ spelling keyword := by
  intro keyword hkeyword hc
  exact absurd ((spelling_letters keyword hkeyword).2 c hc) (by simp [h])

/-- A character that is part of no keyword, and what comes after it, play no part. -/
theorem keyword?_stop (hfold : (fold stop).isLower = false) (text more : List Char) :
    keyword? (text ++ stop :: more) = keyword? text := by
  rw [keyword?, keyword?, ← List.head?_filter, ← List.head?_filter]
  refine congrArg _ (List.filter_congr fun keyword hkeyword => ?_)
  rw [startsWith_eq_isPrefixOf, startsWith_eq_isPrefixOf, Bool.eq_iff_iff,
    List.isPrefixOf_iff_prefix, List.isPrefixOf_iff_prefix, List.map_append, List.map_cons]
  constructor
  · -- A keyword that went on after the text would contain the character.
    intro hstart
    rcases List.prefix_or_prefix_of_prefix hstart (List.prefix_append _ _) with htext |
      ⟨others, hspelling⟩
    · exact htext
    · have hletters := notMem_spelling hfold keyword hkeyword
      rw [← hspelling] at hstart hletters ⊢
      rw [List.prefix_append_right_inj] at hstart
      cases others with
      | nil => simp
      | cons letter others =>
        obtain rfl := (List.cons_prefix_cons.mp hstart).1
        exact absurd (by simp) hletters
  · intro hstart
    exact hstart.trans (List.prefix_append _ _)

/-- A word does not look past a character that ends it. -/
theorem leadWord_stop (hfold : (fold stop).isLower = false) (hpart : isWordPart stop = false)
    (rest more : List Char) : leadWord c (rest ++ stop :: more) = leadWord c rest := by
  have hkeyword : keyword? (c :: (rest ++ stop :: more)) = keyword? (c :: rest) :=
    keyword?_stop hfold (c :: rest) more
  unfold leadWord
  rw [hkeyword, takeWhile_append_stop hpart]

/-- The token at the start of a line does not depend on what comes after the line. Only a line feed
after a carriage return belongs to the same token. -/
theorem lead_stop (hstop : stop = '\r' ∨ stop = '\n') (hpair : c = '\r' → rest = [] → stop ≠ '\n')
    (more : List Char) : lead c (rest ++ stop :: more) = lead c rest := by
  -- What a line end is not: no token goes on over it.
  have hall : isQuotable stop = false ∧ stop ≠ '"' ∧ stop.isDigit = false ∧ stop ≠ '.' ∧
      (fold stop).isLower = false ∧ isWordPart stop = false ∧ isSpace stop = false := by
    rcases hstop with rfl | rfl <;> decide
  obtain ⟨hquotable, hquote, hdigit, hpoint, hfold, hpart, hspace⟩ := hall
  -- Only a line end of two characters could be torn apart.
  have hfeed (hc : c = '\r') : (rest ++ stop :: more).head? = some '\n' ↔
      rest.head? = some '\n' := by
    cases rest with
    | nil => simp [hpair hc rfl]
    | cons => rfl
  unfold lead
  rw [leadQuote_stop hquotable hquote, leadNumber_stop hdigit hpoint, leadWord_stop hfold hpart,
    takeWhile_append_stop hspace]
  by_cases hc : c = '\r'
  · simp only [hfeed hc]
  · simp only [hc, if_false]

/-- A keyword that is found fits into the text. -/
theorem length_spelling_le (h : keyword? text = some keyword) :
    (spelling keyword).length ≤ text.length := by
  have hstarts := List.find?_some h
  rw [startsWith_eq_isPrefixOf, List.isPrefixOf_iff_prefix] at hstarts
  simpa using hstarts.length_le

/-- A quoted token ends within the text. -/
theorem leadQuote_le (rest : List Char) : (leadQuote rest).2 ≤ rest.length := by
  have hinside := length_takeWhile_le isQuotable rest
  unfold leadQuote
  dsimp only
  split
  next hclosed =>
    -- There is a closing quote, so something is left after the characters inside.
    have hne : rest.drop (rest.takeWhile isQuotable).length ≠ [] := by
      intro hnil
      simp [hnil] at hclosed
    have hlt := List.length_pos_iff.mpr hne
    rw [List.length_drop] at hlt
    dsimp only
    omega
  next => exact hinside

/-- A number ends within the text. -/
theorem leadNumber_le (rest : List Char) : (leadNumber rest).2 ≤ rest.length := by
  have hwhole := length_takeWhile_le Char.isDigit rest
  unfold leadNumber
  dsimp only
  split
  next places hpoint =>
    have hplaces := length_takeWhile_le Char.isDigit places
    have hlength := congrArg List.length hpoint
    rw [List.length_drop, List.length_cons] at hlength
    split <;> dsimp only <;> omega
  next => exact hwhole

/-- A word ends within the text. -/
theorem leadWord_le (c : Char) (rest : List Char) : (leadWord c rest).2 ≤ rest.length := by
  have hletters := length_takeWhile_le isWordPart rest
  unfold leadWord
  dsimp only
  split
  next keyword hkeyword =>
    have hspelling := length_spelling_le hkeyword
    rw [List.length_cons] at hspelling
    split_ifs <;> dsimp only <;> omega
  next => split_ifs <;> dsimp only <;> omega

/-- A token does not go beyond the end of the text. -/
theorem lead_le (c : Char) (rest : List Char) : (lead c rest).2 ≤ rest.length := by
  unfold lead
  split_ifs with _ _ _ hfeed
  · exact leadQuote_le rest
  · exact Nat.zero_le _
  · exact List.length_pos_iff.mpr (by rintro rfl; cases hfeed)
  · exact Nat.zero_le _
  · exact length_takeWhile_le isSpace rest
  · exact leadNumber_le rest
  · exact leadWord_le c rest

/-! ### All tokens -/

/-- A text is cut after a token. -/
theorem scan_of_lead (h : lead c (rest ++ more) = (kind, rest.length)) :
    scan 0 (c :: rest ++ more) = ⟨kind, String.ofList (c :: rest)⟩ :: scan 0 more := by
  rw [List.cons_append, scan, h]
  dsimp only
  rw [scan_eq_drop rest.length, List.drop_left, List.take_left]

/-- A text consists of whole lines: it is empty or ends with a line feed. -/
def EndsLine (text : List Char) : Prop :=
  text = [] ∨ text.getLast? = some '\n'

/-- What ends a line: a line feed, or a carriage return and a line feed. A line feed after a
carriage return does not end the line on its own. -/
inductive IsLineEnd (line : List Char) : List Char → Prop
  | feed (h : line.getLast? ≠ some '\r') : IsLineEnd line ['\n']
  | returnFeed : IsLineEnd line ['\r', '\n']

/-- A text that ends a line is empty, or a line with its line end. -/
theorem EndsLine.exists_lineEnd (h : EndsLine text) :
    text = [] ∨ ∃ line lineEnd, text = line ++ lineEnd ∧ IsLineEnd line lineEnd := by
  refine h.imp_right fun hfeed => ?_
  obtain ⟨line, rfl⟩ := List.getLast?_eq_some_iff.mp hfeed
  by_cases hreturn : line.getLast? = some '\r'
  · obtain ⟨line, rfl⟩ := List.getLast?_eq_some_iff.mp hreturn
    exact ⟨line, _, List.append_assoc _ _ _, .returnFeed⟩
  · exact ⟨line, _, rfl, .feed hreturn⟩

/-- A line end stays one if the line loses characters at its start. -/
theorem IsLineEnd.drop (h : IsLineEnd text lineEnd) (count : Nat) :
    IsLineEnd (text.drop count) lineEnd := by
  cases h with
  | feed hreturn =>
    refine .feed ?_
    rw [List.getLast?_drop]
    split_ifs
    · exact nofun
    · exact hreturn
  | returnFeed => exact .returnFeed

/-- No token reaches over the end of its line. -/
theorem lead_lineEnd (h : IsLineEnd (c :: rest) lineEnd) (more : List Char) :
    lead c (rest ++ (lineEnd ++ more)) = lead c rest := by
  cases h with
  | feed hreturn =>
    refine lead_stop (.inr rfl) ?_ more
    rintro rfl rfl
    exact absurd rfl hreturn
  | returnFeed => exact lead_stop (.inl rfl) (fun _ _ => by decide) _

/-- The line end itself is one token. -/
theorem scan_lineEnd (h : IsLineEnd text lineEnd) (more : List Char) :
    scan 0 (lineEnd ++ more) = ⟨.newLine, String.ofList lineEnd⟩ :: scan 0 more := by
  cases h with
  | feed => rfl
  | returnFeed => rfl

/-- A line, its end and what comes after have their own tokens. -/
theorem scan_line (h : IsLineEnd text lineEnd) (more : List Char) :
    scan 0 (text ++ (lineEnd ++ more)) =
      scan 0 text ++ ⟨.newLine, String.ofList lineEnd⟩ :: scan 0 more := by
  -- The induction goes from token to token, so it is on the length of the line.
  induction hlength : text.length using Nat.strong_induction_on generalizing text with
  | _ length ih =>
    cases text with
    | nil => exact scan_lineEnd h more
    | cons c rest =>
      have hle := lead_le c rest
      rw [List.cons_append, scan, scan, lead_lineEnd h]
      generalize lead c rest = token at hle ⊢
      obtain ⟨kind, count⟩ := token
      dsimp only at hle ⊢
      have hshorter : (rest.drop count).length < length := by
        rw [List.length_cons] at hlength
        rw [List.length_drop]
        omega
      have hend : IsLineEnd (rest.drop count) lineEnd := h.drop (count + 1)
      rw [scan_eq_drop count, scan_eq_drop count rest, List.take_append_of_le_length hle,
        List.drop_append_of_le_length hle, ih _ hshorter hend rfl, List.cons_append]

/-- Lines before others have their own tokens. -/
theorem scan_append (h : EndsLine before) (rest : List Char) :
    scan 0 (before ++ rest) = scan 0 before ++ scan 0 rest := by
  rcases h.exists_lineEnd with rfl | ⟨line, lineEnd, rfl, hend⟩
  · rfl
  · have hbefore := scan_line hend []
    rw [List.append_nil] at hbefore
    rw [List.append_assoc, scan_line hend, hbefore, List.append_assoc]
    rfl

/-! ### Calls -/

/-- Every keyword is found as such, those included that start like a shorter one. -/
theorem find?_keywords : ∀ keyword ∈ keywords,
    (keywords.find? fun other => (spelling other).isPrefixOf (spelling keyword)) =
      some keyword := by
  decide +kernel

/-- Only letters of ASCII are small letters or have one. -/
theorem lt_of_isLower_toLower (h : c.toLower.isLower = true) : c.toNat < 0x80 := by
  by_contra hlarge
  have hlarge : 0x80 ≤ c.toNat := by omega
  rw [Text.toLower_eq_self (Nat.lt_of_lt_of_le (by decide) hlarge)] at h
  have hsmall : c.toNat ≤ 122 := (Text.toNat_of_isLower h).2
  omega

/-- An ASCII letter has one small form, also for keywords. -/
theorem fold_of_isLower (h : c.toLower.isLower = true) : fold c = c.toLower := by
  have hascii := lt_of_isLower_toLower h
  rw [fold, if_neg (by omega), if_neg (by omega)]

/-- Letters start words and nothing else. -/
theorem starts_of_isLower (h : c.toLower.isLower = true) : c ≠ '"' ∧ c ≠ '\n' ∧ c ≠ '\r' ∧
    isSpace c = false ∧ c.isDigit = false := by
  have hall : ∀ n : Fin 0x80, (Char.ofNat n).toLower.isLower = true →
      Char.ofNat n ≠ '"' ∧ Char.ofNat n ≠ '\n' ∧ Char.ofNat n ≠ '\r' ∧
        isSpace (Char.ofNat n) = false ∧ (Char.ofNat n).isDigit = false := by
    decide
  have hcode := hall ⟨c.toNat, lt_of_isLower_toLower h⟩
  rw [Char.ofNat_toNat] at hcode
  exact hcode h

/-- A letter starts a word. -/
theorem lead_of_isLower (h : c.toLower.isLower = true) (rest : List Char) :
    lead c rest = leadWord c rest := by
  obtain ⟨hquote, hfeed, hreturn, hspace, hdigit⟩ := starts_of_isLower h
  simp only [lead, hquote, hfeed, hreturn, hspace, hdigit, if_false, Bool.false_eq_true]

/-- Keywords are spelt in small letters. -/
theorem map_toLower_spelling (hkeyword : keyword ∈ keywords) :
    (spelling keyword).map Char.toLower = spelling keyword := by
  refine (List.map_congr_left fun letter hletter => ?_).trans (List.map_id _)
  have hsmall := Text.toNat_of_isLower ((spelling_letters keyword hkeyword).2 letter hletter)
  exact Text.toLower_eq_self (Nat.lt_of_lt_of_le (by decide) hsmall.1)

/-- A keyword written in any case consists of letters. -/
theorem isLower_of_sameButCase {word : List Char} (hkeyword : keyword ∈ keywords)
    (hword : SameButCase word (spelling keyword)) : ∀ d ∈ word, d.toLower.isLower = true := by
  intro d hd
  have hlower := hword.trans (map_toLower_spelling hkeyword)
  exact (spelling_letters keyword hkeyword).2 _ (hlower ▸ List.mem_map_of_mem hd)

/-- A keyword in any case is a token of its own before a blank. -/
theorem lead_keyword (hkeyword : keyword ∈ keywords)
    (hword : SameButCase (c :: rest) (spelling keyword)) (more : List Char) :
    lead c (rest ++ ' ' :: more) = (keyword, rest.length) := by
  have hletter := isLower_of_sameButCase hkeyword hword
  have hfold : (c :: rest).map fold = spelling keyword := by
    rw [← map_toLower_spelling hkeyword, ← hword]
    exact List.map_congr_left fun d hd => fold_of_isLower (hletter d hd)
  have hfound : keyword? (c :: (rest ++ ' ' :: more)) = some keyword := by
    have hblank : (fold ' ').isLower = false := by decide
    rw [← List.cons_append, keyword?_stop hblank, keyword?]
    simp only [startsWith_eq_isPrefixOf, hfold]
    exact find?_keywords keyword hkeyword
  have hlength : (spelling keyword).length = rest.length + 1 := by
    rw [← hfold, List.length_map, List.length_cons]
  -- An identifier would not be longer, since it ends before the blank.
  have hletters : ((rest ++ ' ' :: more).takeWhile isWordPart).length ≤ rest.length := by
    rw [takeWhile_append_stop (by decide)]
    exact length_takeWhile_le isWordPart rest
  rw [lead_of_isLower (hletter c List.mem_cons_self), leadWord, hfound]
  dsimp only
  rw [if_pos (by split_ifs <;> omega), hlength, Nat.add_sub_cancel]

/-- A keyword before a blank is one token, whatever the case of its letters. -/
theorem scan_keyword {word : List Char} (hkeyword : keyword ∈ keywords)
    (hword : SameButCase word (spelling keyword)) (more : List Char) :
    scan 0 (word ++ ' ' :: more) = ⟨keyword, String.ofList word⟩ :: scan 0 (' ' :: more) := by
  cases word with
  | nil => exact absurd (List.map_eq_nil_iff.mp hword.symm) (spelling_letters keyword hkeyword).1
  | cons c rest => exact scan_of_lead (lead_keyword hkeyword hword more)

/-- A single blank is one token. -/
theorem scan_blank (h : isSpace c = false) (more : List Char) :
    scan 0 (' ' :: c :: more) = ⟨.blank, " "⟩ :: scan 0 (c :: more) := by
  have hlead : lead ' ' ([] ++ c :: more) = (.blank, 0) := by
    rw [lead, if_neg (by decide), if_neg (by decide), if_neg (by decide), if_pos (by decide),
      List.nil_append, List.takeWhile_cons, if_neg (by simp [h])]
    rfl
  exact scan_of_lead hlead

/-- A quoted text is one token. -/
theorem scan_quote {literal : List Char} (h : ∀ d ∈ literal, isQuotable d = true)
    (more : List Char) : scan 0 ('"' :: literal ++ '"' :: more) =
      ⟨.quoted, String.ofList ('"' :: literal ++ ['"'])⟩ :: scan 0 more := by
  have hlead : lead '"' (literal ++ ['"'] ++ more) = (.quoted, (literal ++ ['"']).length) := by
    rw [List.append_assoc, List.singleton_append, lead, if_pos rfl, leadQuote,
      takeWhile_append_cons h (by decide)]
    simp
  have hcut : '"' :: literal ++ '"' :: more = '"' :: (literal ++ ['"']) ++ more := by simp
  rw [hcut, scan_of_lead hlead, List.cons_append]

/-- The words of a call of a method, in any case. -/
structure CallWords (execute method : List Char) : Prop where
  execute : SameButCase execute "execute".toList
  method : SameButCase method "method".toList

/-- The tokens of a call. -/
theorem scan_call {execute method literal : List Char} (hwords : CallWords execute method)
    (hliteral : ∀ d ∈ literal, isQuotable d = true) (after : List Char) :
    scan 0 (execute ++ ' ' :: (method ++ ' ' :: ('"' :: literal ++ '"' :: after))) =
      [⟨.execute, String.ofList execute⟩, ⟨.blank, " "⟩, ⟨.method, String.ofList method⟩,
        ⟨.blank, " "⟩, ⟨.quoted, String.ofList ('"' :: literal ++ ['"'])⟩] ++ scan 0 after := by
  have hexecute : SameButCase execute (spelling .execute) := hwords.execute
  have hmethod : SameButCase method (spelling .method) := hwords.method
  -- Each token ends where the next one starts: a keyword at its blank, a blank at a letter or a
  -- quote.
  rw [scan_keyword (by decide) hexecute]
  cases method with
  | nil => exact absurd hmethod (by decide)
  | cons c rest =>
    have hletter := isLower_of_sameButCase (by decide) hmethod c List.mem_cons_self
    obtain ⟨-, -, -, hspace, -⟩ := starts_of_isLower hletter
    rw [List.cons_append, scan_blank hspace, ← List.cons_append, scan_keyword (by decide) hmethod,
      List.cons_append, scan_blank (by decide), ← List.cons_append, scan_quote hliteral]
    rfl

/-! ### Statements -/

/-- Tokens that come before one that is not illegal do not run into it. -/
theorem exists_foldr_join (others : List Token) :
    ∃ joined, ∀ (opening : Token) (tokens : List Token), opening.kind ≠ .illegal →
    others.foldr join (opening :: tokens) = joined ++ opening :: tokens := by
  induction others with
  | nil => exact ⟨[], fun _ _ _ => rfl⟩
  | cons token rest ih =>
    obtain ⟨joined, hjoined⟩ := ih
    cases joined with
    | nil =>
      refine ⟨[token], fun opening tokens h => ?_⟩
      simp [hjoined opening tokens h, join, h]
    | cons next joined =>
      -- Two illegal tokens become one, any other stands for itself.
      by_cases hillegal : token.kind = .illegal ∧ next.kind = .illegal
      · refine ⟨⟨.illegal, token.text ++ next.text⟩ :: joined, fun opening tokens h => ?_⟩
        rw [List.foldr_cons, hjoined opening tokens h, List.cons_append, join, if_pos hillegal,
          List.cons_append]
      · refine ⟨token :: next :: joined, fun opening tokens h => ?_⟩
        rw [List.foldr_cons, hjoined opening tokens h, List.cons_append, join, if_neg hillegal]
        rfl

end Lexer

namespace Statement

variable {unit name : String} {statement : Statement} {statements : List Statement}
  {names : List String}

/-- Every token that opens a statement has its statement. -/
theorem mem_ofTokens {opening : Token} (h : opening.kind = .execute) (before tokens : List Token) :
    ⟨opening, tokens.takeWhile continues⟩ ∈ ofTokens (before ++ opening :: tokens) := by
  induction before with
  | nil => simp [ofTokens_cons, h]
  | cons token before ih =>
    rw [List.cons_append, ofTokens_cons]
    split
    · exact List.mem_cons_of_mem _ ih
    · exact ih

/-- All statements have to be understood, and then each has its call in the list. -/
theorem mem_of_calls (h : (calls unit statements).outcome = .ok names)
    (hmem : statement ∈ statements) (hcall : (call unit statement).outcome = .ok (some name)) :
    name ∈ names := by
  induction statements generalizing names with
  | nil => cases hmem
  | cons first rest ih =>
    obtain ⟨found, hfirst, h⟩ := Traced.bind_outcome_eq_ok.mp h
    obtain ⟨others, hothers, h⟩ := Traced.bind_outcome_eq_ok.mp h
    obtain rfl := Except.ok.inj h
    rcases List.mem_cons.mp hmem with rfl | hrest
    · rw [hcall] at hfirst
      obtain rfl := Except.ok.inj hfirst
      simp
    · exact List.mem_append_right _ (ih hothers hrest)

/-- A quoted text names the method in small letters, without the suffix. -/
theorem methodName?_quoted (literal : List Char) :
    methodName? (String.ofList ('"' :: literal ++ ['"'])) =
      some (String.ofList (dropMethodSuffix (Text.lower (String.ofList literal)).toList)) := by
  simp [methodName?, unquoted?]

/-- A line that starts with a call of a method by name makes that call. -/
theorem mem_of_callsOfText {text : String} {before after execute method literal : List Char}
    (htext : text.toList =
      before ++ (execute ++ ' ' :: (method ++ ' ' :: ('"' :: literal ++ '"' :: after))))
    (hline : Lexer.EndsLine before) (hwords : Lexer.CallWords execute method)
    (hliteral : ∀ d ∈ literal, Lexer.isQuotable d = true)
    (hname : methodName? (String.ofList ('"' :: literal ++ ['"'])) = some name)
    (h : (callsOfText Lexer.tokenize unit text).outcome = .ok names) : name ∈ names := by
  -- The tokens of the text end in those of the call and whatever comes after it.
  obtain ⟨earlier, later, htokens⟩ : ∃ earlier later, Lexer.tokenize text =
      earlier ++ ⟨.execute, String.ofList execute⟩ :: ⟨.blank, " "⟩ ::
        ⟨.method, String.ofList method⟩ :: ⟨.blank, " "⟩ ::
          ⟨.quoted, String.ofList ('"' :: literal ++ ['"'])⟩ :: later := by
    rw [Lexer.tokenize_eq, htext, Lexer.scan_append hline, Lexer.scan_call hwords hliteral,
      List.foldr_append, List.foldr_append]
    simp only [List.foldr_cons, List.foldr_nil, Lexer.join_of_ne, ne_eq, reduceCtorEq,
      not_false_eq_true]
    have hopening : Token.kind ⟨.execute, String.ofList execute⟩ ≠ .illegal := by simp
    obtain ⟨earlier, hearlier⟩ := Lexer.exists_foldr_join (Lexer.scan 0 before)
    exact ⟨earlier, _, hearlier _ _ hopening⟩
  rw [callsOfText, htokens] at h
  refine mem_of_calls h (mem_ofTokens rfl _ _) ?_
  generalize String.ofList ('"' :: literal ++ ['"']) = target at hname
  simp [call, List.takeWhile_cons, continues, hname]

end Statement

end CallMap
