import CallMap.Proofs.Pattern

/-!
# The token at the start of a text

What the lexer cuts off a text is determined by the patterns of tokens alone: it is the longest word
of any pattern, or where no word fits, a stretch that is illegal. There are two kinds of the latter,
a quote that is not closed on its line and a carriage return without a line feed.

* `Lexer.IsLongest`, `Lexer.IsKindOf`: the token at the start of a text, by patterns.
* `Lexer.IsFault`: the two kinds of illegal stretches, by what they consist of and what comes after
  them.
* `Lexer.isCut_lead`: what the lexer cuts off a text is one or the other.
* `Lexer.IsFault.not_fits`, `Lexer.IsFault.unique`: never both, and no two faults start at one
  place.
-/

namespace CallMap.Lexer

variable {c : Char} {body rest after word text : List Char} {kind other keyword : TokenKind}
  {p : Char → Bool} {tokens : List Token}

/-! ### Longest words and faults -/

/-- A text starts with a word that some pattern has. -/
def Fits (text word : List Char) : Prop :=
  word <+: text ∧ ∃ kind, word ∈ pattern kind

/-- A text starts with a word that some pattern has, and with no longer one. -/
structure IsLongest (text word : List Char) : Prop where
  fits : Fits text word
  longest : ∀ other, Fits text other → other.length ≤ word.length

/-- There is only one longest match. -/
theorem IsLongest.unique {other : List Char} (h : IsLongest text word)
    (hother : IsLongest text other) : other = word := by
  have hlength : other.length = word.length :=
    Nat.le_antisymm (h.longest other hother.fits) (hother.longest word h.fits)
  exact (List.prefix_of_prefix_length_le hother.fits.1 h.fits.1 hlength.le).eq_of_length hlength

/-- A stretch of a text that is illegal because of what comes after it: a quote and the rest of its
line, with no closing quote in it, or a carriage return without its line feed. -/
inductive IsFault (after : List Char) : List Char → Prop
  | openQuote {inside : List Char} (hinside : ∀ d ∈ inside, isQuotable d = true)
      (hend : ∀ d ∈ after.head?, d = '\r' ∨ d = '\n') : IsFault after ('"' :: inside)
  | loneReturn (hend : after.head? ≠ some '\n') : IsFault after ['\r']

/-- What is cut off a text that goes on with `after`: an illegal stretch, or the longest word. -/
inductive IsCut (after word : List Char) : TokenKind → Prop
  | fault (hfault : IsFault after word) : IsCut after word .illegal
  | token {kind : TokenKind} (hlongest : IsLongest (word ++ after) word)
      (hkind : IsKindOf word kind) :
    IsCut after word kind

/-! ### Stretches of one class of characters -/

/-- A text starts with a stretch of characters of a class, which may be empty, and then leaves the
class. -/
theorem exists_span (p : Char → Bool) (text : List Char) : ∃ taken after, text = taken ++ after ∧
    text.takeWhile p = taken ∧ (∀ d ∈ taken, p d = true) ∧ ∀ d ∈ after.head?, p d = false := by
  refine ⟨text.takeWhile p, text.dropWhile p, List.takeWhile_append_dropWhile.symm, rfl,
    fun d => List.mem_takeWhile_imp, fun d hd => ?_⟩
  have := List.head?_dropWhile_not p text
  rw [Option.mem_def.mp hd] at this
  simpa using this

/-- A start of the text that fits a test is no longer than what is taken by the test. -/
theorem length_le_takeWhile (hword : ∀ d ∈ word, p d = true) (h : word <+: text) :
    word.length ≤ (text.takeWhile p).length := by
  obtain ⟨after, rfl⟩ := h
  rw [List.takeWhile_append_of_pos hword, List.length_append]
  exact Nat.le_add_right _ _

/-! ### Tokens told by their first character -/

/-- Four kinds of tokens can be told by the first character alone. -/
theorem eq_of_openingOf (h : openingOf other = openingOf kind) (hkind : openingOf kind ≠ .other) :
    other = kind := by
  cases kind with
  | quoted => cases other <;> simp [openingOf] at h ⊢
  | newLine => cases other <;> simp [openingOf] at h ⊢
  | blank => cases other <;> simp [openingOf] at h ⊢
  | number => cases other <;> simp [openingOf] at h ⊢
  | _ => exact absurd rfl hkind

/-- For a kind that is told by its first character, no other kind competes. -/
theorem eq_of_mem_of_mem (h : c :: body ∈ pattern kind) (hkind : openingOf kind ≠ .other)
    (hother : c :: rest ∈ pattern other) : other = kind :=
  eq_of_openingOf ((opening_of_mem hother).symm.trans (opening_of_mem h)) hkind

/-- For a kind that is told by its first character, only its own pattern has to be looked at. -/
theorem isCut_of_openingOf (hkind : openingOf kind ≠ .other) (h : c :: body ∈ pattern kind)
    (hlongest : ∀ tail, c :: tail ∈ pattern kind → tail <+: body ++ after →
      tail.length ≤ body.length) :
    IsCut after (c :: body) kind := by
  refine .token ⟨⟨List.prefix_append _ _, kind, h⟩, ?_⟩ ⟨h, ?_, ?_⟩
  · rintro word ⟨hstart, other, hword⟩
    cases word with
    | nil => exact Nat.zero_le _
    | cons d tail =>
      -- Both words start with the same character, so they are of the same kind.
      obtain ⟨rfl, htail⟩ := List.cons_prefix_cons.mp hstart
      obtain rfl := eq_of_mem_of_mem h hkind hword
      exact Nat.succ_le_succ (hlongest tail hword htail)
  · intro keyword _ hword
    exact eq_of_mem_of_mem h hkind hword
  · intro _ other hword
    exact eq_of_mem_of_mem h hkind hword

/-- The lexer counts the characters after the first. -/
theorem isCut_of_eq (found : TokenKind × Nat) (hfound : found = (kind, body.length))
    (hrest : rest = body ++ after) (h : IsCut after (c :: body) kind) :
    IsCut (rest.drop found.2) (c :: rest.take found.2) found.1 := by
  subst hfound hrest
  rwa [List.drop_left, List.take_left]

/-- From a quote on, the lexer cuts as it should. -/
theorem isCut_leadQuote (rest : List Char) : IsCut (rest.drop (leadQuote rest).2)
    ('"' :: rest.take (leadQuote rest).2) (leadQuote rest).1 := by
  obtain ⟨inside, after, hrest, htaken, hinside, hstop⟩ := exists_span isQuotable rest
  have hlead : leadQuote rest =
      if after.head? = some '"' then (.quoted, inside.length + 1)
        else (.illegal, inside.length) := by
    rw [leadQuote, htaken, hrest, List.drop_left]
  by_cases hclosed : after.head? = some '"'
  · obtain ⟨more, rfl⟩ := List.head?_eq_some_iff.mp hclosed
    have hlead : leadQuote rest = (.quoted, (inside ++ ['"']).length) := by
      rw [hlead, if_pos hclosed, List.length_append, List.length_singleton]
    have hcut : rest = (inside ++ ['"']) ++ more := by
      rw [hrest, List.append_assoc, List.singleton_append]
    refine isCut_of_eq _ hlead hcut (isCut_of_openingOf (by decide)
      (mem_quoted.mpr ⟨inside, rfl, hinside⟩) ?_)
    intro tail htail hstart
    obtain ⟨quoted, hword, hquoted⟩ := mem_quoted.mp htail
    obtain rfl := (List.cons.inj hword).2
    -- Another quoted word has no more between its quotes.
    have hlength := length_le_takeWhile hquoted ((List.prefix_append _ _).trans hstart)
    rw [← hcut, htaken] at hlength
    simpa using hlength
  · rw [if_neg hclosed] at hlead
    refine isCut_of_eq _ hlead hrest (.fault (.openQuote hinside ?_))
    -- What may not stand between quotes and is no quote ends the line.
    intro d hd
    have hplain := hstop d hd
    have hquote : d ≠ '"' := by
      rintro rfl
      exact hclosed hd
    by_contra hend
    push Not at hend
    simp [isQuotable, hquote, hend] at hplain

/-- A line feed is a token of its own. -/
theorem isCut_newLine (after : List Char) : IsCut after ['\n'] .newLine := by
  refine isCut_of_openingOf (by decide) (mem_newLine.mpr (.inl rfl)) ?_
  intro tail htail _
  rcases mem_newLine.mp htail with hword | hword
  · exact (congrArg List.length (List.cons.inj hword).2).le
  · exact absurd (List.cons.inj hword).1 (by decide)

/-- A carriage return with its line feed is a token of its own. -/
theorem isCut_returnNewLine (after : List Char) : IsCut after ['\r', '\n'] .newLine := by
  refine isCut_of_openingOf (by decide) (mem_newLine.mpr (.inr rfl)) ?_
  intro tail htail _
  rcases mem_newLine.mp htail with hword | hword
  · exact absurd (List.cons.inj hword).1 (by decide)
  · exact (congrArg List.length (List.cons.inj hword).2).le

/-- Blanks are cut where they end. -/
theorem isCut_blank (hc : isSpace c = true) (rest : List Char) :
    IsCut (rest.drop (rest.takeWhile isSpace).length)
      (c :: rest.take (rest.takeWhile isSpace).length) .blank := by
  obtain ⟨blanks, after, hrest, htaken, hblanks, -⟩ := exists_span isSpace rest
  rw [htaken]
  refine isCut_of_eq (.blank, blanks.length) rfl hrest (isCut_of_openingOf (by decide) ?_ ?_)
  · exact mem_someOf.mpr ⟨List.cons_ne_nil c blanks, List.forall_mem_cons.mpr ⟨hc, hblanks⟩⟩
  · intro tail htail hstart
    have hspaces := (List.forall_mem_cons.mp (mem_someOf.mp htail).2).2
    have hlength := length_le_takeWhile hspaces hstart
    rwa [← hrest, htaken] at hlength

/-- A number goes on after a point if digits follow it, and then it takes all of them. -/
theorem leadNumber_cases {whole others : List Char} (htaken : rest.takeWhile Char.isDigit = whole)
    (hrest : rest = whole ++ others) :
    (∃ places after, others = '.' :: (places ++ after) ∧ places ≠ [] ∧
      (∀ d ∈ places, d.isDigit = true) ∧ (places ++ after).takeWhile Char.isDigit = places ∧
      leadNumber rest = (.number, (whole ++ '.' :: places).length)) ∨
    (∀ places, places ≠ [] → (∀ d ∈ places, d.isDigit = true) → ¬ '.' :: places <+: others) ∧
      leadNumber rest = (.number, whole.length) := by
  unfold leadNumber
  rw [htaken, hrest]
  dsimp only
  rw [List.drop_left]
  split
  next more =>
    obtain ⟨places, after, rfl, htakenPlaces, hplaces, hstop⟩ := exists_span Char.isDigit more
    rw [htakenPlaces]
    split_ifs with hcount
    · -- No digit follows the point.
      obtain rfl := List.length_eq_zero_iff.mp hcount
      refine .inr ⟨fun places hne hdigits hstart => hne ?_, rfl⟩
      have hlength := length_le_takeWhile hdigits (List.cons_prefix_cons.mp hstart).2
      rw [htakenPlaces] at hlength
      exact List.length_eq_zero_iff.mp (Nat.le_zero.mp hlength)
    -- Digits follow the point.
    · refine .inl ⟨places, after, rfl, fun hnil => hcount (by rw [hnil]; rfl), hplaces,
        htakenPlaces, ?_⟩
      rw [List.length_append, List.length_cons]
      congr 1
      omega
  -- There is no point.
  next hpoint =>
    refine .inr ⟨fun places _ _ hstart => ?_, rfl⟩
    obtain ⟨after, rfl⟩ := hstart
    exact hpoint _ rfl

/-- A number has no more digits than there are, unless it goes on after a point. -/
theorem cases_of_number {whole others tail : List Char}
    (htaken : rest.takeWhile Char.isDigit = whole) (hrest : rest = whole ++ others)
    (h : c :: tail ∈ pattern .number) (hstart : tail <+: rest) :
    tail.length ≤ whole.length ∨ ∃ places, places ≠ [] ∧ (∀ d ∈ places, d.isDigit = true) ∧
      tail = whole ++ '.' :: places ∧ '.' :: places <+: others := by
  obtain ⟨digits, hne, hdigits, hword⟩ := mem_number.mp h
  obtain ⟨first, digits, rfl⟩ := List.exists_cons_of_ne_nil hne
  have hdigits := (List.forall_mem_cons.mp hdigits).2
  rcases hword with hword | ⟨places, hplaces, hplaced, hword⟩
  · obtain rfl := (List.cons.inj hword).2
    exact .inl (htaken ▸ length_le_takeWhile hdigits hstart)
  · obtain rfl : tail = digits ++ '.' :: places := (List.cons.inj hword).2
    obtain ⟨after, hafter⟩ := hstart
    rw [List.append_assoc, List.cons_append] at hafter
    -- The digits before the point are all digits there are.
    obtain rfl : whole = digits := by
      rw [← htaken, ← hafter]
      exact takeWhile_append_cons hdigits (by decide) _
    refine .inr ⟨places, hplaces, hplaced, rfl, after, ?_⟩
    rw [hrest] at hafter
    exact List.append_cancel_left hafter

/-- From a digit on, the lexer cuts as it should. -/
theorem isCut_leadNumber (hc : c.isDigit = true) (rest : List Char) :
    IsCut (rest.drop (leadNumber rest).2) (c :: rest.take (leadNumber rest).2)
    (leadNumber rest).1 := by
  obtain ⟨whole, others, hrest, htaken, hwhole, -⟩ := exists_span Char.isDigit rest
  have hdigits : ∀ d ∈ c :: whole, d.isDigit = true := List.forall_mem_cons.mpr ⟨hc, hwhole⟩
  rcases leadNumber_cases htaken hrest with
    ⟨places, after, rfl, hne, hplaces, htakenPlaces, hlead⟩ | ⟨hnone, hlead⟩
  -- A number with a point: another match has no more digits before it, and no more after it.
  · refine isCut_of_eq _ hlead (by simpa using hrest) (isCut_of_openingOf (by decide) ?_ ?_)
    · exact mem_number.mpr ⟨c :: whole, List.cons_ne_nil c whole, hdigits,
        .inr ⟨places, hne, hplaces, rfl⟩⟩
    · intro tail htail hstart
      rw [List.append_assoc, List.cons_append, ← hrest] at hstart
      rcases cases_of_number htaken hrest htail hstart with hshort | ⟨more, -, hmore, rfl, hpoint⟩
      · rw [List.length_append]
        omega
      · have hlength := length_le_takeWhile hmore (List.cons_prefix_cons.mp hpoint).2
        rw [htakenPlaces] at hlength
        simpa using hlength
  -- A number without one: no other match reaches further than its digits.
  · refine isCut_of_eq _ hlead hrest (isCut_of_openingOf (by decide) ?_ ?_)
    · exact mem_number.mpr ⟨c :: whole, List.cons_ne_nil c whole, hdigits, .inl rfl⟩
    · intro tail htail hstart
      rw [← hrest] at hstart
      rcases cases_of_number htaken hrest htail hstart with hshort | ⟨more, hne, hmore, -, hpoint⟩
      · exact hshort
      · exact absurd hpoint (hnone more hne hmore)

/-! ### Words and marks -/

/-- A keyword at the start of the text is found by its spelling. -/
theorem startsWith_of_mem (hkeyword : keyword ∈ keywords) (hword : word ∈ pattern keyword)
    (hstart : word <+: text) : startsWith (spelling keyword) text = true := by
  rw [startsWith_eq_isPrefixOf, List.isPrefixOf_iff_prefix,
    ← (mem_pattern_keyword hkeyword).mp hword]
  exact hstart.map fold

/-- Longer keywords come first in the table. -/
theorem keywords_pairwise :
    keywords.Pairwise fun first second => (spelling second).length ≤ (spelling first).length := by
  decide +kernel

/-- No two keywords are spelled alike. -/
theorem eq_of_mem_keywords (hkeyword : keyword ∈ keywords) (hother : other ∈ keywords)
    (hword : word ∈ pattern keyword) (hspelled : word ∈ pattern other) : other = keyword := by
  have hspellings : (keywords.map spelling).Nodup := by decide +kernel
  refine List.inj_on_of_nodup_map hspellings hother hkeyword ?_
  rw [← (mem_pattern_keyword hkeyword).mp hword, ← (mem_pattern_keyword hother).mp hspelled]

/-- The keyword that is found is the longest one. -/
theorem length_le_of_keyword? (h : keyword? text = some keyword) (hother : other ∈ keywords)
    (hword : word ∈ pattern other) (hstart : word <+: text) :
    word.length ≤ (spelling keyword).length := by
  obtain ⟨-, longer, shorter, htable, hlonger⟩ := List.find?_eq_some_iff_append.mp h
  have hstarts := startsWith_of_mem hother hword hstart
  rw [length_of_mem_keyword hother hword]
  rw [htable, List.mem_append, List.mem_cons] at hother
  -- Before the keyword in the table nothing fits, and after it nothing is longer.
  rcases hother with hlong | rfl | hshort
  · have hmissed := hlonger other hlong
    rw [hstarts] at hmissed
    cases hmissed
  · exact Nat.le_refl _
  · have hpairs := keywords_pairwise
    rw [htable, List.pairwise_append, List.pairwise_cons] at hpairs
    exact hpairs.2.1.1 other hshort

/-- The number of characters of the identifier at the start of a text. -/
def identifierLength (c : Char) (rest : List Char) : Nat :=
  if isWordStart c then (rest.takeWhile isWordPart).length + 1 else 0

/-- An identifier at the start of the text is no longer than what the lexer takes for one. -/
theorem length_le_identifierLength {tail : List Char} (h : c :: tail ∈ pattern .identifier)
    (hstart : tail <+: rest) : (c :: tail).length ≤ identifierLength c rest := by
  obtain ⟨hfirst, htail⟩ := cons_mem_oneOf_mul.mp h
  rw [identifierLength, if_pos hfirst]
  exact Nat.succ_le_succ (length_le_takeWhile (mem_kstar_oneOf.mp htail) hstart)

/-- What starts with none of the other characters is a word or a mark. -/
theorem cases_of_opening (hc : opening c = .other) (h : c :: rest ∈ pattern kind) :
    kind ∈ keywords ∨ kind = .identifier ∨ kind = .mark := by
  have hopening : openingOf kind = .other := (opening_of_mem h).symm.trans hc
  cases kind with
  | execute => exact .inl (mem_keywords.mpr rfl)
  | method => exact .inl (mem_keywords.mpr rfl)
  | action word => exact .inl (mem_keywords.mpr rfl)
  | identifier => exact .inr (.inl rfl)
  | mark => exact .inr (.inr rfl)
  | illegal => exact absurd h (Language.notMem_zero _)
  | endOfText => exact absurd h (Language.notMem_zero _)
  | _ => cases hopening

/-- Among words and marks, a word is the longest if no keyword and no identifier is longer. -/
theorem isLongest_of_le (hc : opening c = .other) (hfits : Fits (c :: rest) word)
    (hkeyword : ∀ keyword ∈ keywords, ∀ other ∈ pattern keyword, other <+: c :: rest →
      other.length ≤ word.length)
    (hidentifier : identifierLength c rest ≤ word.length) : IsLongest (c :: rest) word := by
  refine ⟨hfits, ?_⟩
  rintro other ⟨hstart, kind, hother⟩
  obtain ⟨d, tail, rfl⟩ := List.exists_cons_of_ne_nil (ne_nil_of_mem hother)
  obtain ⟨rfl, htail⟩ := List.cons_prefix_cons.mp hstart
  -- Only keywords, identifiers and marks compete here.
  rcases cases_of_opening hc hother with hmem | rfl | rfl
  · exact hkeyword kind hmem _ hother hstart
  · exact (length_le_identifierLength hother htail).trans hidentifier
  · rw [(cons_mem_oneOf.mp hother).2]
    obtain ⟨-, kind, hword⟩ := hfits
    exact List.length_pos_iff.mpr (ne_nil_of_mem hword)

/-- A character that starts a word is no mark. -/
theorem isMark_eq_false_of_isWordStart (h : isWordStart c = true) : isMark c = false := by
  have hpart : isWordPart c = true := by
    rcases Bool.or_eq_true_iff.mp h with hletter | hscore
    · exact Bool.or_eq_true_iff.mpr (.inl (Bool.or_eq_true_iff.mpr (.inl hletter)))
    · exact Bool.or_eq_true_iff.mpr (.inr hscore)
  simp [isMark, hpart]

/-- A character that starts nothing else is a mark. -/
theorem isMark_of_opening (hc : opening c = .other) (hstart : isWordStart c = false) :
    isMark c = true := by
  unfold opening at hc
  split_ifs at hc with hquote hend hspace hdigit
  obtain ⟨hletter, hscore⟩ := Bool.or_eq_false_iff.mp hstart
  have hpart : isWordPart c = false :=
    Bool.or_eq_false_iff.mpr ⟨Bool.or_eq_false_iff.mpr ⟨hletter, by simpa using hdigit⟩, hscore⟩
  push Not at hend
  simp [isMark, hpart, hspace, hend, hquote]

/-- A keyword is cut if no identifier is longer. -/
theorem isCut_keyword (hc : opening c = .other) (hfound : keyword? (c :: rest) = some keyword)
    (hlength : identifierLength c rest ≤ (spelling keyword).length) :
    IsCut (rest.drop ((spelling keyword).length - 1))
      (c :: rest.take ((spelling keyword).length - 1)) keyword := by
  have hmem : keyword ∈ keywords := List.mem_of_find?_eq_some hfound
  have hpos : 0 < (spelling keyword).length :=
    List.length_pos_iff.mpr (spelling_letters keyword hmem).1
  have hcut : c :: rest.take ((spelling keyword).length - 1) =
      (c :: rest).take (spelling keyword).length := by
    rw [List.take_cons hpos]
  -- The keyword is found by its spelling, so these characters are a form of it.
  have hword : (c :: rest).take (spelling keyword).length ∈ pattern keyword := by
    have hstarts := List.find?_some hfound
    rw [startsWith_eq_isPrefixOf, List.isPrefixOf_iff_prefix, List.prefix_iff_eq_take] at hstarts
    rw [mem_pattern_keyword hmem, List.map_take, ← hstarts]
  have htext : (c :: rest).take (spelling keyword).length ++
      rest.drop ((spelling keyword).length - 1) = c :: rest := by
    rw [← hcut, List.cons_append, List.take_append_drop]
  rw [hcut]
  refine .token ?_ ⟨hword, ?_, ?_⟩
  · rw [htext]
    refine isLongest_of_le hc ⟨List.take_prefix _ _, keyword, hword⟩ ?_ ?_
    -- Another keyword at this place is no longer, since keywords are searched longest first.
    · intro other hother word hspelled hstart
      rw [length_of_mem_keyword hmem hword]
      exact length_le_of_keyword? hfound hother hspelled hstart
    · rwa [length_of_mem_keyword hmem hword]
  · intro other hother hspelled
    exact eq_of_mem_keywords hmem hother hword hspelled
  · intro hnone
    exact absurd hword (hnone keyword hmem)

/-- An identifier is cut off where every keyword is shorter. -/
theorem isCut_identifier (hstart : isWordStart c = true)
    (hshorter : ∀ keyword ∈ keywords, ∀ word ∈ pattern keyword, word <+: c :: rest →
      word.length < identifierLength c rest) :
    IsCut (rest.drop (identifierLength c rest - 1)) (c :: rest.take (identifierLength c rest - 1))
      .identifier := by
  obtain ⟨letters, after, hrest, htaken, hletters, -⟩ := exists_span isWordPart rest
  have hlength : identifierLength c rest = (c :: letters).length := by
    rw [identifierLength, if_pos hstart, htaken, List.length_cons]
  have hword : c :: letters ∈ pattern .identifier :=
    mem_identifier.mpr ⟨c, letters, rfl, hstart, hletters⟩
  -- A keyword of this length would not be shorter.
  have hkeywords : ∀ keyword ∈ keywords, c :: letters ∉ pattern keyword := by
    intro keyword hkeyword hspelled
    have hlt := hshorter keyword hkeyword _ hspelled
        (hrest ▸ List.prefix_append (c :: letters) after)
    omega
  have hfound : (TokenKind.identifier, identifierLength c rest - 1) =
      (.identifier, letters.length) := by
    rw [hlength, List.length_cons, Nat.add_sub_cancel]
  refine isCut_of_eq _ hfound hrest (.token ?_ ⟨hword, ?_, ?_⟩)
  · rw [List.cons_append, ← hrest]
    refine isLongest_of_le (opening_of_isWordStart hstart) ⟨?_, .identifier, hword⟩ ?_ hlength.le
    · rw [hrest]
      exact List.prefix_append (c :: letters) after
    · intro keyword hkeyword word hspelled hword
      exact hlength ▸ (hshorter keyword hkeyword word hspelled hword).le
  · intro keyword hkeyword hspelled
    exact absurd hspelled (hkeywords keyword hkeyword)
  · intro _ other hother
    rcases cases_of_opening (opening_of_isWordStart hstart) hother with hmem | rfl | rfl
    · exact absurd hother (hkeywords other hmem)
    · rfl
    · have hmark := (cons_mem_oneOf.mp hother).1
      rw [isMark_eq_false_of_isWordStart hstart] at hmark
      cases hmark

/-- A mark is cut if there is neither a keyword nor an identifier. -/
theorem isCut_mark (hc : opening c = .other) (hstart : isWordStart c = false)
    (hshorter : ∀ keyword ∈ keywords, ∀ word ∈ pattern keyword, ¬word <+: c :: rest) :
    IsCut rest [c] .mark := by
  have hmark : [c] ∈ pattern .mark := mem_mark.mpr ⟨c, rfl, isMark_of_opening hc hstart⟩
  have hkeywords : ∀ keyword ∈ keywords, [c] ∉ pattern keyword := by
    intro keyword hkeyword hspelled
    exact hshorter keyword hkeyword _ hspelled (List.prefix_append [c] rest)
  refine .token (isLongest_of_le hc ⟨List.prefix_append [c] rest, .mark, hmark⟩ ?_ ?_)
    ⟨hmark, ?_, ?_⟩
  -- Neither a keyword nor an identifier competes with the mark.
  · intro keyword hkeyword word hspelled hword
    exact absurd hword (hshorter keyword hkeyword word hspelled)
  · rw [identifierLength, if_neg (by simp [hstart])]
    exact Nat.zero_le _
  · intro keyword hkeyword hspelled
    exact absurd hspelled (hkeywords keyword hkeyword)
  · intro _ other hother
    rcases cases_of_opening hc hother with hmem | rfl | rfl
    · exact absurd hother (hkeywords other hmem)
    · have hletter := (cons_mem_oneOf_mul.mp hother).1
      rw [hstart] at hletter
      cases hletter
    · rfl

/-- Where there is an identifier, its first character starts a word. -/
theorem isWordStart_of_identifierLength (h : identifierLength c rest ≠ 0) :
    isWordStart c = true := by
  by_contra hstart
  exact h (if_neg hstart)

/-- From any other character on, the lexer cuts as it should. -/
theorem isCut_leadWord (hc : opening c = .other) (rest : List Char) :
    IsCut (rest.drop (leadWord c rest).2) (c :: rest.take (leadWord c rest).2)
    (leadWord c rest).1 := by
  cases hfound : keyword? (c :: rest) with
  | some keyword =>
    have hlead : leadWord c rest =
        if identifierLength c rest ≤ (spelling keyword).length then
          (keyword, (spelling keyword).length - 1)
        else (.identifier, identifierLength c rest - 1) := by
      rw [leadWord, hfound]
      rfl
    rw [hlead]
    -- An identifier wins over the keyword only if it is longer.
    split_ifs with hlength
    · exact isCut_keyword hc hfound hlength
    · have hsome : identifierLength c rest ≠ 0 := by omega
      refine isCut_identifier (isWordStart_of_identifierLength hsome) ?_
      intro other hother word hspelled hword
      exact Nat.lt_of_le_of_lt (length_le_of_keyword? hfound hother hspelled hword) (by omega)
  | none =>
    have hlead : leadWord c rest =
        if identifierLength c rest = 0 then (.mark, 0)
          else (.identifier, identifierLength c rest - 1) := by
      rw [leadWord, hfound]
      rfl
    have hnone : ∀ keyword ∈ keywords, ∀ word ∈ pattern keyword, ¬word <+: c :: rest := by
      intro keyword hkeyword word hspelled hword
      exact List.find?_eq_none.mp hfound keyword hkeyword
        (startsWith_of_mem hkeyword hspelled hword)
    rw [hlead]
    split_ifs with hlength
    -- A mark is what is left when nothing else fits.
    · refine isCut_mark hc ?_ hnone
      by_contra hstart
      simp [identifierLength, hstart] at hlength
    · refine isCut_identifier (isWordStart_of_identifierLength hlength) ?_
      intro keyword hkeyword word hspelled hword
      exact absurd hword (hnone keyword hkeyword word hspelled)

/-- What is cut off a text is the longest word at its start, or a fault. -/
theorem isCut_lead (c : Char) (rest : List Char) :
    IsCut (rest.drop (lead c rest).2) (c :: rest.take (lead c rest).2) (lead c rest).1 := by
  unfold lead
  split_ifs with hquote hfeed hreturn hline hspace hdigit
  -- One case for each character that decides, in the order in which the lexer asks.
  · subst hquote
    exact isCut_leadQuote rest
  · subst hfeed
    exact isCut_newLine rest
  · subst hreturn
    obtain ⟨more, rfl⟩ := List.head?_eq_some_iff.mp hline
    exact isCut_returnNewLine more
  · subst hreturn
    exact .fault (.loneReturn hline)
  · exact isCut_blank hspace rest
  · exact isCut_leadNumber hdigit rest
  · exact isCut_leadWord (by simp [opening, hquote, hfeed, hreturn, hspace, hdigit]) rest

/-! ### Faults and words exclude each other -/

theorem IsFault.ne_nil (h : IsFault after word) : word ≠ [] := by
  cases h with
  | openQuote => exact List.cons_ne_nil _ _
  | loneReturn => exact List.cons_ne_nil _ _

/-- What stands between an open quote and the end of its line can be told from the text. -/
theorem takeWhile_isQuotable {inside : List Char} (hinside : ∀ d ∈ inside, isQuotable d = true)
    (hend : ∀ d ∈ after.head?, d = '\r' ∨ d = '\n') :
    (inside ++ after).takeWhile isQuotable = inside := by
  cases after with
  | nil => rw [List.append_nil, List.takeWhile_eq_self_iff.mpr hinside]
  | cons d after =>
    refine takeWhile_append_cons hinside ?_ after
    rcases hend d rfl with rfl | rfl
    · rfl
    · rfl

/-- No pattern has a word that starts where a fault is. -/
theorem IsFault.not_fits {other : List Char} (h : IsFault after word) :
    ¬Fits (word ++ after) other := by
  rintro ⟨hstart, kind, hother⟩
  obtain ⟨d, tail, rfl⟩ := List.exists_cons_of_ne_nil (ne_nil_of_mem hother)
  cases h with
  | @openQuote inside hinside hend =>
    rw [List.cons_append] at hstart
    obtain ⟨rfl, more, htail⟩ := List.cons_prefix_cons.mp hstart
    obtain rfl : kind = .quoted := eq_of_openingOf (opening_of_mem hother).symm (by decide)
    obtain ⟨quoted, hword, hquoted⟩ := mem_quoted.mp hother
    obtain rfl : tail = quoted ++ ['"'] := (List.cons.inj hword).2
    rw [List.append_assoc, List.singleton_append] at htail
    -- Both texts between quotes would end at the same place, the one at a quote, the other at a
    -- line end.
    have hinside' := takeWhile_isQuotable hinside hend
    rw [← htail, takeWhile_append_cons hquoted (by decide)] at hinside'
    subst hinside'
    obtain rfl := List.append_cancel_left htail
    exact absurd (hend '"' rfl) (by decide)
  | loneReturn hend =>
    rw [List.singleton_append] at hstart
    obtain ⟨rfl, more, htail⟩ := List.cons_prefix_cons.mp hstart
    obtain rfl : kind = .newLine := eq_of_openingOf (opening_of_mem hother).symm (by decide)
    rcases mem_newLine.mp hother with hword | hword
    · exact absurd (List.cons.inj hword).1 (by decide)
    · obtain rfl := (List.cons.inj hword).2
      exact hend (by rw [← htail]; rfl)

/-- Where a fault ends can be told from the text. -/
theorem IsFault.unique {other more : List Char} (h : IsFault after word)
    (hother : IsFault more other) (htext : other ++ more = word ++ after) :
    other = word ∧ more = after := by
  have hword : other = word := by
    -- The first character tells the two kinds of faults apart.
    cases h with
    | openQuote hinside hend =>
      cases hother with
      | openQuote hother hend' =>
        have hrest := (List.cons.inj htext).2
        rw [← takeWhile_isQuotable hother hend', ← takeWhile_isQuotable hinside hend]
        exact congrArg _ (congrArg _ hrest)
      | loneReturn => exact absurd (List.cons.inj htext).1 (by decide)
    | loneReturn =>
      cases hother with
      | openQuote => exact absurd (List.cons.inj htext).1 (by decide)
      | loneReturn => rfl
  subst hword
  exact ⟨rfl, List.append_cancel_left htext⟩

end CallMap.Lexer
