import Mathlib.Computability.Language
import CallMap.Proofs.LineTokens

/-!
# Patterns of tokens

Which words make a token of which kind, as formal languages that say nothing about how a text is
cut. A keyword is spelled letter by letter, in any case; the other kinds are given by classes of
characters.

* `Lexer.pattern`: the words of each kind of token.
* `Lexer.mem_pattern_keyword`: a word is a keyword if it is spelled like one once its case is
  disregarded.
* `Lexer.opening_of_mem`: the first character tells most kinds apart.
* `Lexer.IsKindOf.unique`: a word has one kind, and a keyword is not an identifier.
-/

namespace CallMap.Lexer

open scoped Computability

variable {c letter : Char} {word rest text : List Char} {kind other keyword : TokenKind}
  {p : Char → Bool} {l : Language Char}

/-! ### Classes of characters -/

/-- The texts of one character of a class. -/
def oneOf (p : Char → Bool) : Language Char :=
  {word | ∃ c, p c = true ∧ word = [c]}

@[simp]
theorem nil_notMem_oneOf : [] ∉ oneOf p := by
  rintro ⟨c, -, hword⟩
  cases hword

/-- One character that passes the test, and nothing after it. -/
@[simp]
theorem cons_mem_oneOf : c :: rest ∈ oneOf p ↔ p c = true ∧ rest = [] := by
  constructor
  · rintro ⟨d, hd, hword⟩
    obtain ⟨rfl, rfl⟩ := List.cons.inj hword
    exact ⟨hd, rfl⟩
  · rintro ⟨hc, rfl⟩
    exact ⟨c, hc, rfl⟩

@[simp]
theorem nil_notMem_oneOf_mul : [] ∉ oneOf p * l := by
  rintro ⟨_, ⟨c, -, rfl⟩, word, -, hword⟩
  cases hword

/-- The first character passes the test, and the rest is in the language. -/
@[simp]
theorem cons_mem_oneOf_mul : c :: rest ∈ oneOf p * l ↔ p c = true ∧ rest ∈ l := by
  constructor
  · rintro ⟨_, ⟨d, hd, rfl⟩, word, hl, hword⟩
    obtain ⟨rfl, rfl⟩ := List.cons.inj hword
    exact ⟨hd, hl⟩
  · rintro ⟨hc, hrest⟩
    exact ⟨[c], ⟨c, hc, rfl⟩, rest, hrest, rfl⟩

/-- Any number of characters that pass the test. -/
@[simp]
theorem mem_kstar_oneOf : word ∈ (oneOf p)∗ ↔ ∀ d ∈ word, p d = true := by
  constructor
  · intro hword
    obtain ⟨pieces, rfl, hpieces⟩ := Language.mem_kstar.mp hword
    intro d hd
    obtain ⟨piece, hpiece, hd⟩ := List.mem_flatten.mp hd
    obtain ⟨e, he, rfl⟩ := hpieces piece hpiece
    rwa [List.mem_singleton.mp hd]
  · intro hword
    refine Language.mem_kstar.mpr ⟨word.map fun d => [d], by simp [← List.flatMap_def], ?_⟩
    intro piece hpiece
    obtain ⟨d, hd, rfl⟩ := List.mem_map.mp hpiece
    exact ⟨d, hword d hd, rfl⟩

/-- A word that is given letter by letter, each by the class of its forms. -/
theorem mem_prod_oneOf {form : Char → Char → Bool} {letters : List Char} :
    word ∈ (letters.map fun letter => oneOf (form letter)).prod ↔
      List.Forall₂ (fun letter c => form letter c = true) letters word := by
  induction letters generalizing word with
  | nil => rw [List.map_nil, List.prod_nil, Language.mem_one, List.forall₂_nil_left_iff]
  | cons letter letters ih =>
    rw [List.map_cons, List.prod_cons]
    cases word with
    | nil => simp
    | cons c rest => rw [cons_mem_oneOf_mul, ih, List.forall₂_cons]

/-! ### The languages -/

/-- Whether a character counts as a small letter when case is disregarded: it is that letter or its
capital, and for two letters there is one more form each, the long s and the Kelvin sign. -/
def isFormOf (letter c : Char) : Bool :=
  c == letter || c == letter.toUpper || (letter == 's' && c == '\u017f') ||
    (letter == 'k' && c == '\u212a')

/-- Characters that are tokens on their own: no part of words, no blanks, no line ends and no
quotes. -/
def isMark (c : Char) : Bool :=
  !isWordPart c && !isSpace c && c != '\r' && c != '\n' && c != '"'

/-- Whether a kind of token is that of a keyword. -/
def isKeyword : TokenKind → Bool
  | .execute | .method | .action _ => true
  | _ => false

/-- One or more characters of a class. -/
def someOf (p : Char → Bool) : Language Char :=
  oneOf p * (oneOf p)∗

/-- The words that are spelled like a keyword. -/
def spelled (keyword : TokenKind) : Language Char :=
  ((spelling keyword).map fun letter => oneOf (isFormOf letter)).prod

/-- The words that make a token of each kind. -/
def pattern : TokenKind → Language Char
  | .identifier => oneOf isWordStart * (oneOf isWordPart)∗
  | .quoted => oneOf (· == '"') * ((oneOf isQuotable)∗ * oneOf (· == '"'))
  | .number => someOf Char.isDigit * (1 + oneOf (· == '.') * someOf Char.isDigit)
  | .blank => someOf isSpace
  | .newLine => (1 + oneOf (· == '\r')) * oneOf (· == '\n')
  | .mark => oneOf isMark
  | .illegal => 0
  | .endOfText => 0
  | keyword => spelled keyword

/-! ### Words of each kind -/

/-- A character that starts a word, and any that continue it. -/
theorem mem_identifier : word ∈ pattern .identifier ↔
    ∃ c rest, word = c :: rest ∧ isWordStart c = true ∧ ∀ d ∈ rest, isWordPart d = true := by
  cases word with
  | nil => simp [pattern]
  | cons c rest => simp [pattern]

/-- Two quotes, with characters between them that may be quoted. -/
theorem mem_quoted : word ∈ pattern .quoted ↔
    ∃ inside, word = '"' :: (inside ++ ['"']) ∧ ∀ d ∈ inside, isQuotable d = true := by
  cases word with
  | nil => simp [pattern]
  | cons c rest =>
    rw [pattern, cons_mem_oneOf_mul, Language.mem_mul]
    constructor
    -- Taking the product of three languages apart gives the quotes and what is between them.
    · rintro ⟨hc, inside, hinside, _, ⟨d, hd, rfl⟩, rfl⟩
      obtain rfl := beq_iff_eq.mp hc
      obtain rfl := beq_iff_eq.mp hd
      exact ⟨inside, rfl, mem_kstar_oneOf.mp hinside⟩
    · rintro ⟨inside, hword, hinside⟩
      obtain ⟨rfl, rfl⟩ := List.cons.inj hword
      exact ⟨rfl, inside, mem_kstar_oneOf.mpr hinside, ['"'], ⟨'"', rfl, rfl⟩, rfl⟩

/-- At least one character, and all pass the test. -/
theorem mem_someOf : word ∈ someOf p ↔ word ≠ [] ∧ ∀ d ∈ word, p d = true := by
  cases word with
  | nil => simp [someOf]
  | cons c rest => simp [someOf]

/-- Digits, or digits on both sides of a point. -/
theorem mem_number :
    word ∈ pattern .number ↔ ∃ whole, whole ≠ [] ∧ (∀ d ∈ whole, d.isDigit = true) ∧
      (word = whole ∨ ∃ places, places ≠ [] ∧ (∀ d ∈ places, d.isDigit = true) ∧
        word = whole ++ '.' :: places) := by
  rw [pattern, Language.mem_mul]
  constructor
  · rintro ⟨whole, hwhole, fraction, hfraction, rfl⟩
    obtain ⟨hne, hdigits⟩ := mem_someOf.mp hwhole
    refine ⟨whole, hne, hdigits, ?_⟩
    -- The fraction is empty, or a point and its digits.
    rcases hfraction with hnil | hpoint
    · exact .inl (by rw [(Language.mem_one fraction).mp hnil, List.append_nil])
    · cases fraction with
      | nil => exact absurd hpoint nil_notMem_oneOf_mul
      | cons point places =>
        obtain ⟨hpoint, hplaces⟩ := cons_mem_oneOf_mul.mp hpoint
        obtain rfl := beq_iff_eq.mp hpoint
        obtain ⟨hne, hdigits⟩ := mem_someOf.mp hplaces
        exact .inr ⟨places, hne, hdigits, rfl⟩
  · rintro ⟨whole, hne, hdigits, rfl | ⟨places, hsome, hplaces, rfl⟩⟩
    · exact ⟨word, mem_someOf.mpr ⟨hne, hdigits⟩, [], .inl rfl, List.append_nil word⟩
    · exact ⟨whole, mem_someOf.mpr ⟨hne, hdigits⟩, '.' :: places,
        .inr (cons_mem_oneOf_mul.mpr ⟨rfl, mem_someOf.mpr ⟨hsome, hplaces⟩⟩), rfl⟩

/-- A line feed, with or without a carriage return. -/
theorem mem_newLine : word ∈ pattern .newLine ↔ word = ['\n'] ∨ word = ['\r', '\n'] := by
  rw [pattern, add_mul, one_mul, Language.mem_add]
  refine or_congr ?_ ?_
  · cases word with
    | nil => simp
    | cons c rest => simp
  · cases word with
    | nil => simp
    | cons c rest =>
      cases rest with
      | nil => simp
      | cons d rest => simp

theorem mem_mark : word ∈ pattern .mark ↔ ∃ c, word = [c] ∧ isMark c = true := by
  cases word with
  | nil => simp [pattern]
  | cons c rest => simp [pattern, and_comm]

/-! ### Keywords -/

/-- Every keyword is in the table. -/
theorem mem_keywords : keyword ∈ keywords ↔ isKeyword keyword = true := by
  cases keyword with
  | action word => cases word <;> decide
  | _ => decide

/-- A keyword is its letters, each in either case. -/
theorem pattern_keyword (h : keyword ∈ keywords) : pattern keyword = spelled keyword := by
  rw [mem_keywords] at h
  cases keyword with
  | execute => rfl
  | method => rfl
  | action word => rfl
  | _ => cases h

/-- A small letter and its forms fold to that letter, and nothing else does. -/
theorem fold_eq_iff (h : letter.isLower = true) : fold c = letter ↔ isFormOf letter c = true := by
  obtain ⟨hfirst, hlast⟩ := Text.toNat_of_isLower h
  have hfirst : 0x61 ≤ letter.toNat := hfirst
  have hlast : letter.toNat ≤ 0x7A := hlast
  by_cases hascii : c.toNat < 0x80
  · -- Within ASCII there are few enough pairs to look at all of them.
    have hall : ∀ n : Fin 0x80, ∀ m : Fin 26, fold (Char.ofNat n) = Char.ofNat (0x61 + m) ↔
        isFormOf (Char.ofNat (0x61 + m)) (Char.ofNat n) = true := by
      decide +kernel
    have hc := hall ⟨c.toNat, hascii⟩ ⟨letter.toNat - 0x61, by omega⟩
    dsimp only at hc
    rwa [Nat.add_sub_cancel' hfirst, Char.ofNat_toNat, Char.ofNat_toNat] at hc
  · -- Beyond ASCII only the two extra forms are left.
    have hne : c ≠ letter := by
      rintro rfl
      omega
    have hcapital : c ≠ letter.toUpper := by
      have hall : ∀ m : Fin 26, (Char.ofNat (0x61 + m)).toUpper.toNat < 0x80 := by decide
      have hupper := hall ⟨letter.toNat - 0x61, by omega⟩
      dsimp only at hupper
      rw [Nat.add_sub_cancel' hfirst, Char.ofNat_toNat] at hupper
      rintro rfl
      exact hascii hupper
    have hforms : isFormOf letter c = true ↔
        (letter = 's' ∧ c = '\u017f') ∨ (letter = 'k' ∧ c = '\u212a') := by
      simp [isFormOf, hne, hcapital]
    rw [hforms, fold]
    split_ifs with hlong hkelvin
    · obtain rfl : c = '\u017f' := Char.toNat_inj.mp hlong
      simp [eq_comm]
    · obtain rfl : c = '\u212a' := Char.toNat_inj.mp hkelvin
      simp [eq_comm]
    · rw [Text.toLower_eq_self (Nat.lt_of_lt_of_le (by decide) (Nat.le_of_not_lt hascii))]
      constructor
      · intro heq
        exact absurd heq hne
      · rintro (⟨-, rfl⟩ | ⟨-, rfl⟩)
        · exact absurd rfl hlong
        · exact absurd rfl hkelvin

/-- Letters in either case are those that fold to the spelling. -/
theorem forall₂_isFormOf_iff {letters : List Char} (h : ∀ letter ∈ letters, letter.isLower = true) :
    List.Forall₂ (fun letter c => isFormOf letter c = true) letters word ↔
      word.map fold = letters := by
  induction letters generalizing word with
  | nil => rw [List.forall₂_nil_left_iff, List.map_eq_nil_iff]
  | cons letter letters ih =>
    obtain ⟨hletter, hletters⟩ := List.forall_mem_cons.mp h
    cases word with
    | nil => simp
    | cons c rest =>
      rw [List.forall₂_cons, List.map_cons, List.cons.injEq, fold_eq_iff hletter, ih hletters]

/-- The words of a keyword are those that fold to its spelling. -/
theorem mem_pattern_keyword (h : keyword ∈ keywords) :
    word ∈ pattern keyword ↔ word.map fold = spelling keyword := by
  rw [pattern_keyword h, spelled, mem_prod_oneOf,
    forall₂_isFormOf_iff (spelling_letters keyword h).2]

/-- A keyword has as many letters as its spelling. -/
theorem length_of_mem_keyword (h : keyword ∈ keywords) (hword : word ∈ pattern keyword) :
    word.length = (spelling keyword).length := by
  rw [← (mem_pattern_keyword h).mp hword, List.length_map]

/-! ### First characters -/

/-- What the first character of a token says about its kind. -/
inductive Opening
  | quote
  | lineEnd
  | space
  | digit
  | other
  deriving DecidableEq

/-- How a token starts that starts with a character. -/
def opening (c : Char) : Opening :=
  if c = '"' then .quote
  else if c = '\r' ∨ c = '\n' then .lineEnd
  else if isSpace c then .space
  else if c.isDigit then .digit
  else .other

/-- How the tokens of a kind start. -/
def openingOf : TokenKind → Opening
  | .quoted => .quote
  | .newLine => .lineEnd
  | .blank => .space
  | .number => .digit
  | _ => .other

/-- Words start with characters of ASCII. -/
theorem lt_of_isWordStart (h : isWordStart c = true) : c.toNat < 0x80 := by
  rcases Bool.or_eq_true_iff.mp h with hletter | hscore
  · rcases Bool.or_eq_true_iff.mp hletter with hupper | hlower
    · exact Nat.lt_of_le_of_lt (Text.toNat_of_isUpper hupper).2 (by decide)
    · exact Nat.lt_of_le_of_lt (Text.toNat_of_isLower hlower).2 (by decide)
  · rw [beq_iff_eq.mp hscore]
    decide

/-- What starts a word opens no other token. -/
theorem opening_of_isWordStart (h : isWordStart c = true) : opening c = .other := by
  have hall : ∀ n : Fin 0x80, isWordStart (Char.ofNat n) = true →
      opening (Char.ofNat n) = .other := by
    decide
  have hc := hall ⟨c.toNat, lt_of_isWordStart h⟩
  rw [Char.ofNat_toNat] at hc
  exact hc h

theorem cases_of_isSpace (h : isSpace c = true) : c = ' ' ∨ c = '\t' ∨ c = '\x0c' := by
  simpa [isSpace, or_assoc] using h

theorem opening_of_isSpace (h : isSpace c = true) : opening c = .space := by
  rcases cases_of_isSpace h with rfl | rfl | rfl <;> rfl

theorem opening_of_isDigit (h : c.isDigit = true) : opening c = .digit := by
  have hne {d : Char} (hd : d.isDigit = false) : c ≠ d := by
    rintro rfl
    simp [h] at hd
  -- A digit is none of the characters that are asked for before digits.
  have hspace : isSpace c = false := by
    by_contra hspace
    rcases cases_of_isSpace (by simpa using hspace) with hc | hc | hc
    · exact hne (by decide) hc
    · exact hne (by decide) hc
    · exact hne (by decide) hc
  have hquote : c ≠ '"' := hne (by decide)
  have hreturn : c ≠ '\r' := hne (by decide)
  have hfeed : c ≠ '\n' := hne (by decide)
  simp [opening, hquote, hreturn, hfeed, hspace, h]

theorem opening_of_isMark (h : isMark c = true) : opening c = .other := by
  have hdigit : isWordPart c = false → c.isDigit = false := by
    intro hpart
    exact (Bool.or_eq_false_iff.mp (Bool.or_eq_false_iff.mp hpart).1).2
  simp only [isMark, Bool.and_eq_true, Bool.not_eq_true', bne_iff_ne, ne_eq] at h
  obtain ⟨⟨⟨⟨hpart, hspace⟩, hreturn⟩, hfeed⟩, hquote⟩ := h
  simp [opening, hquote, hreturn, hfeed, hspace, hdigit hpart]

/-- Letters open words. -/
theorem opening_of_fold (h : (fold c).isLower = true) : opening c = .other := by
  unfold fold at h
  split_ifs at h with hlong hkelvin
  · obtain rfl : c = '\u017f' := Char.toNat_inj.mp hlong
    decide
  · obtain rfl : c = '\u212a' := Char.toNat_inj.mp hkelvin
    decide
  · obtain ⟨hquote, hfeed, hreturn, hspace, hdigit⟩ := starts_of_isLower h
    simp [opening, hquote, hfeed, hreturn, hspace, hdigit]

/-- The first character of a word tells its kind, up to words and marks. -/
theorem opening_of_mem (h : c :: rest ∈ pattern kind) : opening c = openingOf kind := by
  by_cases hkeyword : kind ∈ keywords
  · have hfold : fold c ∈ spelling kind := by
      rw [← (mem_pattern_keyword hkeyword).mp h]
      exact List.mem_cons_self
    rw [opening_of_fold ((spelling_letters kind hkeyword).2 _ hfold)]
    -- Keywords are among the kinds that the first character does not tell apart.
    rw [mem_keywords] at hkeyword
    cases kind with
    | execute => rfl
    | method => rfl
    | action word => rfl
    | _ => cases hkeyword
  · cases kind with
    | identifier =>
      obtain ⟨hstart, -⟩ := cons_mem_oneOf_mul.mp h
      exact opening_of_isWordStart hstart
    | quoted =>
      obtain ⟨hquote, -⟩ := cons_mem_oneOf_mul.mp h
      rw [beq_iff_eq.mp hquote]
      rfl
    | number =>
      rw [pattern, someOf, mul_assoc] at h
      exact opening_of_isDigit (cons_mem_oneOf_mul.mp h).1
    | blank => exact opening_of_isSpace (cons_mem_oneOf_mul.mp h).1
    | newLine =>
      rcases mem_newLine.mp h with hword | hword
      · rw [(List.cons.inj hword).1]
        rfl
      · rw [(List.cons.inj hword).1]
        rfl
    | mark => exact opening_of_isMark (cons_mem_oneOf.mp h).1
    | illegal => exact absurd h (Language.notMem_zero _)
    | endOfText => exact absurd h (Language.notMem_zero _)
    | _ => exact absurd (mem_keywords.mpr rfl) hkeyword

/-- Every token has a character. -/
theorem ne_nil_of_mem (h : word ∈ pattern kind) : word ≠ [] := by
  rintro rfl
  -- Keywords have letters; every other pattern starts with a character, or is empty.
  by_cases hkeyword : kind ∈ keywords
  · exact (spelling_letters kind hkeyword).1 ((mem_pattern_keyword hkeyword).mp h).symm
  · cases kind with
    | identifier => exact nil_notMem_oneOf_mul h
    | quoted => exact nil_notMem_oneOf_mul h
    | number =>
      rw [pattern, someOf, mul_assoc] at h
      exact nil_notMem_oneOf_mul h
    | blank => exact nil_notMem_oneOf_mul h
    | newLine => simp [mem_newLine] at h
    | mark => exact nil_notMem_oneOf h
    | illegal => exact Language.notMem_zero _ h
    | endOfText => exact Language.notMem_zero _ h
    | _ => exact hkeyword (mem_keywords.mpr rfl)

/-! ### The kind of a word -/

/-- The kind of token that a word makes: the keyword that it spells, and if it spells none, the one
other kind that it belongs to. -/
structure IsKindOf (word : List Char) (kind : TokenKind) : Prop where
  mem : word ∈ pattern kind
  keyword : ∀ keyword ∈ keywords, word ∈ pattern keyword → keyword = kind
  sole : (∀ keyword ∈ keywords, word ∉ pattern keyword) → ∀ other, word ∈ pattern other →
    other = kind

/-- A text has at most one kind. -/
theorem IsKindOf.unique (h : IsKindOf word kind) (hother : IsKindOf word other) : other = kind := by
  by_cases hkeyword : ∃ keyword ∈ keywords, word ∈ pattern keyword
  · obtain ⟨keyword, hkeyword, hword⟩ := hkeyword
    rw [← h.keyword keyword hkeyword hword, hother.keyword keyword hkeyword hword]
  · push Not at hkeyword
    exact h.sole hkeyword other hother.mem

end CallMap.Lexer
