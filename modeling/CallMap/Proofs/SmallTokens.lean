import CallMap.Proofs.Extraction
import CallMap.Proofs.SmallLetters
import CallMap.Proofs.TokenLoop

/-!
# Tokens in small letters

A text whose ASCII letters are made small has the same tokens, in small letters, and so the same
statements. Case makes no difference to the characters that tokens go on with or end at, and
keywords are looked for without regard to it.

* `Text.small`: a text with its ASCII letters made small.
* `Lexer.lead_toLower`: the first token of a text is as long, and of the same kind.
* `Lexer.tokenize_small`: so are all tokens.
* `Statement.ofTokens_small`: statements are cut from tokens by their kinds.
-/

namespace CallMap

namespace Text

variable {c d : Char} {text other : String}

/-- A text with its ASCII letters made small. Unlike `Text.lower`, this keeps every other
character. -/
def small (text : String) : String :=
  String.ofList (text.toList.map Char.toLower)

@[simp]
theorem toList_small (text : String) : (small text).toList = text.toList.map Char.toLower := by
  rw [small]
  simp only [String.toList_ofList]

theorem small_ofList (chars : List Char) :
    small (String.ofList chars) = String.ofList (chars.map Char.toLower) := by
  rw [small]
  simp only [String.toList_ofList]

theorem small_append (text other : String) : small (text ++ other) = small text ++ small other := by
  rw [← String.toList_inj]
  simp

/-- Texts with the same small form differ only in case. -/
theorem sameButCase_of_small_eq (h : small text = small other) :
    SameButCase text.toList other.toList := by
  have hlists := congrArg String.toList h
  rwa [toList_small, toList_small] at hlists

/-! ### What does not depend on case -/

/-- A property that no capital letter changes with its small letter does not depend on case. -/
theorem congr_toLower {α : Type} {f : Char → α}
    (h : ∀ n : Fin 0x80, f (Char.ofNat n).toLower = f (Char.ofNat n)) (c : Char) :
    f c.toLower = f c := by
  rcases Nat.lt_or_ge c.toNat 0x80 with hc | hc
  · have hcode := h ⟨c.toNat, hc⟩
    rwa [Char.ofNat_toNat] at hcode
  · rw [toLower_eq_self (Nat.lt_of_lt_of_le (by decide) hc)]

/-- Small letters of ASCII can be formed before all others. -/
theorem lower_small (text : String) : lower (small text) = lower text := by
  refine lower_congr ?_
  rw [toList_small, SameButCase, List.map_map]
  exact List.map_congr_left fun c _ => congr_toLower (by decide) c

/-- What is no letter comes from itself only. -/
theorem toLower_eq_iff (h : d.isAlpha = false) : c.toLower = d ↔ c = d := by
  constructor
  · rintro rfl
    exact (toLower_of_not_isAlpha (.inr h)).symm
  · rintro rfl
    exact toLower_of_not_isAlpha (.inl h)

theorem toLower_bne (h : d.isAlpha = false) (c : Char) : (c.toLower != d) = (c != d) := by
  rw [Bool.eq_iff_iff, bne_iff_ne, bne_iff_ne, Ne, Ne, toLower_eq_iff h]

/-- What is no letter stands at the front of both or of neither. -/
theorem head?_map_toLower (h : d.isAlpha = false) (chars : List Char) :
    (chars.map Char.toLower).head? = some d ↔ chars.head? = some d := by
  rw [List.head?_map, Option.map_eq_some_iff]
  simp [toLower_eq_iff h]

/-- Characters are taken up to the same place. -/
theorem takeWhile_map_eq {α : Type} {f : α → α} {p : α → Bool} (h : ∀ a, p (f a) = p a)
    (list : List α) : (list.map f).takeWhile p = (list.takeWhile p).map f := by
  rw [List.takeWhile_map, show p ∘ f = p from funext h]

/-- Characters are passed over up to the same place. -/
theorem dropWhile_map_eq {α : Type} {f : α → α} {p : α → Bool} (h : ∀ a, p (f a) = p a)
    (list : List α) : (list.map f).dropWhile p = (list.dropWhile p).map f := by
  rw [List.dropWhile_map, show p ∘ f = p from funext h]

end Text

/-- A token with its text in small letters. -/
def Token.small (token : Token) : Token :=
  { token with text := Text.small token.text }

@[simp]
theorem Token.kind_small (token : Token) : token.small.kind = token.kind := rfl

@[simp]
theorem Token.text_small (token : Token) : token.small.text = Text.small token.text := rfl

namespace Lexer

open Text

/-! ### The first token of a text -/

/-- A quoted token ends at the same place in small letters. -/
theorem leadQuote_map_toLower (rest : List Char) :
    leadQuote (rest.map Char.toLower) = leadQuote rest := by
  unfold leadQuote
  have hinside := takeWhile_map_eq (f := Char.toLower) (p := isQuotable)
      (congr_toLower (by decide)) rest
  simp only [hinside, List.length_map, ← List.map_drop, head?_map_toLower (d := '"') (by decide)]

/-- A number ends at the same place in small letters. -/
theorem leadNumber_map_toLower (rest : List Char) :
    leadNumber (rest.map Char.toLower) = leadNumber rest := by
  have hdigits := takeWhile_map_eq (f := Char.toLower) (p := Char.isDigit)
      (congr_toLower (by decide))
  unfold leadNumber
  simp only [hdigits, List.length_map, ← List.map_drop]
  generalize rest.drop (rest.takeWhile Char.isDigit).length = after
  -- The point is no letter, so it is found in both or in neither.
  split
  next places hpoint =>
    obtain ⟨d, others, rfl, hd, rfl⟩ := List.map_eq_cons_iff.mp hpoint
    obtain rfl := (toLower_eq_iff (by decide)).mp hd
    simp only [hdigits, List.length_map]
  next hpoint =>
    split
    next places => exact absurd rfl (hpoint (places.map Char.toLower))
    next => rfl

/-- A keyword is found in any case. -/
theorem startsWith_map_toLower (word text : List Char) :
    startsWith word (text.map Char.toLower) = startsWith word text := by
  induction word generalizing text with
  | nil => rfl
  | cons letter word ih =>
    cases text with
    | nil => rfl
    | cons c text =>
      rw [List.map_cons, startsWith, startsWith, ih, congr_toLower (f := fold) (by decide)]

theorem keyword?_map_toLower (text : List Char) :
    keyword? (text.map Char.toLower) = keyword? text := by
  simp only [keyword?, startsWith_map_toLower]

/-- A word ends at the same place in small letters. -/
theorem leadWord_toLower (c : Char) (rest : List Char) :
    leadWord c.toLower (rest.map Char.toLower) = leadWord c rest := by
  have hstart : isWordStart c.toLower = isWordStart c := congr_toLower (by decide) c
  have hparts := takeWhile_map_eq (f := Char.toLower) (p := isWordPart)
      (congr_toLower (by decide)) rest
  have hkeyword : keyword? (c.toLower :: rest.map Char.toLower) = keyword? (c :: rest) :=
    keyword?_map_toLower (c :: rest)
  simp only [leadWord, hstart, hparts, List.length_map, hkeyword]

/-- The first token of a text in small letters is as long as that of the text, and of the same
kind. -/
theorem lead_toLower (c : Char) (rest : List Char) :
    lead c.toLower (rest.map Char.toLower) = lead c rest := by
  have hspace : isSpace c.toLower = isSpace c := congr_toLower (by decide) c
  have hspaces := takeWhile_map_eq (f := Char.toLower) (p := isSpace)
      (congr_toLower (by decide)) rest
  have hdigit : c.toLower.isDigit = c.isDigit := congr_toLower (by decide) c
  simp only [lead, toLower_eq_iff (d := '"') (by decide), toLower_eq_iff (d := '\n') (by decide),
    toLower_eq_iff (d := '\r') (by decide), head?_map_toLower (d := '\n') (by decide), hspace,
    hspaces, List.length_map, hdigit, leadQuote_map_toLower, leadNumber_map_toLower,
    leadWord_toLower]

/-! ### All tokens -/

/-- The pieces of a text in small letters are its pieces in small letters. -/
theorem scan_map_toLower (left : Nat) (text : List Char) :
    scan left (text.map Char.toLower) = (scan left text).map Token.small := by
  induction text generalizing left with
  | nil => cases left <;> rfl
  | cons c rest ih =>
    cases left with
    | zero =>
      simp only [List.map_cons, scan, lead_toLower, ih, ← List.map_take, Token.small, small_ofList]
    | succ left => exact ih left

/-- Illegal pieces are joined in the same way. -/
theorem join_small (token : Token) (tokens : List Token) :
    join token.small (tokens.map Token.small) = (join token tokens).map Token.small := by
  cases tokens with
  | nil => rfl
  | cons next rest =>
    rw [List.map_cons, join, join, Token.kind_small, Token.kind_small]
    split_ifs
    · simp only [List.map_cons, Token.small, small_append]
    · rfl

/-- The tokens of a text in small letters are the tokens of the text, in small letters. -/
theorem tokenize_small (text : String) :
    tokenize (small text) = (tokenize text).map Token.small := by
  rw [tokenize_eq, tokenize_eq, toList_small, scan_map_toLower]
  induction scan 0 text.toList with
  | nil => rfl
  | cons token tokens ih => rw [List.map_cons, List.foldr_cons, ih, join_small, List.foldr_cons]

end Lexer

/-! ### Statements -/

namespace Statement

open Text

/-- A statement in small letters. -/
def inSmall (statement : Statement) : Statement where
  opening := statement.opening.small
  run := statement.run.map Token.small

/-- Statements start and end by the kinds of tokens. -/
theorem ofTokens_small (tokens : List Token) :
    ofTokens (tokens.map Token.small) = (ofTokens tokens).map inSmall := by
  induction tokens with
  | nil => rfl
  | cons token rest ih =>
    have hrun : (rest.map Token.small).takeWhile continues =
        (rest.takeWhile continues).map Token.small :=
      takeWhile_map_eq (f := Token.small) (fun _ => rfl) rest
    rw [List.map_cons, ofTokens_cons, ofTokens_cons, Token.kind_small, hrun, ih]
    split_ifs <;> rfl

/-- Quotes are taken off in the same way. -/
theorem unquoted?_map_toLower (chars : List Char) :
    unquoted? (chars.map Char.toLower) = (unquoted? chars).map (List.map Char.toLower) := by
  ext literal
  rw [unquoted?_eq_some_iff, Option.map_eq_some_iff]
  constructor
  · intro h
    obtain ⟨first, rest, rfl, hfirst, hrest⟩ := List.map_eq_cons_iff.mp h
    obtain ⟨name, last, rfl, hname, hlast⟩ := List.map_eq_append_iff.mp hrest
    obtain ⟨final, rfl, hfinal⟩ := List.map_eq_singleton_iff.mp hlast
    -- The quotes were quotes before.
    obtain rfl := (toLower_eq_iff (by decide)).mp hfirst
    obtain rfl := (toLower_eq_iff (by decide)).mp hfinal
    exact ⟨name, unquoted?_eq_some_iff.mpr rfl, hname⟩
  · rintro ⟨name, hname, rfl⟩
    rw [unquoted?_eq_some_iff.mp hname]
    simp

/-- A method is called by its name in any case. -/
theorem methodName?_small (target : String) : methodName? (small target) = methodName? target := by
  rw [methodName?, methodName?, toList_small, unquoted?_map_toLower, Option.map_map]
  refine congrArg (Option.map · _) (funext fun name => ?_)
  rw [Function.comp, ← small_ofList, lower_small]

end Statement

end CallMap
