import CallMap.Text.Case
import CallMap.Text.Windows1252

/-!
# Names in small letters

A text has one form in small letters, whatever case its ASCII letters are in.

* `Text.SameButCase`: texts that only differ in the case of ASCII letters.
* `Text.lower_congr`: such texts have the same small letters.

Names come from bytes, one character for each, so only few of all characters occur in them. For
these, small letters behave as one expects.

* `Text.lower_lower_decode`: small letters stay as they are.

What is no letter stays where it is in any text, whatever other characters there are.

* `Text.IsSign.mem_lower_iff`: such a sign is in a text if it is in its small letters.
-/

namespace CallMap.Text

/-- Two texts are the same but for the case of ASCII letters. -/
def SameButCase (a b : List Char) : Prop :=
  a.map Char.toLower = b.map Char.toLower

instance (a b : List Char) : Decidable (SameButCase a b) :=
  inferInstanceAs (Decidable (_ = _))

variable {c d : Char} {text other : List Char} {bytes : List UInt8}

/-! ### ASCII letters -/

/-- What comes after the capital letters stays as it is. -/
theorem toLower_eq_self (h : 'Z'.toNat < c.toNat) : c.toLower = c := by
  have hcapital : ¬(c.val ≥ 'A'.val ∧ c.val ≤ 'Z'.val) := by
    rintro ⟨-, hlast⟩
    exact Nat.not_le_of_lt h (UInt32.le_iff_toNat_le.mp hlast)
  exact dif_neg hcapital

theorem toNat_of_isLower (h : c.isLower = true) : 'a'.toNat ≤ c.toNat ∧ c.toNat ≤ 'z'.toNat := by
  obtain ⟨hfirst, hlast⟩ := Bool.and_eq_true_iff.mp h
  exact ⟨UInt32.le_iff_toNat_le.mp (of_decide_eq_true hfirst),
    UInt32.le_iff_toNat_le.mp (of_decide_eq_true hlast)⟩

theorem toNat_of_isUpper (h : c.isUpper = true) : 'A'.toNat ≤ c.toNat ∧ c.toNat ≤ 'Z'.toNat := by
  obtain ⟨hfirst, hlast⟩ := of_decide_eq_true h
  exact ⟨UInt32.le_iff_toNat_le.mp hfirst, UInt32.le_iff_toNat_le.mp hlast⟩

/-- The small form of a character of ASCII is in ASCII. -/
theorem toNat_toLower_lt (h : c.toNat < 0x80) : c.toLower.toNat < 0x80 := by
  have hall : ∀ n : Fin 0x80, (Char.ofNat n).toLower.toNat < 0x80 := by decide
  simpa using hall ⟨c.toNat, h⟩

/-- Two characters with the same ASCII small letter are equal or both ASCII. -/
theorem eq_or_ascii_of_toLower_eq (h : c.toLower = d.toLower) :
    c = d ∨ c.toNat < 0x80 ∧ d.toNat < 0x80 := by
  have hself {e : Char} (he : 0x80 ≤ e.toNat) : e.toLower = e :=
    toLower_eq_self (Nat.lt_of_lt_of_le (by decide) he)
  rcases Nat.lt_or_ge c.toNat 0x80 with hc | hc <;> rcases Nat.lt_or_ge d.toNat 0x80 with hd | hd
  · exact .inr ⟨hc, hd⟩
  · have := toNat_toLower_lt hc
    rw [h, hself hd] at this
    omega
  · have := toNat_toLower_lt hd
    rw [← h, hself hc] at this
    omega
  · exact .inl (by rwa [hself hc, hself hd] at h)

/-- Characters that differ only in ASCII case have one small form. -/
theorem smallForm_congr (h : c.toLower = d.toLower) : smallForm c = smallForm d := by
  rcases eq_or_ascii_of_toLower_eq h with rfl | ⟨hc, hd⟩
  · rfl
  · rw [smallForm, smallForm, if_pos hc, if_pos hd, h]

/-- Only letters change, and they change to letters. -/
theorem toLower_of_not_isAlpha (h : c.isAlpha = false ∨ c.toLower.isAlpha = false) :
    c.toLower = c := by
  rcases Nat.lt_or_ge c.toNat 0x80 with hc | hc
  · have hall : ∀ n : Fin 0x80, (Char.ofNat n).isAlpha = false ∨
        (Char.ofNat n).toLower.isAlpha = false → (Char.ofNat n).toLower = Char.ofNat n := by
      decide
    have hcode := hall ⟨c.toNat, hc⟩
    rw [Char.ofNat_toNat] at hcode
    exact hcode h
  · exact toLower_eq_self (Nat.lt_of_lt_of_le (by decide) hc)

/-- What is no ASCII letter stands in both of two texts or in neither. -/
theorem SameButCase.mem (h : SameButCase text other) (hletter : c.isAlpha = false) (hc : c ∈ text) :
    c ∈ other := by
  have hself := toLower_of_not_isAlpha (.inl hletter)
  have hmem : c.toLower ∈ other.map Char.toLower := h ▸ List.mem_map_of_mem hc
  obtain ⟨d, hd, hlower⟩ := List.mem_map.mp hmem
  rw [hself] at hlower
  rwa [← hlower, toLower_of_not_isAlpha (.inr (hlower ▸ hletter))]

/-! ### Small letters of any text -/

/-- ASCII letters count as letters within a word, and none of them is skipped. -/
theorem inRanges_of_isAlpha (h : c.isAlpha = true) :
    inRanges casedRanges c.toNat = true ∧ inRanges caseIgnorableRanges c.toNat = false := by
  have hcode : 0x41 ≤ c.toNat ∧ c.toNat ≤ 0x5A ∨ 0x61 ≤ c.toNat ∧ c.toNat ≤ 0x7A :=
    (Bool.or_eq_true_iff.mp h).imp toNat_of_isUpper toNat_of_isLower
  -- The ranges of the table lie before, between or after the two ranges of letters.
  have hapart : caseIgnorableRanges.all (fun range => range.2 < 0x41 ||
      (0x5A < range.1 && range.2 < 0x61) || 0x7A < range.1) = true := by decide +kernel
  constructor
  · refine List.any_eq_true.mpr (hcode.elim (fun h => ⟨(0x41, 0x5A), ?_, ?_⟩) fun h =>
      ⟨(0x61, 0x7A), ?_, ?_⟩)
    all_goals simp [casedRanges, h]
  · refine List.any_eq_false.mpr fun range hrange => ?_
    have hrange := List.all_eq_true.mp hapart range hrange
    simp only [Bool.or_eq_true, Bool.and_eq_true, decide_eq_true_eq] at hrange ⊢
    omega

/-- Neither being cased nor being ignored depends on ASCII case. -/
theorem inRanges_toLower (c : Char) :
    inRanges casedRanges c.toLower.toNat = inRanges casedRanges c.toNat ∧
      inRanges caseIgnorableRanges c.toLower.toNat = inRanges caseIgnorableRanges c.toNat := by
  by_cases hself : c.toLower = c
  · rw [hself]
    exact ⟨rfl, rfl⟩
  · -- A character that changes is a letter before and after.
    have hletters := mt toLower_of_not_isAlpha hself
    rw [not_or, Bool.not_eq_false, Bool.not_eq_false] at hletters
    obtain ⟨hcased, hignorable⟩ := inRanges_of_isAlpha hletters.1
    obtain ⟨hcased', hignorable'⟩ := inRanges_of_isAlpha hletters.2
    rw [hcased, hcased', hignorable, hignorable']
    exact ⟨rfl, rfl⟩

/-- Whether a letter follows does not depend on ASCII case. -/
theorem letterFollows_map_toLower (text : List Char) :
    letterFollows (text.map Char.toLower) = letterFollows text := by
  induction text with
  | nil => rfl
  | cons c rest ih =>
    obtain ⟨hcased, hignorable⟩ := inRanges_toLower c
    unfold letterFollows at ih ⊢
    cases hskip : inRanges caseIgnorableRanges c.toNat with
    | true => simpa [hignorable, hskip] using ih
    | false => simpa [hignorable, hskip] using hcased

theorem letterFollows_congr (h : SameButCase text other) :
    letterFollows text = letterFollows other := by
  rw [← letterFollows_map_toLower text, h, letterFollows_map_toLower]

/-- The small form of a text after another does not depend on ASCII case. -/
theorem lowerAfter_congr {before others : List Char} (hbefore : SameButCase before others)
    (h : SameButCase text other) : lowerAfter before text = lowerAfter others other := by
  induction text generalizing before others other with
  | nil =>
    obtain rfl : other = [] := List.map_eq_nil_iff.mp h.symm
    rfl
  | cons c rest ih =>
    -- The characters come in pairs that differ at most in ASCII case.
    obtain ⟨d, left, rfl, hd, hrest⟩ := List.map_eq_cons_iff.mp h.symm
    have hnext : SameButCase (c :: before) (d :: others) := by
      rw [SameButCase, List.map_cons, List.map_cons, hd, hbefore]
    rw [lowerAfter, lowerAfter, ih hnext hrest.symm]
    rcases eq_or_ascii_of_toLower_eq hd with rfl | ⟨hdascii, hcascii⟩
    · rw [smallSigma, smallSigma, letterFollows_congr hbefore, letterFollows_congr hrest]
    · -- The sigma is no ASCII letter, so the two characters have their small forms on their own.
      have hsigma {e : Char} (he : e.toNat < 0x80) : e ≠ capitalSigma := by
        rintro rfl
        exact absurd he (by decide)
      rw [if_neg (hsigma hcascii), if_neg (hsigma hdascii), smallForm_congr hd]

/-- Texts that are the same but for the case of ASCII letters have the same small letters. -/
theorem lower_congr {text other : String} (h : SameButCase text.toList other.toList) :
    lower text = lower other := by
  rw [lower, lower, lowerAfter_congr rfl h]

/-! ### Characters of bytes -/

/-- Where the capital sigma does not occur, every character has its small form on its own. -/
theorem lowerAfter_eq_flatMap (h : capitalSigma ∉ text) (before : List Char) :
    lowerAfter before text = text.flatMap smallForm := by
  induction text generalizing before with
  | nil => rfl
  | cons c rest ih =>
    obtain ⟨hc, hrest⟩ := List.ne_and_not_mem_of_not_mem_cons h
    rw [lowerAfter, if_neg hc.symm, ih hrest, List.flatMap_cons]

/-- What there is to know about the characters of bytes: a small form is small, and neither a sigma
nor a dot comes up that was not there before. -/
theorem smallForm_decodeByte : ∀ b : UInt8, Windows1252.decodeByte b ≠ capitalSigma ∧
    ∀ c ∈ smallForm (Windows1252.decodeByte b), smallForm c = [c] ∧ c ≠ capitalSigma ∧
      (c = '.' → Windows1252.decodeByte b = '.') := by
  have hall : ∀ n : Fin 256, Windows1252.decodeByte (.ofFin n) ≠ capitalSigma ∧
      (smallForm (Windows1252.decodeByte (.ofFin n))).all (fun c =>
        smallForm c = [c] ∧ c ≠ capitalSigma ∧
          (c = '.' → Windows1252.decodeByte (.ofFin n) = '.')) = true := by
    decide +kernel
  intro b
  obtain ⟨hsigma, hforms⟩ := hall b.toFin
  exact ⟨hsigma, fun c hc => of_decide_eq_true (List.all_eq_true.mp hforms c hc)⟩

/-- No byte stands for a capital sigma. -/
theorem capitalSigma_notMem_map_decodeByte (bytes : List UInt8) :
    capitalSigma ∉ bytes.map Windows1252.decodeByte := by
  intro h
  obtain ⟨b, -, hb⟩ := List.mem_map.mp h
  exact (smallForm_decodeByte b).1 hb

/-- The small letters of a text from bytes. -/
theorem toList_lower_decode (bytes : List UInt8) :
    (lower (Windows1252.decode bytes)).toList =
      (bytes.map Windows1252.decodeByte).flatMap smallForm := by
  rw [lower, Windows1252.decode, String.toList_ofList, String.toList_ofList,
    lowerAfter_eq_flatMap (capitalSigma_notMem_map_decodeByte bytes)]

/-- Texts that differ from decoded bytes only in ASCII case have one small form. -/
theorem lower_of_sameButCase (h : SameButCase text (Windows1252.decode bytes).toList) :
    lower (String.ofList text) = lower (Windows1252.decode bytes) :=
  lower_congr (by rwa [String.toList_ofList])

/-- For decoded bytes small letters are formed piece by piece. -/
theorem lower_decode_append (first second : List UInt8) :
    lower (Windows1252.decode (first ++ second)) =
      lower (Windows1252.decode first) ++ lower (Windows1252.decode second) := by
  rw [← String.toList_inj, String.toList_append, toList_lower_decode, toList_lower_decode,
    toList_lower_decode, List.map_append, List.flatMap_append]

/-- The small form of decoded bytes is its own small form. -/
theorem lower_lower_decode (bytes : List UInt8) :
    lower (lower (Windows1252.decode bytes)) = lower (Windows1252.decode bytes) := by
  -- All characters of the text in small letters are small forms of characters of bytes.
  have hsmall : ∀ c ∈ (lower (Windows1252.decode bytes)).toList,
      smallForm c = [c] ∧ c ≠ capitalSigma := by
    rw [toList_lower_decode]
    intro c hc
    obtain ⟨_, hmem, hc⟩ := List.mem_flatMap.mp hc
    obtain ⟨b, -, rfl⟩ := List.mem_map.mp hmem
    obtain ⟨hform, hsigma, -⟩ := (smallForm_decodeByte b).2 c hc
    exact ⟨hform, hsigma⟩
  have hsigma : capitalSigma ∉ (lower (Windows1252.decode bytes)).toList := fun hmem =>
    (hsmall _ hmem).2 rfl
  generalize lower (Windows1252.decode bytes) = small at hsmall hsigma
  rw [← String.toList_inj, lower, String.toList_ofList, lowerAfter_eq_flatMap hsigma,
    List.flatMap_def, List.map_congr_left fun c hc => (hsmall c hc).1, ← List.flatMap_def,
    List.flatMap_singleton']

/-- Small letters bring no dot. -/
theorem dot_notMem_lower_decode (h : '.' ∉ (Windows1252.decode bytes).toList) :
    '.' ∉ (lower (Windows1252.decode bytes)).toList := by
  rw [toList_lower_decode]
  intro hdot
  obtain ⟨_, hmem, hdot⟩ := List.mem_flatMap.mp hdot
  obtain ⟨b, hb, rfl⟩ := List.mem_map.mp hmem
  have hsource := ((smallForm_decodeByte b).2 '.' hdot).2.2 rfl
  refine h ?_
  rw [Windows1252.decode, String.toList_ofList, ← hsource]
  exact List.mem_map_of_mem hb

/-! ### Signs in any text -/

/-- The small form of a character comes from the small letters on in the table, also for characters
that sort before them. -/
theorem le_of_target? {n m : Nat} (h : CaseRun.target? smallForms n = some m) : 0x61 ≤ m := by
  have hall : smallForms.all (fun run => 0x61 ≤ (run.first : Int) + run.shift) = true := by
    decide +kernel
  obtain ⟨run, hrun, rfl⟩ := Option.map_eq_some_iff.mp h
  have hshift := of_decide_eq_true (List.all_eq_true.mp hall run (List.mem_of_find?_eq_some hrun))
  have hcovers := List.find?_some hrun
  simp only [CaseRun.covers, Bool.and_eq_true, decide_eq_true_eq] at hcovers
  omega

theorem toNat_ofNat_cases (n : Nat) : (Char.ofNat n).toNat = n ∨ (Char.ofNat n).toNat = 0 := by
  by_cases hvalid : n.isValidChar
  · exact .inl (congrArg Char.toNat (dif_pos hvalid))
  · exact .inr (congrArg Char.toNat (dif_neg hvalid))

/-- A character that is no letter and sorts before the small letters. -/
structure IsSign (d : Char) : Prop where
  not_isAlpha : d.isAlpha = false
  pos : 0 < d.toNat
  lt : d.toNat < 0x61

/-- A sign is its own small form. -/
theorem IsSign.smallForm_eq (h : IsSign d) : smallForm d = [d] := by
  rw [smallForm, if_pos (Nat.lt_trans h.lt (by decide)),
    toLower_of_not_isAlpha (.inl h.not_isAlpha)]

/-- A sign comes from itself only. -/
theorem IsSign.eq_of_mem_smallForm (h : IsSign d) (hmem : d ∈ smallForm c) : c = d := by
  have hlt := h.lt
  unfold smallForm at hmem
  split at hmem
  next =>
    rw [List.mem_singleton] at hmem
    rw [hmem]
    exact (toLower_of_not_isAlpha (.inr (hmem ▸ h.not_isAlpha))).symm
  next =>
    -- A character with two small forms, one that the table knows, and one that is its own.
    split at hmem
    next =>
      have hdot : (Char.ofNat 0x307).toNat = 0x307 := rfl
      rcases List.mem_cons.mp hmem with rfl | hmem
      · exact absurd h.not_isAlpha (by decide)
      · rw [List.mem_singleton.mp hmem, hdot] at hlt
        omega
    next =>
      split at hmem
      next n hn =>
        have hle := le_of_target? hn
        have hpos := h.pos
        have hcode := toNat_ofNat_cases n
        rw [← List.mem_singleton.mp hmem] at hcode
        omega
      next => exact (List.mem_singleton.mp hmem).symm

theorem IsSign.ne_capitalSigma (h : IsSign d) : d ≠ capitalSigma := by
  rintro rfl
  exact absurd h.lt (by decide)

/-- A sign is no small sigma. -/
theorem IsSign.ne_smallSigma (h : IsSign d) (before after : List Char) :
    d ≠ smallSigma before after := by
  rintro rfl
  have hlt := h.lt
  unfold smallSigma at hlt
  split at hlt <;> exact absurd hlt (by decide)

/-- Forming small letters neither removes nor brings signs. -/
theorem IsSign.mem_lowerAfter_iff (h : IsSign d) (before : List Char) :
    d ∈ lowerAfter before text ↔ d ∈ text := by
  induction text generalizing before with
  | nil => exact Iff.rfl
  | cons c rest ih =>
    -- The first character gives a sign only if it is one itself.
    have hfirst : (d ∈ if c = capitalSigma then [smallSigma before rest] else smallForm c) ↔
        d = c := by
      split
      next hc =>
        rw [hc, List.mem_singleton]
        exact ⟨fun hd => absurd hd (h.ne_smallSigma _ _), fun hd => absurd hd h.ne_capitalSigma⟩
      next =>
        refine ⟨fun hd => (h.eq_of_mem_smallForm hd).symm, ?_⟩
        rintro rfl
        rw [h.smallForm_eq]
        exact List.mem_singleton_self _
    rw [lowerAfter, List.mem_append, List.mem_cons, hfirst, ih]

/-- Signs are not affected by small letters. -/
theorem IsSign.mem_lower_iff (h : IsSign d) (text : String) :
    d ∈ (lower text).toList ↔ d ∈ text.toList := by
  rw [lower]
  simp only [String.toList_ofList]
  exact h.mem_lowerAfter_iff []

/-- A sign at the end of a text stays at the end. -/
theorem IsSign.exists_lowerAfter_concat (h : IsSign d) (text before : List Char) :
    ∃ front, lowerAfter before (text ++ [d]) = front ++ [d] := by
  induction text generalizing before with
  | nil => exact ⟨[], by simp [lowerAfter, h.ne_capitalSigma, h.smallForm_eq]⟩
  | cons c rest ih =>
    obtain ⟨front, hfront⟩ := ih (c :: before)
    rw [List.cons_append, lowerAfter, hfront, ← List.append_assoc]
    exact ⟨_, rfl⟩

end CallMap.Text
