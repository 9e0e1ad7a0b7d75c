import Mathlib.Data.List.Basic
import CallMap.Text.Raw

/-!
# What is shown of bytes

The UTF-8 of a text is shown as that text, and the bytes of a slash only ever come from a slash, so
for names that are texts it makes no difference whether bytes or characters are looked at. Bytes
that are no UTF-8 are shown as well, with replacements. That never makes them shorter, and so what
is shown of them is not part of them.

* `Text.Utf8.front_utf8EncodeChar`: the bytes of a character are read as that character.
* `Text.Utf8.decodeLossy_encode`: the bytes of a text are shown as that text.
* `Text.Utf8.length_le_length_encode`: what is shown of bytes has at least as many bytes.
* `RawText.ofText_suffix_iff`: a text that is a suffix of another, by bytes.
* `RawText.exists_of_join_eq_ofText`: the names of a path that is a text are texts.
-/

namespace CallMap

open String (utf8EncodeChar)

namespace Text.Utf8

variable {char : Char} {chars others : List Char} {a b c d : UInt8} {bytes rest : List UInt8}
  {n : Nat}

/-! ### The bytes of a character -/

/-- `UInt8.toNat_ofNat_of_lt'` with its bound as a numeral, which `omega` can work with. -/
theorem toNat_ofNat_of_lt (h : n < 256) : (UInt8.ofNat n).toNat = n :=
  UInt8.toNat_ofNat_of_lt' h

/-- A continuation byte starts with the bits 10. -/
theorem isContinuation_iff : isContinuation b = true ↔ 128 ≤ b.toNat ∧ b.toNat ≤ 191 := by
  simp [isContinuation, UInt8.le_iff_toNat_le]

/-- Two bytes with the bits of a number above `0x7F`. -/
theorem two?_ofNat (hlow : 0x80 ≤ n) (hhigh : n < 0x800) :
    two? (UInt8.ofNat (n / 64 % 32 + 192)) (UInt8.ofNat (n % 64 + 128)) = some (Char.ofNat n) := by
  have ha := @toNat_ofNat_of_lt (n / 64 % 32 + 192) (by omega)
  have hb := @toNat_ofNat_of_lt (n % 64 + 128) (by omega)
  rw [two?, if_pos]
  · rw [payload, ha, hb]
    refine congrArg (fun code => some (Char.ofNat code)) ?_
    omega
  · simp only [Bool.and_eq_true, decide_eq_true_eq, isContinuation_iff, UInt8.le_iff_toNat_le,
      UInt8.reduceToNat, ha, hb]
    omega

/-- The first two bytes of a character of three: nothing overlong, and no surrogate. -/
theorem beginsThree_iff : beginsThree a b = true ↔ 224 ≤ a.toNat ∧ a.toNat ≤ 239 ∧
    128 ≤ b.toNat ∧ b.toNat ≤ 191 ∧ (a.toNat = 224 → 160 ≤ b.toNat) ∧
      (a.toNat = 237 → b.toNat ≤ 159) := by
  simp [beginsThree, isContinuation, UInt8.le_iff_toNat_le, ← UInt8.toNat_inj]
  omega

/-- The first two bytes of a character of four: nothing overlong, and nothing beyond the last
plane. -/
theorem beginsFour_iff : beginsFour a b = true ↔ 240 ≤ a.toNat ∧ a.toNat ≤ 244 ∧
    128 ≤ b.toNat ∧ b.toNat ≤ 191 ∧ (a.toNat = 240 → 144 ≤ b.toNat) ∧
      (a.toNat = 244 → b.toNat ≤ 143) := by
  simp [beginsFour, isContinuation, UInt8.le_iff_toNat_le, ← UInt8.toNat_inj]
  omega

/-- Three bytes with the bits of a number above `0x7FF` that is no surrogate. -/
theorem three?_ofNat (hlow : 0x800 ≤ n) (hhigh : n < 0x10000) (hvalid : n < 0xD800 ∨ 0xDFFF < n) :
    beginsThree (UInt8.ofNat (n / 4096 % 16 + 224)) (UInt8.ofNat (n / 64 % 64 + 128)) = true ∧
    three? (UInt8.ofNat (n / 4096 % 16 + 224)) (UInt8.ofNat (n / 64 % 64 + 128))
      (UInt8.ofNat (n % 64 + 128)) = some (Char.ofNat n) := by
  -- The three bytes as numbers; the rest is arithmetic.
  have ha := @toNat_ofNat_of_lt (n / 4096 % 16 + 224) (by omega)
  have hb := @toNat_ofNat_of_lt (n / 64 % 64 + 128) (by omega)
  have hc := @toNat_ofNat_of_lt (n % 64 + 128) (by omega)
  have hbegins : beginsThree (UInt8.ofNat (n / 4096 % 16 + 224))
      (UInt8.ofNat (n / 64 % 64 + 128)) = true := by
    rw [beginsThree_iff, ha, hb]
    omega
  have hcontinues : isContinuation (UInt8.ofNat (n % 64 + 128)) = true := by
    rw [isContinuation_iff, hc]
    omega
  refine ⟨hbegins, ?_⟩
  rw [three?, hbegins, hcontinues, Bool.and_self, if_pos rfl, payload, payload, ha, hb, hc]
  refine congrArg (fun code => some (Char.ofNat code)) ?_
  omega

/-- Four bytes with the bits of a number above `0xFFFF`. -/
theorem four?_ofNat (hlow : 0x10000 ≤ n) (hhigh : n < 0x110000) :
    beginsFour (UInt8.ofNat (n / 262144 % 8 + 240)) (UInt8.ofNat (n / 4096 % 64 + 128)) = true ∧
    isContinuation (UInt8.ofNat (n / 64 % 64 + 128)) = true ∧
    four? (UInt8.ofNat (n / 262144 % 8 + 240)) (UInt8.ofNat (n / 4096 % 64 + 128))
      (UInt8.ofNat (n / 64 % 64 + 128)) (UInt8.ofNat (n % 64 + 128)) = some (Char.ofNat n) := by
  -- The four bytes as numbers; the rest is arithmetic.
  have ha := @toNat_ofNat_of_lt (n / 262144 % 8 + 240) (by omega)
  have hb := @toNat_ofNat_of_lt (n / 4096 % 64 + 128) (by omega)
  have hc := @toNat_ofNat_of_lt (n / 64 % 64 + 128) (by omega)
  have hd := @toNat_ofNat_of_lt (n % 64 + 128) (by omega)
  have hbegins : beginsFour (UInt8.ofNat (n / 262144 % 8 + 240))
      (UInt8.ofNat (n / 4096 % 64 + 128)) = true := by
    rw [beginsFour_iff, ha, hb]
    omega
  have hthird : isContinuation (UInt8.ofNat (n / 64 % 64 + 128)) = true := by
    rw [isContinuation_iff, hc]
    omega
  have hfourth : isContinuation (UInt8.ofNat (n % 64 + 128)) = true := by
    rw [isContinuation_iff, hd]
    omega
  refine ⟨hbegins, hthird, ?_⟩
  rw [four?, hbegins, hthird, hfourth, Bool.and_self, Bool.and_self, if_pos rfl, payload, payload,
    payload, ha, hb, hc, hd]
  refine congrArg (fun code => some (Char.ofNat code)) ?_
  omega

/-- A first byte that is too high for a character of two bytes. -/
theorem two?_eq_none (h : 223 < a.toNat) (b : UInt8) : two? a b = none := by
  rw [two?, if_neg]
  simp only [Bool.and_eq_true, decide_eq_true_eq, UInt8.le_iff_toNat_le, UInt8.reduceToNat]
  omega

/-- A first byte that is too high for a character of three bytes. -/
theorem three?_eq_none (h : 239 < a.toNat) (b c : UInt8) : three? a b c = none := by
  rw [three?, if_neg]
  simp only [Bool.and_eq_true, beginsThree_iff]
  omega

theorem not_lt_of_toNat (h : 127 < a.toNat) : ¬a < 0x80 := by
  rw [UInt8.lt_iff_toNat_lt]
  exact Nat.not_lt.mpr h

/-- Two bytes that make a character are taken together. -/
theorem front_of_two? (ha : 127 < a.toNat) (h : two? a b = some char) (rest : List UInt8) :
    front a (b :: rest) = (char, 1) := by
  simp only [front, if_neg (not_lt_of_toNat ha), h]

/-- Three bytes that make a character are taken together. -/
theorem front_of_three? (ha : 223 < a.toNat) (hbegins : beginsThree a b = true)
    (h : three? a b c = some char) (rest : List UInt8) : front a (b :: c :: rest) = (char, 2) := by
  have hhigh : ¬a < 0x80 := not_lt_of_toNat (by omega)
  simp [front, hhigh, two?_eq_none ha, hbegins, h]

/-- Four bytes that make a character are taken together. -/
theorem front_of_four? (ha : 239 < a.toNat) (hbegins : beginsFour a b = true)
    (hthird : isContinuation c = true) (h : four? a b c d = some char) (rest : List UInt8) :
    front a (b :: c :: d :: rest) = (char, 3) := by
  have hhigh : ¬a < 0x80 := not_lt_of_toNat (by omega)
  have htwo : two? a b = none := two?_eq_none (by omega) b
  simp [front, hhigh, htwo, three?_eq_none ha, hbegins, hthird, h]

/-- The bytes of a character are read as that character, whatever comes after them. -/
theorem front_utf8EncodeChar (char : Char) (rest : List UInt8) : ∃ a more,
    utf8EncodeChar char = a :: more ∧ front a (more ++ rest) = (char, more.length) := by
  have hvalid : char.val.toNat < 0xD800 ∨ 0xDFFF < char.val.toNat ∧ char.val.toNat < 0x110000 :=
    char.valid
  have hchar : Char.ofNat char.val.toNat = char := Char.ofNat_toNat char
  rw [utf8EncodeChar]
  split_ifs with hone htwo hthree
  -- One case for each number of bytes: the first byte tells it, and the bytes give back the
  -- character.
  · have ha : (UInt8.ofNat char.val.toNat).toNat = char.val.toNat := toNat_ofNat_of_lt (by omega)
    have hlow : UInt8.ofNat char.val.toNat < 0x80 := by
      rw [UInt8.lt_iff_toNat_lt, ha]
      exact Nat.lt_succ_of_le hone
    refine ⟨_, _, rfl, ?_⟩
    unfold front
    rw [if_pos hlow, ha, hchar, List.length_nil]
  · have ha := @toNat_ofNat_of_lt (char.val.toNat / 64 % 32 + 192) (by omega)
    have hread := two?_ofNat (Nat.lt_of_not_le hone) (Nat.lt_succ_of_le htwo)
    rw [hchar] at hread
    exact ⟨_, _, rfl, front_of_two? (by omega) hread rest⟩
  · have ha := @toNat_ofNat_of_lt (char.val.toNat / 4096 % 16 + 224) (by omega)
    obtain ⟨hbegins, hread⟩ :=
      three?_ofNat (Nat.lt_of_not_le htwo) (Nat.lt_succ_of_le hthree) (by omega)
    rw [hchar] at hread
    exact ⟨_, _, rfl, front_of_three? (by omega) hbegins hread rest⟩
  · have ha := @toNat_ofNat_of_lt (char.val.toNat / 262144 % 8 + 240) (by omega)
    obtain ⟨hbegins, hthird, hread⟩ := four?_ofNat (Nat.lt_of_not_le hthree) (by omega)
    rw [hchar] at hread
    exact ⟨_, _, rfl, front_of_four? (by omega) hbegins hthird hread rest⟩

/-- Only the first byte of a character does not continue one. -/
theorem isContinuation_utf8EncodeChar (char : Char) : ∃ a more, utf8EncodeChar char = a :: more ∧
    isContinuation a = false ∧ ∀ b ∈ more, isContinuation b = true := by
  -- Continuation bytes have six bits of the character, and a first byte is out of their range.
  have hcontinues {n : Nat} (h : n < 64) : isContinuation (UInt8.ofNat (n + 128)) = true := by
    rw [isContinuation_iff, toNat_ofNat_of_lt (by omega)]
    omega
  have hfirst {n : Nat} (h : n < 256) (hrange : n < 128 ∨ 191 < n) :
      isContinuation (UInt8.ofNat n) = false := by
    rw [← Bool.not_eq_true, isContinuation_iff, toNat_ofNat_of_lt h]
    omega
  rw [utf8EncodeChar]
  split_ifs with hone htwo hthree
  · exact ⟨_, _, rfl, hfirst (by omega) (by omega), by simp⟩
  · refine ⟨_, _, rfl, hfirst (by omega) (by omega), ?_⟩
    rw [List.forall_mem_singleton]
    exact hcontinues (by omega)
  · refine ⟨_, _, rfl, hfirst (by omega) (by omega), ?_⟩
    rw [List.forall_mem_cons, List.forall_mem_singleton]
    exact ⟨hcontinues (by omega), hcontinues (by omega)⟩
  · refine ⟨_, _, rfl, hfirst (by omega) (by omega), ?_⟩
    rw [List.forall_mem_cons, List.forall_mem_cons, List.forall_mem_singleton]
    exact ⟨hcontinues (by omega), hcontinues (by omega), hcontinues (by omega)⟩

/-- A byte below `0x80` is a character of its own. -/
theorem eq_of_mem_utf8EncodeChar (h : b ∈ utf8EncodeChar char) (hb : b.toNat < 128) :
    utf8EncodeChar char = [b] ∧ char.toNat = b.toNat := by
  -- A character of several bytes has no byte of ASCII.
  have hhigh {n : Nat} (hlow : 128 ≤ n) (hn : n < 256) : b ≠ UInt8.ofNat n := by
    rintro rfl
    rw [toNat_ofNat_of_lt hn] at hb
    omega
  have hval : char.val.toNat = char.toNat := rfl
  rw [utf8EncodeChar] at h ⊢
  split_ifs at h ⊢ with hone htwo hthree
  · have hbyte := List.mem_singleton.mp h
    rw [hbyte, toNat_ofNat_of_lt (by omega)]
    exact ⟨rfl, rfl⟩
  all_goals simp only [List.mem_cons, List.not_mem_nil, or_false] at h
  · rcases h with h | h <;> exact absurd h (hhigh (by omega) (by omega))
  · rcases h with h | h | h <;> exact absurd h (hhigh (by omega) (by omega))
  · rcases h with h | h | h | h <;> exact absurd h (hhigh (by omega) (by omega))

/-! ### The bytes of a text -/

/-- Bytes that belong to an earlier character are passed over. -/
theorem lossyFrom_length_append (more rest : List UInt8) :
    lossyFrom more.length (more ++ rest) = lossyFrom 0 rest := by
  induction more with
  | nil => rfl
  | cons b more ih => exact ih

/-- A character at the front of bytes is shown as it is. -/
theorem lossyFrom_utf8EncodeChar_append (char : Char) (rest : List UInt8) :
    lossyFrom 0 (utf8EncodeChar char ++ rest) = char :: lossyFrom 0 rest := by
  obtain ⟨a, more, hencode, hfront⟩ := front_utf8EncodeChar char rest
  rw [hencode, List.cons_append, lossyFrom, hfront, lossyFrom_length_append]

/-- The bytes of characters are read as these characters. -/
theorem lossyFrom_flatMap (chars : List Char) :
    lossyFrom 0 (chars.flatMap utf8EncodeChar) = chars := by
  induction chars with
  | nil => rfl
  | cons char chars ih => rw [List.flatMap_cons, lossyFrom_utf8EncodeChar_append, ih]

/-- The bytes of a text are shown as that text. -/
theorem decodeLossy_encode (text : String) : decodeLossy (encode text) = text := by
  rw [decodeLossy, encode, lossyFrom_flatMap, String.ofList_toList]

/-- The bytes of two texts follow one another. -/
theorem encode_append (first second : String) :
    encode (first ++ second) = encode first ++ encode second := by
  rw [encode, String.toList_append, List.flatMap_append, encode, encode]

/-! ### The bytes of what is shown -/

/-- The higher a character, the more bytes it has. -/
theorem le_length_utf8EncodeChar (char : Char) :
    0 < (utf8EncodeChar char).length ∧ (0x80 ≤ char.toNat → 1 < (utf8EncodeChar char).length) ∧
      (0x800 ≤ char.toNat → 2 < (utf8EncodeChar char).length) ∧
        (0x10000 ≤ char.toNat → 3 < (utf8EncodeChar char).length) := by
  have hval : char.val.toNat = char.toNat := rfl
  rw [utf8EncodeChar, hval]
  split_ifs with hone htwo hthree <;> simp only [List.length_cons, List.length_nil] <;> omega

/-- A number that stands for a character is the number of this character. -/
theorem toNat_ofNat_of_isValidChar (h : n.isValidChar) : (Char.ofNat n).toNat = n :=
  congrArg Char.toNat (dif_pos h)

/-- A character of two bytes needs them. -/
theorem toNat_of_two? (h : two? a b = some char) : 0x80 ≤ char.toNat := by
  rw [two?] at h
  split_ifs at h with hbytes
  simp only [Bool.and_eq_true, decide_eq_true_eq, isContinuation_iff, UInt8.le_iff_toNat_le,
    UInt8.reduceToNat] at hbytes
  rw [← Option.some.inj h, toNat_ofNat_of_isValidChar] <;> simp only [payload, Nat.isValidChar] <;>
    omega

/-- A character of three bytes needs them. -/
theorem toNat_of_three? (h : three? a b c = some char) : 0x800 ≤ char.toNat := by
  rw [three?] at h
  split_ifs at h with hbytes
  simp only [Bool.and_eq_true, beginsThree_iff, isContinuation_iff] at hbytes
  rw [← Option.some.inj h, toNat_ofNat_of_isValidChar] <;> simp only [payload, Nat.isValidChar] <;>
    omega

/-- A character of four bytes needs them. -/
theorem toNat_of_four? (h : four? a b c d = some char) : 0x10000 ≤ char.toNat := by
  rw [four?] at h
  split_ifs at h with hbytes
  simp only [Bool.and_eq_true, beginsFour_iff, isContinuation_iff] at hbytes
  rw [← Option.some.inj h, toNat_ofNat_of_isValidChar] <;> simp only [payload, Nat.isValidChar] <;>
    omega

/-- What is shown for some bytes has at least as many. -/
theorem front_lt_length (a : UInt8) (rest : List UInt8) :
    (front a rest).2 < (utf8EncodeChar (front a rest).1).length := by
  have hreplacement : (utf8EncodeChar replacement).length = 3 := by decide
  fun_cases front a rest
  case case1 => exact (le_length_utf8EncodeChar _).1
  case case3 h => exact (le_length_utf8EncodeChar _).2.1 (toNat_of_two? h)
  case case6 h => exact (le_length_utf8EncodeChar _).2.2.1 (toNat_of_three? h)
  case case9 h => exact (le_length_utf8EncodeChar _).2.2.2 (toNat_of_four? h)
  all_goals simp only [hreplacement, Nat.reduceLT]

/-- Reading bytes never gives a text with fewer bytes. -/
theorem length_le_length_flatMap (bytes : List UInt8) (skipped : Nat) :
    bytes.length ≤ ((lossyFrom skipped bytes).flatMap utf8EncodeChar).length + skipped := by
  induction bytes generalizing skipped with
  | nil => simp
  | cons a rest ih =>
    cases skipped with
    -- A character at the front is no shorter than the bytes it is read from.
    | zero =>
      have hfront := front_lt_length a rest
      have hrest := ih (front a rest).2
      rw [lossyFrom, List.flatMap_cons, List.length_append, List.length_cons]
      omega
    | succ skipped =>
      have hrest := ih skipped
      rw [lossyFrom, List.length_cons]
      omega

/-- What is shown of bytes has at least as many. -/
theorem length_le_length_encode (bytes : List UInt8) :
    bytes.length ≤ (encode (decodeLossy bytes)).length := by
  rw [encode, decodeLossy, String.toList_ofList]
  exact length_le_length_flatMap bytes 0

/-! ### Cutting the bytes of a text -/

/-- Where a text holds an ASCII character by its bytes, it holds the character. -/
theorem exists_of_flatMap_eq_append_cons (hb : b.toNat < 128)
    (h : chars.flatMap utf8EncodeChar = bytes ++ b :: rest) : ∃ before after char,
      chars = before ++ char :: after ∧ char.toNat = b.toNat ∧
        before.flatMap utf8EncodeChar = bytes ∧ after.flatMap utf8EncodeChar = rest := by
  induction chars generalizing bytes with
  | nil => simp at h
  | cons char chars ih =>
    -- The byte comes after the first character, or it belongs to it.
    have hcases : (∃ more, bytes = utf8EncodeChar char ++ more ∧
        chars.flatMap utf8EncodeChar = more ++ b :: rest) ∨
        ∃ more, utf8EncodeChar char = bytes ++ b :: more ∧
          rest = more ++ chars.flatMap utf8EncodeChar := by
      rw [List.flatMap_cons, List.append_eq_append_iff] at h
      rcases h with hafter | ⟨more, hchar, hmore⟩
      · exact .inl hafter
      · rcases List.cons_eq_append_iff.mp hmore with ⟨rfl, hrest⟩ | ⟨more, rfl, hrest⟩
        · exact .inl ⟨[], by rw [hchar, List.append_nil, List.append_nil], hrest⟩
        · exact .inr ⟨more, hchar, hrest⟩
    rcases hcases with ⟨more, hbytes, hmore⟩ | ⟨more, hchar, hrest⟩
    · obtain ⟨before, after, found, rfl, hfound, rfl, rfl⟩ := ih hmore
      exact ⟨char :: before, after, found, rfl, hfound, by rw [hbytes, List.flatMap_cons], rfl⟩
    · have hmem : b ∈ utf8EncodeChar char := by simp [hchar]
      obtain ⟨hsingle, hfound⟩ := eq_of_mem_utf8EncodeChar hmem hb
      obtain ⟨rfl, rfl⟩ : bytes = [] ∧ more = [] := by
        rw [hsingle] at hchar
        have hlength := congrArg List.length hchar
        simp only [List.length_append, List.length_cons, List.length_nil] at hlength
        exact ⟨List.length_eq_zero_iff.mp (by omega), List.length_eq_zero_iff.mp (by omega)⟩
      exact ⟨[], chars, char, rfl, hfound, rfl, hrest.symm⟩

/-- Different texts have different bytes. -/
theorem flatMap_utf8EncodeChar_inj :
    others.flatMap utf8EncodeChar = chars.flatMap utf8EncodeChar ↔ others = chars := by
  refine ⟨fun h => ?_, fun h => h ▸ rfl⟩
  rw [← lossyFrom_flatMap others, h, lossyFrom_flatMap]

/-- What is left of a character after some of its bytes is not where a text begins. -/
theorem eq_nil_of_flatMap_eq_append {first more : List UInt8} (hfirst : first ≠ [])
    (hchar : utf8EncodeChar char = first ++ more) (hothers : others ≠ [])
    (h : others.flatMap utf8EncodeChar = more ++ rest) : more = [] := by
  -- If the character were cut, the next one would begin with a continuation byte.
  obtain ⟨a, bytes, hbytes, -, hcontinues⟩ := isContinuation_utf8EncodeChar char
  obtain ⟨other, others, rfl⟩ := List.exists_cons_of_ne_nil hothers
  obtain ⟨b, _, hother, hb, -⟩ := isContinuation_utf8EncodeChar other
  obtain ⟨_, tail, rfl⟩ := List.exists_cons_of_ne_nil hfirst
  cases more with
  | nil => rfl
  | cons c more =>
    rw [List.flatMap_cons, hother, List.cons_append, List.cons_append] at h
    have hc : c ∈ bytes := by
      rw [(List.cons.inj (hbytes.symm.trans hchar)).2]
      simp
    rw [(List.cons.inj h).1, hcontinues c hc] at hb
    exact absurd hb (by simp)

/-- A text ends in another if its bytes end in those of the other, since no character begins inside
another. -/
theorem suffix_of_flatMap_suffix
    (h : others.flatMap utf8EncodeChar <:+ chars.flatMap utf8EncodeChar) : others <:+ chars := by
  by_cases hothers : others = []
  · rw [hothers]
    exact List.nil_suffix
  obtain ⟨first, hfirst⟩ := h
  induction chars generalizing first with
  | nil =>
    rw [List.flatMap_nil, List.append_eq_nil_iff] at hfirst
    exact absurd (flatMap_utf8EncodeChar_inj.mp hfirst.2) hothers
  | cons char chars ih =>
    rw [List.flatMap_cons, List.append_eq_append_iff] at hfirst
    rcases hfirst with ⟨more, hchar, hmore⟩ | ⟨more, -, hmore⟩
    · -- The text that is looked for begins inside the first character, or with it.
      by_cases hnil : first = []
      · subst hnil
        rw [List.nil_append] at hchar
        rw [← hchar, ← List.flatMap_cons, flatMap_utf8EncodeChar_inj] at hmore
        exact hmore ▸ List.suffix_rfl
      · rw [eq_nil_of_flatMap_eq_append hnil hchar hothers hmore, List.nil_append,
          flatMap_utf8EncodeChar_inj] at hmore
        rw [hmore]
        exact List.suffix_cons char chars
    · exact (ih more hmore.symm).trans (List.suffix_cons char chars)

end Text.Utf8

/-! ### Names and paths -/

namespace RawText

open Text.Utf8

variable {raw : RawText} {text suffix : String} {names others : List RawText} {texts : List String}

/-- A text is shown as it is. -/
@[simp]
theorem text_ofText (text : String) : (ofText text).text = text :=
  decodeLossy_encode text

theorem ofText_injective : Function.Injective ofText :=
  Function.LeftInverse.injective text_ofText

@[simp]
theorem ofText_inj {first second : String} : ofText first = ofText second ↔ first = second :=
  ofText_injective.eq_iff

/-- Comparing texts is comparing their bytes. -/
@[simp]
theorem beq_ofText (first second : String) :
    (ofText first == ofText second) = (first == second) := by
  rw [Bool.eq_iff_iff, beq_iff_eq, beq_iff_eq, ofText_inj]

/-- A name ends in a text exactly if what is shown of it does, provided that it is a text. -/
theorem ofText_suffix_iff :
    (ofText suffix).bytes <:+ (ofText text).bytes ↔ suffix.toList <:+ text.toList := by
  constructor
  · exact suffix_of_flatMap_suffix
  · rintro ⟨front, hfront⟩
    refine ⟨front.flatMap utf8EncodeChar, ?_⟩
    rw [ofText, ofText, encode, encode, ← hfront, List.flatMap_append]

/-- Only a text ends in what is shown of it. -/
theorem eq_ofText_of_suffix (h : (ofText raw.text).bytes <:+ raw.bytes) :
    raw = ofText raw.text := by
  have hlength : raw.bytes.length ≤ (ofText raw.text).bytes.length :=
    length_le_length_encode raw.bytes
  have hbytes := h.eq_of_length (Nat.le_antisymm h.length_le hlength)
  exact congrArg mk hbytes.symm

/-- A byte below `0x80` is in a text exactly if its character is. -/
theorem mem_bytes_ofText_iff {char : Char} {b : UInt8} (hb : b.toNat < 128)
    (hchar : char.toNat = b.toNat) : b ∈ (ofText text).bytes ↔ char ∈ text.toList := by
  have hencode : utf8EncodeChar char = [b] := by
    have hval : char.val.toNat = b.toNat := hchar
    rw [utf8EncodeChar, hval, if_pos (Nat.le_of_lt_succ hb), UInt8.ofNat_toNat]
  rw [ofText, encode, List.mem_flatMap]
  constructor
  · rintro ⟨found, hfound, hmem⟩
    have hsame := (eq_of_mem_utf8EncodeChar hmem hb).2
    rw [← hchar, Char.toNat_inj] at hsame
    exact hsame ▸ hfound
  · intro hmem
    exact ⟨char, hmem, hencode ▸ List.mem_singleton_self b⟩

theorem join_singleton (raw : RawText) : join [raw] = raw := by
  rw [join, List.map_cons, List.map_nil, List.intercalate_singleton]

/-- A slash stands between two names. -/
theorem join_cons_cons (first second : RawText) (rest : List RawText) :
    (join (first :: second :: rest)).bytes =
      first.bytes ++ slash :: (join (second :: rest)).bytes := by
  simp only [join, List.map_cons, List.intercalate_cons_cons, List.append_assoc,
    List.singleton_append]

/-- Texts are joined to a text. -/
theorem join_map_ofText (texts : List String) :
    join (texts.map ofText) = ofText ("/".intercalate texts) := by
  induction texts with
  | nil => rfl
  | cons first rest ih =>
    cases rest with
    | nil => rw [List.map_cons, List.map_nil, join_singleton, String.intercalate_singleton]
    | cons second rest =>
      have hslash : encode "/" = [slash] := by decide
      have hbytes := join_cons_cons (ofText first) (ofText second) (rest.map ofText)
      rw [← List.map_cons, ← List.map_cons, ih] at hbytes
      refine (congrArg mk hbytes).trans ?_
      rw [String.intercalate_cons_cons, ofText, ofText, ofText, encode_append, encode_append,
        hslash, List.append_assoc, List.singleton_append]

/-- Names that hold no slash can be read off the path that they are joined to. -/
theorem names_join (hnames : ∀ name ∈ names, slash ∉ name.bytes) (hne : names ≠ []) :
    (join names).names = names := by
  have hsplit : (join names).bytes.splitOn slash = names.map bytes := by
    refine List.splitOn_intercalate slash ?_ (by simpa using hne)
    simpa using hnames
  rw [RawText.names, hsplit, List.map_map]
  exact List.map_id names

/-- The names of a path that is a text are texts. -/
theorem exists_of_join_eq_ofText (h : join names = ofText text) :
    ∃ texts : List String, names = texts.map ofText := by
  induction names generalizing text with
  | nil => exact ⟨[], rfl⟩
  | cons first rest ih =>
    cases rest with
    | nil =>
      rw [join_singleton] at h
      exact ⟨[text], by rw [h, List.map_cons, List.map_nil]⟩
    | cons second rest =>
      -- The slash between the names is a character of the text, so the text can be cut there.
      have hbytes : text.toList.flatMap utf8EncodeChar =
          first.bytes ++ slash :: (join (second :: rest)).bytes := by
        rw [← join_cons_cons, h, ofText, encode]
      obtain ⟨before, after, -, -, -, hbefore, hafter⟩ :=
        exists_of_flatMap_eq_append_cons (by decide) hbytes
      have hfirst : first = ofText (String.ofList before) := by
        rw [ofText, encode, String.toList_ofList, hbefore]
      have hrest : join (second :: rest) = ofText (String.ofList after) := by
        rw [ofText, encode, String.toList_ofList, hafter]
      obtain ⟨texts, htexts⟩ := ih hrest
      exact ⟨String.ofList before :: texts, by rw [List.map_cons, ← hfirst, ← htexts]⟩

end RawText

end CallMap
