import Mathlib.Data.List.Basic
import CallMap.Text.Windows1252

/-!
# The characters of Windows-1252

The bytes of the typographic signs, with each sign written as itself and not by its number. The
table `Text.Windows1252.signs` is held against them: a byte is read as a character exactly if the
character is written as the byte.

* `Text.Windows1252.byte?`: the byte of a character.
* `Text.Windows1252.decode_eq_iff`: bytes are read as a text exactly if the text is written as them.
-/

namespace CallMap.Text.Windows1252

/-- The typographic signs and their bytes. -/
def typographic : List (Char × UInt8) := [
  ('€', 0x80), ('‚', 0x82), ('ƒ', 0x83), ('„', 0x84), ('…', 0x85), ('†', 0x86), ('‡', 0x87),
  ('ˆ', 0x88), ('‰', 0x89), ('Š', 0x8A), ('‹', 0x8B), ('Œ', 0x8C), ('Ž', 0x8E), ('‘', 0x91),
  ('’', 0x92), ('“', 0x93), ('”', 0x94), ('•', 0x95), ('–', 0x96), ('—', 0x97), ('˜', 0x98),
  ('™', 0x99), ('š', 0x9A), ('›', 0x9B), ('œ', 0x9C), ('ž', 0x9E), ('Ÿ', 0x9F)]

/-- The numbers that are bytes of the same number: all but those of the signs. -/
def IsPlain (n : Nat) : Prop :=
  n < 0x80 ∨ 0xA0 ≤ n ∧ n < 0x100 ∨ n ∈ [0x81, 0x8D, 0x8F, 0x90, 0x9D]

instance (n : Nat) : Decidable (IsPlain n) :=
  inferInstanceAs (Decidable (_ ∨ _))

/-- The byte that a character is written as, if there is one. -/
def byte? (c : Char) : Option UInt8 :=
  if IsPlain c.toNat then some c.toNat.toUInt8 else typographic.lookup c

/-- Every byte is read as a character that is written as the byte. -/
theorem byte?_decodeByte (b : UInt8) : byte? (decodeByte b) = some b := by
  have hall : ∀ n : Fin 256, byte? (decodeByte (.ofFin n)) = some (.ofFin n) := by decide +kernel
  exact hall b.toFin

/-- A plain number is read as the character of that number. -/
theorem decodeByte_toUInt8 {c : Char} (h : IsPlain c.toNat) : decodeByte c.toNat.toUInt8 = c := by
  have hlow : c.toNat < 256 := by
    simp only [IsPlain, List.mem_cons, List.not_mem_nil, or_false] at h
    omega
  have hall : ∀ n : Fin 256, IsPlain n → (decodeByte (.ofFin n)).toNat = n := by decide +kernel
  have hbyte : c.toNat.toUInt8 = .ofFin ⟨c.toNat, hlow⟩ := by
    rw [← UInt8.toNat_inj]
    simpa using hlow
  rw [hbyte, ← Char.toNat_inj]
  exact hall ⟨c.toNat, hlow⟩ h

/-- Every character that is written as a byte is what the byte is read as. -/
theorem decodeByte_of_byte? {c : Char} {b : UInt8} (h : byte? c = some b) : decodeByte b = c := by
  rw [byte?] at h
  split_ifs at h with hplain
  · exact Option.some.inj h ▸ decodeByte_toUInt8 hplain
  · have hall : typographic.all (fun entry => decodeByte entry.2 = entry.1) = true := by
      decide +kernel
    obtain ⟨before, after, hsplit, -⟩ := List.lookup_eq_some_iff.mp h
    have hmem : (c, b) ∈ typographic := by simp [hsplit]
    simpa using List.all_eq_true.mp hall (c, b) hmem

/-- Bytes are read as a text exactly if the text is written as them, character by character. -/
theorem decode_eq_iff {bytes : List UInt8} {text : String} :
    decode bytes = text ↔ text.toList.map byte? = bytes.map some := by
  rw [decode, ← String.toList_inj]
  simp only [String.toList_ofList]
  constructor
  · intro h
    rw [← h, List.map_map]
    exact List.map_congr_left fun b _ => byte?_decodeByte b
  · intro h
    generalize text.toList = chars at h ⊢
    induction bytes generalizing chars with
    | nil => exact (List.map_eq_nil_iff.mp h).symm
    | cons b bytes ih =>
      obtain ⟨c, rest, rfl, hbyte, hrest⟩ := List.map_eq_cons_iff.mp h
      rw [List.map_cons, decodeByte_of_byte? hbyte, ih rest hrest]

end CallMap.Text.Windows1252
