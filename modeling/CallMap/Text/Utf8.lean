/-!
# UTF-8 byte strings

Reading and writing text as UTF-8. A byte string that is no UTF-8 is refused with the offset of the
first byte that no encoded character accounts for, or else it is read with a replacement for what is
no character.
-/

namespace CallMap.Text

namespace Utf8

/-- A byte that continues an encoded character. -/
def isContinuation (b : UInt8) : Bool :=
  0x80 ≤ b && b ≤ 0xBF

/-- The six low bits of a continuation byte. -/
def payload (b : UInt8) : Nat :=
  b.toNat % 64

/-- The character encoded by two bytes; no character below `0x80` is written this way. -/
def two? (a b : UInt8) : Option Char :=
  if 0xC2 ≤ a && a ≤ 0xDF && isContinuation b then
    some (Char.ofNat (a.toNat % 32 * 64 + payload b))
  else none

/-- Whether two bytes begin a character of three; overlong forms and surrogates are refused. -/
def beginsThree (a b : UInt8) : Bool :=
  0xE0 ≤ a && a ≤ 0xEF && isContinuation b && (a != 0xE0 || 0xA0 ≤ b) && (a != 0xED || b ≤ 0x9F)

/-- The character encoded by three bytes. -/
def three? (a b c : UInt8) : Option Char :=
  if beginsThree a b && isContinuation c then
    some (Char.ofNat (a.toNat % 16 * 4096 + payload b * 64 + payload c))
  else none

/-- Whether two bytes begin a character of four; overlong forms and values above `0x10FFFF` are
refused. -/
def beginsFour (a b : UInt8) : Bool :=
  0xF0 ≤ a && a ≤ 0xF4 && isContinuation b && (a != 0xF0 || 0x90 ≤ b) && (a != 0xF4 || b ≤ 0x8F)

/-- The character encoded by four bytes. -/
def four? (a b c d : UInt8) : Option Char :=
  if beginsFour a b && isContinuation c && isContinuation d then
    some (Char.ofNat (a.toNat % 8 * 262144 + payload b * 4096 + payload c * 64 + payload d))
  else none

/-- Decodes from `offset` on, with the characters read so far in reverse. -/
def decodeFrom (offset : Nat) (read : List Char) : List UInt8 → Except Nat (List Char)
  | [] => .ok read.reverse
  | a :: rest =>
    if a < 0x80 then decodeFrom (offset + 1) (Char.ofNat a.toNat :: read) rest
    else match rest with
      | [] => .error offset
      | b :: rest => match two? a b with
        | some char => decodeFrom (offset + 2) (char :: read) rest
        | none => match rest with
          | [] => .error offset
          | c :: rest => match three? a b c with
            | some char => decodeFrom (offset + 3) (char :: read) rest
            | none => match rest with
              | [] => .error offset
              | d :: rest => match four? a b c d with
                | some char => decodeFrom (offset + 4) (char :: read) rest
                | none => .error offset

/-- The text a byte string encodes, or the offset of the first byte that is no part of one. -/
def decode (bytes : List UInt8) : Except Nat String :=
  (decodeFrom 0 [] bytes).map String.ofList

/-- What stands for bytes that encode no character. -/
def replacement : Char := Char.ofNat 0xFFFD

/-- The character at the front of bytes, and the number of bytes after the first that belong to it.
A character that is begun and not completed is replaced as a whole. -/
def front (a : UInt8) (rest : List UInt8) : Char × Nat :=
  if a < 0x80 then (Char.ofNat a.toNat, 0)
  else match rest with
    | [] => (replacement, 0)
    | b :: rest => match two? a b with
      | some char => (char, 1)
      | none =>
        if !(beginsThree a b || beginsFour a b) then (replacement, 0)
        else match rest with
          | [] => (replacement, 1)
          | c :: rest => match three? a b c with
            | some char => (char, 2)
            | none =>
              if !(beginsFour a b && isContinuation c) then (replacement, 1)
              else match rest with
                | [] => (replacement, 2)
                | d :: _ => match four? a b c d with
                  | some char => (char, 3)
                  | none => (replacement, 2)

/-- The characters of bytes after the first `skipped` of them, with replacements where there are
none. -/
def lossyFrom : (skipped : Nat) → List UInt8 → List Char
  | _, [] => []
  | skipped + 1, _ :: rest => lossyFrom skipped rest
  | 0, a :: rest => (front a rest).1 :: lossyFrom (front a rest).2 rest

/-- The text that bytes are shown as, whether or not they are UTF-8. -/
def decodeLossy (bytes : List UInt8) : String :=
  String.ofList (lossyFrom 0 bytes)

/-- The UTF-8 bytes of a text. -/
def encode (text : String) : List UInt8 :=
  text.toList.flatMap String.utf8EncodeChar

end Utf8

end CallMap.Text
