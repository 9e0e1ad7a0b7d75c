/-!
# Windows-1252

The single-byte encoding of export files. Every byte stands for one character: bytes below `0x80`
and from `0xA0` on for the code point of the same number, the others for the typographic signs
below.
-/

namespace CallMap.Text

namespace Windows1252

/-- The characters of the bytes `0x80` to `0x9F`. The five bytes without a sign of their own keep
their number. -/
def signs : List Nat := [
  0x20AC, 0x0081, 0x201A, 0x0192, 0x201E, 0x2026, 0x2020, 0x2021,
  0x02C6, 0x2030, 0x0160, 0x2039, 0x0152, 0x008D, 0x017D, 0x008F,
  0x0090, 0x2018, 0x2019, 0x201C, 0x201D, 0x2022, 0x2013, 0x2014,
  0x02DC, 0x2122, 0x0161, 0x203A, 0x0153, 0x009D, 0x017E, 0x0178]

/-- The character a byte stands for. -/
def decodeByte (b : UInt8) : Char :=
  if 0x80 ≤ b && b < 0xA0 then Char.ofNat (signs.getD (b.toNat - 0x80) b.toNat)
  else Char.ofNat b.toNat

/-- The text a byte string stands for, one character for each byte. -/
def decode (bytes : List UInt8) : String :=
  String.ofList (bytes.map decodeByte)

end Windows1252

end CallMap.Text
