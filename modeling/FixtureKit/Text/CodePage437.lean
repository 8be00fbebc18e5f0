/-!
# Code Page 437

The single-byte character set of old archives. The lower half is ASCII.

## Main results

* `decode_ascii` — a byte of the lower half is the character with its number.
-/

namespace FixtureKit

namespace CodePage437

/-- The characters of the upper half, in order. -/
def upperHalf : List Char :=
  ("ÇüéâäàåçêëèïîìÄÅÉæÆôöòûùÿÖÜ¢£¥₧ƒ" ++
    "áíóúñÑªº¿⌐¬½¼¡«»░▒▓│┤╡╢╖╕╣║╗╝╜╛┐" ++
    "└┴┬├─┼╞╟╚╔╩╦╠═╬╧╨╤╥╙╘╒╓╫╪┘┌█▄▌▐▀" ++
    "αßΓπΣσµτΦΘΩδ∞φε∩≡±≥≤⌠⌡÷≈°∙·√ⁿ²■\u00a0").toList

/-- The character of a byte. -/
def decodeByte (b : UInt8) : Char :=
  if b < 128 then Char.ofNat b.toNat else (upperHalf[b.toNat - 128]?).getD (Char.ofNat 0xFFFD)

/-- The text of bytes. -/
def decode (bytes : ByteArray) : String :=
  String.ofList (bytes.data.toList.map decodeByte)

/-- A byte of the lower half is the character with its number. -/
theorem decode_ascii {b : UInt8} (h : b < 128) : decodeByte b = Char.ofNat b.toNat := by
  rw [decodeByte, if_pos h]

end CodePage437

end FixtureKit
