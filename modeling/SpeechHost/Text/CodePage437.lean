/-!
# Code page 437

The single-byte character set of old archives: ASCII, then accented letters, box drawing and a
few signs of mathematics.
-/

namespace SpeechHost.Text.CodePage437

/-- The characters of the bytes from 0x80 on. -/
def upperHalf : Array Char :=
  ("ÇüéâäàåçêëèïîìÄÅÉæÆôöòûùÿÖÜ¢£¥₧ƒ" ++
   "áíóúñÑªº¿⌐¬½¼¡«»░▒▓│┤╡╢╖╕╣║╗╝╜╛┐" ++
   "└┴┬├─┼╞╟╚╔╩╦╠═╬╧╨╤╥╙╘╒╓╫╪┘┌█▄▌▐▀" ++
   "αßΓπΣσµτΦΘΩδ∞φε∩≡±≥≤⌠⌡÷≈°∙·√ⁿ²■\u00A0").toList.toArray

def decodeByte (b : UInt8) : Char :=
  if b.toNat < 0x80 then Char.ofNat b.toNat
  else upperHalf.getD (b.toNat - 0x80) ' '

def decode (bytes : List UInt8) : String :=
  String.ofList (bytes.map decodeByte)

end SpeechHost.Text.CodePage437
