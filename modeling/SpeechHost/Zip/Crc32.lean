import SpeechHost.Storage.Program
/-!
# The checksum of archives

The 32-bit cyclic redundancy check, lowest bit first.
-/

namespace SpeechHost.Zip

open SpeechHost.Storage (Bytes)

/-- One step of the division by the polynomial. -/
def shiftOut (c : UInt32) : UInt32 :=
  if c &&& 1 == 1 then (c >>> 1) ^^^ 0xEDB88320 else c >>> 1

def crcStep (c : UInt32) (b : UInt8) : UInt32 :=
  Nat.repeat shiftOut 8 (c ^^^ b.toUInt32)

def crc32 (bytes : Bytes) : UInt32 :=
  bytes.foldl crcStep 0xFFFFFFFF ^^^ 0xFFFFFFFF

end SpeechHost.Zip
