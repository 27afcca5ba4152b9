import SpeechHost.Storage.LittleEndian
/-!
# Samples

16-bit samples in two's complement, as two bytes each, and 8-bit samples, as one unsigned byte each.
-/

namespace SpeechHost.Audio

open SpeechHost.Storage

def sampleBytes (x : Int16) : Bytes :=
  littleEndian 2 x.toUInt16.toNat

def ofSampleBytes (bytes : Bytes) : Int16 :=
  (UInt16.ofNat (ofLittleEndian bytes)).toInt16

/-- The byte of an 8-bit sample. Silence stands in the middle of the range. -/
def sampleByte (x : Int8) : UInt8 :=
  UInt8.ofInt (x.toInt + 128)

def ofSampleByte (b : UInt8) : Int8 :=
  Int8.ofInt (b.toNat - 128)

theorem sampleBytes_ofSampleBytes (a b : UInt8) : sampleBytes (ofSampleBytes [a, b]) = [a, b] := by
  have ha := a.toNat_lt
  have hb := b.toNat_lt
  have hfits : ofLittleEndian [a, b] < 65536 := by
    simp only [ofLittleEndian]
    omega
  have hnat : (ofSampleBytes [a, b]).toUInt16.toNat = ofLittleEndian [a, b] := by
    rw [ofSampleBytes, UInt16.toUInt16_toInt16, UInt16.toNat_ofNat_of_lt' hfits]
  rw [sampleBytes, hnat]
  exact littleEndian_ofLittleEndian [a, b]

@[simp] theorem sampleByte_ofSampleByte (b : UInt8) : sampleByte (ofSampleByte b) = b := by
  have hb := b.toNat_lt
  rw [sampleByte, ofSampleByte, Int8.toInt_ofInt_of_le (by omega) (by omega), Int.sub_add_cancel]
  have hnat : ((b.toNat : Int) % 256).toNat = b.toNat := by omega
  change UInt8.ofNat ((b.toNat : Int) % 256).toNat = b
  rw [hnat, UInt8.ofNat_toNat]

end SpeechHost.Audio
