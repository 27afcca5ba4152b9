import SpeechHost.Storage.Program
/-!
# Little-endian numbers

Numbers as bytes, the lowest byte first.
-/

namespace SpeechHost.Storage

/-- The lowest `count` bytes of a number. -/
def littleEndian : (count n : Nat) → Bytes
  | 0, _ => []
  | count + 1, n => UInt8.ofNat n :: littleEndian count (n / 256)

def ofLittleEndian : Bytes → Nat
  | [] => 0
  | b :: bs => b.toNat + 256 * ofLittleEndian bs

/-- The number of `count` bytes that stands at a place in a block. -/
def fieldAt (block : Bytes) (place count : Nat) : Nat :=
  ofLittleEndian ((block.drop place).take count)

/-- Where a run of bytes occurs, the first byte being at `place`. -/
def occurrences (pattern : Bytes) (place : Nat) : Bytes → List Nat
  | [] => []
  | b :: bs =>
    if pattern.isPrefixOf (b :: bs) then place :: occurrences pattern (place + 1) bs
    else occurrences pattern (place + 1) bs

theorem length_littleEndian (count n : Nat) : (littleEndian count n).length = count := by
  induction count generalizing n with
  | zero => rfl
  | succ count ih => simp [littleEndian, ih]

theorem ofLittleEndian_littleEndian (count n : Nat) :
    ofLittleEndian (littleEndian count n) = n % Nat.pow 256 count := by
  induction count generalizing n with
  | zero => simp [littleEndian, ofLittleEndian, Nat.mod_one]
  | succ count ih =>
    have hmul : Nat.pow 256 (count + 1) = 256 * Nat.pow 256 count := Nat.mul_comm _ _
    rw [littleEndian, ofLittleEndian, ih, hmul, Nat.mod_mul]
    simp

theorem littleEndian_ofLittleEndian (bytes : Bytes) :
    littleEndian bytes.length (ofLittleEndian bytes) = bytes := by
  induction bytes with
  | nil => rfl
  | cons b bs ih =>
    have hb := b.toNat_lt
    have hlow : UInt8.ofNat (b.toNat + 256 * ofLittleEndian bs) = b := by
      apply UInt8.toNat_inj.1
      rw [UInt8.toNat_ofNat']
      omega
    have hrest : (b.toNat + 256 * ofLittleEndian bs) / 256 = ofLittleEndian bs := by omega
    rw [List.length_cons, ofLittleEndian, littleEndian, hlow, hrest, ih]

theorem ofLittleEndian_lt (bytes : Bytes) : ofLittleEndian bytes < Nat.pow 256 bytes.length := by
  rw [← littleEndian_ofLittleEndian bytes, ofLittleEndian_littleEndian, length_littleEndian]
  exact Nat.mod_lt _ (Nat.pow_pos (by decide))

end SpeechHost.Storage
