/-!
# UTF-8

Reading bytes as UTF-8 with a machine that takes one byte at a time. `decode?` refuses a
sequence that is not well formed; `decodeLossy` puts U+FFFD for every longest run of bytes that
began a character and did not finish it.
-/

namespace SpeechHost.Text.Utf8

/-- Where the machine stands between two bytes: `owed` bytes are still to come, the next of them
from `low` to `high`, and `value` holds the bits read so far. -/
structure Pending where
  owed : Nat
  low : Nat
  high : Nat
  value : Nat

inductive Step where
  | character (c : Char)
  /-- More bytes are owed. -/
  | more (p : Pending)
  | refused

/-- A byte read between characters. -/
def first (b : UInt8) : Step :=
  let n := b.toNat
  if n < 0x80 then .character (Char.ofNat n)
  else if n < 0xC2 then .refused
  else if n < 0xE0 then .more ⟨1, 0x80, 0xBF, n - 0xC0⟩
  else if n == 0xE0 then .more ⟨2, 0xA0, 0xBF, 0⟩
  else if n == 0xED then .more ⟨2, 0x80, 0x9F, 0xD⟩
  else if n < 0xF0 then .more ⟨2, 0x80, 0xBF, n - 0xE0⟩
  else if n == 0xF0 then .more ⟨3, 0x90, 0xBF, 0⟩
  else if n < 0xF4 then .more ⟨3, 0x80, 0xBF, n - 0xF0⟩
  else if n == 0xF4 then .more ⟨3, 0x80, 0x8F, 4⟩
  else .refused

/-- A byte read inside a character. -/
def Pending.next (p : Pending) (b : UInt8) : Step :=
  let n := b.toNat
  if p.low ≤ n && n ≤ p.high then
    let value := p.value * 64 + (n - 0x80)
    if p.owed ≤ 1 then .character (Char.ofNat value)
    else .more ⟨p.owed - 1, 0x80, 0xBF, value⟩
  else
    .refused

def replacement : Char := '\uFFFD'

/-- The characters of a byte sequence, none lost to a fault: a run of bytes that cannot be
completed gives one `replacement`, and reading goes on at the byte that broke it off. -/
def decodeFrom : Option Pending → List UInt8 → List Char
  | none, [] => []
  | some _, [] => [replacement]
  | none, b :: bs =>
    match first b with
    | .character c => c :: decodeFrom none bs
    | .more p => decodeFrom (some p) bs
    | .refused => replacement :: decodeFrom none bs
  | some p, b :: bs =>
    match p.next b with
    | .character c => c :: decodeFrom none bs
    | .more q => decodeFrom (some q) bs
    | .refused =>
      match first b with
      | .character c => replacement :: c :: decodeFrom none bs
      | .more q => replacement :: decodeFrom (some q) bs
      | .refused => replacement :: replacement :: decodeFrom none bs

/-- The characters of a byte sequence, if it is well formed. -/
def decodeFrom? : Option Pending → List UInt8 → Option (List Char)
  | none, [] => some []
  | some _, [] => none
  | state, b :: bs =>
    match (match state with | none => first b | some p => p.next b) with
    | .character c => (decodeFrom? none bs).map (c :: ·)
    | .more q => decodeFrom? (some q) bs
    | .refused => none

/-- Reads bytes as text, faults marked. -/
def decodeLossy (bytes : List UInt8) : String :=
  String.ofList (decodeFrom none bytes)

def decode? (bytes : List UInt8) : Option String :=
  (decodeFrom? none bytes).map String.ofList

@[irreducible] def encode (s : String) : List UInt8 :=
  s.toList.flatMap String.utf8EncodeChar

end SpeechHost.Text.Utf8
