/-!
# Numerals

Whole numbers as people type them: an optional sign and decimal digits, nothing else, and no
number outside the range asked for.
-/

namespace SpeechHost.Text

def digit? (c : Char) : Option Nat :=
  if '0' ≤ c && c ≤ '9' then some (c.toNat - '0'.toNat) else none

/-- Reads decimal digits on after the number `n`. -/
def digitsFrom? (n : Nat) : List Char → Option Nat
  | [] => some n
  | c :: cs => (digit? c).bind fun d => digitsFrom? (n * 10 + d) cs

def natural? : List Char → Option Nat
  | [] => none
  | cs => digitsFrom? 0 cs

/-- Reads an optional sign and digits. -/
def signed? : List Char → Option Int
  | '-' :: cs => (natural? cs).map fun n => -(n : Int)
  | '+' :: cs => (natural? cs).map fun n => (n : Int)
  | cs => (natural? cs).map fun n => (n : Int)

/-- The number above all those that fit in `bits` bits with sign. Its negative is the least of
them. -/
def signedLimit (bits : Nat) : Int :=
  Nat.pow 2 (bits - 1)

/-- Reads a numeral of a number that fits in `bits` bits with sign. -/
def numeral? (bits : Nat) (s : String) : Option Int :=
  (signed? s.toList).filter fun n => -signedLimit bits ≤ n && n < signedLimit bits

theorem numeral?_range {bits : Nat} {s : String} {n : Int} (h : numeral? bits s = some n) :
    -signedLimit bits ≤ n ∧ n < signedLimit bits := by
  have := (Option.filter_eq_some_iff.1 h).2
  simpa using this

end SpeechHost.Text
