/-!
# Scanning

A scanner takes characters from the front of a text and may refuse them. A choice between two
scanners starts the second one where the first one started.
-/

namespace SpeechHost.Text

/-- Takes characters from the front of a text, or refuses. -/
abbrev Scan := StateT (List Char) Option

namespace Scan

/-- The characters still to come. -/
def rest : Scan (List Char) := fun cs => some (cs, cs)

/-- The next character, which stays. -/
def peek? : Scan (Option Char) := fun cs => some (cs.head?, cs)

/-- Takes the next character. -/
def next : Scan Char := fun
  | [] => none
  | c :: cs => some (c, cs)

/-- Whether nothing is left. -/
def atEnd : Scan Bool := fun cs => some (cs.isEmpty, cs)

/-- Whether the text goes on like this. -/
def sees (s : String) : Scan Bool := fun cs => some (s.toList.isPrefixOf cs, cs)

/-- Takes a given text. -/
def text (s : String) : Scan Unit := fun cs =>
  if s.toList.isPrefixOf cs then some ((), cs.drop s.length) else none

/-- Takes a given text if it comes next; says whether it did. -/
def accepts (s : String) : Scan Bool := fun cs =>
  if s.toList.isPrefixOf cs then some (true, cs.drop s.length) else some (false, cs)

def span (p : Char → Bool) : Scan (List Char) := fun cs => some (cs.takeWhile p, cs.dropWhile p)

def skip (p : Char → Bool) : Scan Unit := fun cs => some ((), cs.dropWhile p)

def require (holds : Bool) : Scan Unit := fun cs => if holds then some ((), cs) else none

/-- How deep a scanner may go into the text that is left: each level takes a character at least, and
there is as much again for the steps that take none. -/
def fuel : Scan Nat := fun cs => some (2 * cs.length + 2, cs)

def whole (scan : Scan α) (s : String) : Option α :=
  match scan s.toList with
  | some (a, []) => some a
  | _ => none

end Scan

/-- The value of a digit of a base up to 16. -/
def digitOf? (base : Nat) (c : Char) : Option Nat :=
  let n :=
    if '0' ≤ c && c ≤ '9' then c.toNat - '0'.toNat
    else if 'a' ≤ c && c ≤ 'f' then c.toNat - 'a'.toNat + 10
    else if 'A' ≤ c && c ≤ 'F' then c.toNat - 'A'.toNat + 10
    else base
  if n < base then some n else none

def isDigitOf (base : Nat) (c : Char) : Bool :=
  (digitOf? base c).isSome

def valueOf (base : Nat) (cs : List Char) : Nat :=
  cs.foldl (fun n c => n * base + (digitOf? base c).getD 0) 0

/-- The character of a code point, unless it is no character. -/
def charOf? (n : Nat) : Option Char :=
  if n.isValidChar then some (Char.ofNat n) else none

def Scan.hex : (count : Nat) → Scan Nat
  | 0 => return 0
  | count + 1 => do
    let c ← Scan.next
    let some d := digitOf? 16 c | failure
    return d * Nat.pow 16 count + (← Scan.hex count)

/-- The nearest floating-point number to `mantissa * 10 ^ exponent`. Beyond the range it is
infinite, and below it zero. -/
def scaledFloat (mantissa : Nat) (exponent : Int) : Float :=
  let digits := (Nat.toDigits 10 mantissa).length
  if mantissa == 0 || digits + exponent < -400 then 0.0
  else if 400 < digits + exponent then 1.0 / 0.0
  else Float.ofScientific mantissa (exponent < 0) exponent.natAbs

end SpeechHost.Text
