import SpeechHost.Storage.LittleEndian
import SpeechHost.Zip.Error
/-!
# Bits and prefix codes

Compressed data is a list of bits. A prefix code is given by the length of the code word of every
symbol; words of one length follow each other in the order of their symbols, and the words of each
length follow those of the lengths before. So a code is the list of its levels, each one the
symbols with words of that length, and a word is read by counting past the levels above.
-/

namespace SpeechHost.Zip

open SpeechHost.Storage

abbrev Bits := List Bool

/-- The bits of bytes, lowest bit first. -/
def bitsOf (bytes : Bytes) : Bits :=
  bytes.flatMap fun b => (List.range 8).map b.toNat.testBit

/-- Takes a number of `n` bits, lowest bit first. -/
def takeBits : Nat → Bits → Except DataError (Nat × Bits)
  | 0, bits => .ok (0, bits)
  | _ + 1, [] => .error .incomplete
  | n + 1, b :: bits => do
    let (high, bits) ← takeBits n bits
    return (b.toNat + 2 * high, bits)

def maxWord : Nat := 15

/-- A prefix code: the symbols of each length of word, from length 1 on. -/
abbrev Code := List (List Nat)

namespace Code

/-- The symbols with words of a length. -/
def level (lengths : List Nat) (length : Nat) : List Nat :=
  (lengths.zipIdx.filter (·.1 == length)).map (·.2)

/-- The code for the lengths of its words; no word has length 0. The last level is not empty. -/
def ofLengths (lengths : List Nat) : Code :=
  (List.range (lengths.foldl max 0)).map fun n => level lengths (n + 1)

/-- How much of all bit sequences begins with a word, in units of the longest words. -/
def weight (c : Code) : Nat :=
  c.zipIdx.foldl (fun w (symbols, n) => w + symbols.length * Nat.pow 2 (maxWord - (n + 1))) 0

def fullWeight : Nat := Nat.pow 2 maxWord

/-- Whether words can be told apart, and every bit sequence begins with one. -/
def isComplete (c : Code) : Bool :=
  c.weight == fullWeight

/-- Whether a code has one word at most. -/
def isLone (c : Code) : Bool :=
  c.flatten.length ≤ 1

/-- How many bits are compared at once. -/
def window : Nat := 10

/-- Reads a word of a complete code, `offset` being how many words of the length so far come before
what was read. -/
def readFrom : Code → (offset : Nat) → Bits → Except DataError (Nat × Bits)
  | [], _, _ => .error .corrupt
  | _ :: _, _, [] => .error .incomplete
  | symbols :: c, offset, b :: bits =>
    let place := 2 * offset + b.toNat
    match symbols[place]? with
    | some symbol => .ok (symbol, bits)
    | none => readFrom c (place - symbols.length) bits

/-- Reads the only word of a code, which has zeros alone, `depth` bits of it being read. A bit that
is not in it is refused in the first window, and ends a word for symbol 0 behind that. -/
def readLone : Code → (depth : Nat) → Bits → Except DataError (Nat × Bits)
  | _, _, [] => .error .incomplete
  | [], _, _ => .error .corrupt
  | symbols :: c, depth, b :: bits =>
    if b then if depth < window then .error .corrupt else .ok (0, bits)
    else match symbols with
      | symbol :: _ => .ok (symbol, bits)
      | [] => readLone c (depth + 1) bits

def read (c : Code) (bits : Bits) : Except DataError (Nat × Bits) :=
  if c.isLone then c.readLone 0 bits else c.readFrom 0 bits

end Code

end SpeechHost.Zip
