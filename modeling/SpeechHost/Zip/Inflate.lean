import SpeechHost.Zip.Code
/-!
# Compressed data

Data comes in blocks: stored as it is, or as words of two prefix codes, one for bytes and lengths
and one for distances, which are fixed or stand in front of the block. A length and a distance
repeat what was put out before.
-/

namespace SpeechHost.Zip

open SpeechHost.Storage

structure Codes where
  literals : Code
  distances : Code

def endOfBlock : Nat := 256

/-- How many symbols for bytes and lengths may have words. -/
def maxLiterals : Nat := 286

/-- How many symbols for distances may have words. -/
def maxDistances : Nat := 30

/-- The codes of a block that brings none. -/
def Codes.fixed : Codes :=
  ⟨.ofLengths (List.replicate 144 8 ++ List.replicate 112 9 ++ List.replicate 24 7 ++
    List.replicate 8 8), .ofLengths (List.replicate 32 5)⟩

/-- The least length and the number of further bits for each symbol of a length. -/
def lengthTable : List (Nat × Nat) :=
  [(3, 0), (4, 0), (5, 0), (6, 0), (7, 0), (8, 0), (9, 0), (10, 0), (11, 1), (13, 1), (15, 1),
    (17, 1), (19, 2), (23, 2), (27, 2), (31, 2), (35, 3), (43, 3), (51, 3), (59, 3), (67, 4),
    (83, 4), (99, 4), (115, 4), (131, 5), (163, 5), (195, 5), (227, 5), (258, 0)]

/-- The least distance and the number of further bits for each symbol of a distance. -/
def distanceTable : List (Nat × Nat) :=
  [(1, 0), (2, 0), (3, 0), (4, 0), (5, 1), (7, 1), (9, 2), (13, 2), (17, 3), (25, 3), (33, 4),
    (49, 4), (65, 5), (97, 5), (129, 6), (193, 6), (257, 7), (385, 7), (513, 8), (769, 8),
    (1025, 9), (1537, 9), (2049, 10), (3073, 10), (4097, 11), (6145, 11), (8193, 12), (12289, 12),
    (16385, 13), (24577, 13)]

/-- Takes the number that a symbol begins. -/
def takeNumber (table : List (Nat × Nat)) (symbol : Nat) (bits : Bits) :
    Except DataError (Nat × Bits) :=
  match table[symbol]? with
  | none => .error .corrupt
  | some (least, more) => do
    let (n, bits) ← takeBits more bits
    return (least + n, bits)

/-- The byte so far back; in front of the first one there are zeros. -/
def byteBack (out : Array UInt8) (distance : Nat) : UInt8 :=
  if distance ≤ out.size then out.getD (out.size - distance) 0 else 0

/-- Repeats `length` bytes from `distance` bytes back, which may reach into themselves. -/
def repeatBack (out : Array UInt8) (distance : Nat) : (length : Nat) → Array UInt8
  | 0 => out
  | length + 1 => repeatBack (out.push (byteBack out distance)) distance length

/-- Repeats what the symbol of a length and the words behind it say. -/
def Codes.repetition (c : Codes) (symbol : Nat) (bits : Bits) (out : Array UInt8) :
    Except DataError (Bits × Array UInt8) := do
  let (length, bits) ← takeNumber lengthTable (symbol - endOfBlock - 1) bits
  let (symbol, bits) ← c.distances.read bits
  let (distance, bits) ← takeNumber distanceTable symbol bits
  return (bits, repeatBack out distance length)

/-- Puts out the words of a block. Every word takes a bit at least, so `fuel` is never short when it
is the number of bits. -/
def Codes.block (c : Codes) : (fuel : Nat) → Bits → Array UInt8 →
    Except DataError (Bits × Array UInt8)
  | 0, _, _ => .error .incomplete
  | fuel + 1, bits, out =>
    match c.literals.read bits with
    | .error e => .error e
    | .ok (symbol, bits) =>
      if symbol < endOfBlock then c.block fuel bits (out.push (UInt8.ofNat symbol))
      else if symbol == endOfBlock then .ok (bits, out)
      else
        match c.repetition symbol bits out with
        | .error e => .error e
        | .ok (bits, out) => c.block fuel bits out

def storedBytes : (n : Nat) → Bits → Array UInt8 → Except DataError (Bits × Array UInt8)
  | 0, bits, out => .ok (bits, out)
  | n + 1, bits, out =>
    match takeBits 8 bits with
    | .error e => .error e
    | .ok (b, bits) => storedBytes n bits (out.push (UInt8.ofNat b))

/-- Takes a stored block: its length, the same inverted, and its bytes, all from the next whole byte
on. -/
def storedBlock (bits : Bits) (out : Array UInt8) : Except DataError (Bits × Array UInt8) := do
  let bits := bits.drop (bits.length % 8)
  let (length, bits) ← takeBits 16 bits
  let (inverse, bits) ← takeBits 16 bits
  if length + inverse != 0xFFFF then throw .corrupt
  storedBytes length bits out

/-! ## Codes that stand in front of a block -/

/-- The order in which the lengths for the code of lengths are written. -/
def lengthOrder : List Nat :=
  [16, 17, 18, 0, 8, 7, 9, 6, 10, 5, 11, 4, 12, 3, 13, 2, 14, 1, 15]

def takeTriples : Nat → Bits → Except DataError (List Nat × Bits)
  | 0, bits => .ok ([], bits)
  | n + 1, bits => do
    let (x, bits) ← takeBits 3 bits
    let (xs, bits) ← takeTriples n bits
    return (x :: xs, bits)

/-- What a symbol of the code of lengths stands for: how often, and which length. -/
def takeRun (symbol : Nat) (before : Option Nat) (bits : Bits) :
    Except DataError ((Nat × Nat) × Bits) := do
  match symbol with
  | 16 =>
    let some length := before | throw .corrupt
    let (n, bits) ← takeBits 2 bits
    return ((3 + n, length), bits)
  | 17 =>
    let (n, bits) ← takeBits 3 bits
    return ((3 + n, 0), bits)
  | 18 =>
    let (n, bits) ← takeBits 7 bits
    return ((11 + n, 0), bits)
  | length => return ((1, length), bits)

/-- Takes lengths of words, the last one first, until there are `count`. A run may not go beyond
that. Every run takes a length at least, so `fuel` is never short when it is `count`. -/
def takeLengths (c : Code) (count : Nat) : (fuel : Nat) → List Nat → Bits →
    Except DataError (List Nat × Bits)
  | 0, lengths, bits => .ok (lengths, bits)
  | fuel + 1, lengths, bits => do
    if count ≤ lengths.length then return (lengths, bits)
    let (symbol, bits) ← c.read bits
    let ((n, length), bits) ← takeRun symbol lengths.head? bits
    if count < lengths.length + n then throw .corrupt
    takeLengths c count fuel (List.replicate n length ++ lengths) bits

/-- Takes the codes of the next block. The code of their lengths has to be complete; the codes
themselves may have one word alone, or none. -/
def Codes.take (bits : Bits) : Except DataError (Codes × Bits) := do
  let (literals, bits) ← takeBits 5 bits
  let (distances, bits) ← takeBits 5 bits
  let (lengths, bits) ← takeBits 4 bits
  let literals := 257 + literals
  let distances := 1 + distances
  if maxLiterals < literals || maxDistances < distances then throw .corrupt
  let (triples, bits) ← takeTriples (4 + lengths) bits
  let code := Code.ofLengths
    ((List.range 19).map fun n => (lengthOrder.zip triples).lookup n |>.getD 0)
  if !code.isComplete then throw .corrupt
  let (all, bits) ← takeLengths code (literals + distances) (literals + distances) [] bits
  let all := all.reverse
  let c : Codes := ⟨.ofLengths (all.take literals), .ofLengths (all.drop literals)⟩
  if !(c.literals.isComplete || c.literals.isLone) then throw .corrupt
  if !(c.distances.isComplete || c.distances.isLone) then throw .corrupt
  return (c, bits)

/-! ## The whole -/

/-- Puts out blocks until the last one. Every block takes three bits at least, so `fuel` is never
short when it is the number of bits. -/
def blocks : (fuel : Nat) → Bits → Array UInt8 → Except DataError (Array UInt8)
  | 0, _, _ => .error .incomplete
  | fuel + 1, bits, out => do
    let (last, bits) ← takeBits 1 bits
    let (kind, bits) ← takeBits 2 bits
    let (bits, out) ← match kind with
      | 0 => storedBlock bits out
      | 1 => Codes.fixed.block (bits.length + 1) bits out
      | 2 => do
        let (c, bits) ← Codes.take bits
        c.block (bits.length + 1) bits out
      | _ => .error .corrupt
    if last == 1 then return out
    blocks fuel bits out

/-- The bytes that compressed data stands for. What follows the last block does not count. -/
def inflate (data : Bytes) : Except DataError Bytes := do
  let bits := bitsOf data
  return (← blocks (bits.length + 1) bits #[]).toList

end SpeechHost.Zip
