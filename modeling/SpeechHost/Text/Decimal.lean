/-!
# Decimal text of floating-point numbers

The shortest decimal that reads back as a given number, found in exact arithmetic, and its text
in positional notation.

A finite number is `m * 2 ^ q`. The reals that round to it form an interval around it, ends
included when `m` is even. A grid of step `10 ^ k` has a point in that interval exactly when one
of the two grid points next to the number lies there, so the coarsest grid with such a
neighbour gives the shortest decimal, and the nearer neighbour its digits.
-/

namespace SpeechHost.Text.Decimal

structure Scaled where
  digits : Nat
  exponent : Int

/-- The reals that round to a number, over a common denominator: the number itself, the two
ends, and whether the ends belong to it. -/
structure Interval where
  low : Nat
  value : Nat
  high : Nat
  denominator : Nat
  closed : Bool

/-- The bit in front of the fraction, which is not written. -/
def hiddenBit : Nat := 0x10000000000000

/-- The interval of the number with the given fraction and exponent fields. Above a power of
two the lower neighbour is only half as far away. -/
def Interval.ofFields (fraction exponent : Nat) : Interval :=
  let m := if exponent == 0 then fraction else fraction + hiddenBit
  let q : Int := (if exponent == 0 then 1 else (exponent : Int)) - 1075 - 2
  let below := if fraction == 0 && 1 < exponent then 4 * m - 1 else 4 * m - 2
  let up := Nat.pow 2 q.toNat
  ⟨below * up, 4 * m * up, (4 * m + 2) * up, Nat.pow 2 (-q).toNat, m % 2 == 0⟩

/-- Whether `n * step` lies in the interval, `n` not zero. -/
def Interval.hits (i : Interval) (step n : Nat) : Bool :=
  n != 0 &&
    if i.closed then i.low ≤ n * step && n * step ≤ i.high
    else i.low < n * step && n * step < i.high

/-- The neighbour of the number on the grid of step `10 ^ k` that lies in the interval, the
nearer one if both do. -/
def Interval.onGrid? (i : Interval) (k : Int) : Option Nat :=
  let scaled : Interval :=
    let s := Nat.pow 10 (-k).toNat
    ⟨i.low * s, i.value * s, i.high * s, i.denominator, i.closed⟩
  let step := scaled.denominator * Nat.pow 10 k.toNat
  let n := scaled.value / step
  let rest := scaled.value % step
  match scaled.hits step n, scaled.hits step (n + 1) with
  | true, true => some (if 2 * rest < step || (2 * rest == step && n % 2 == 0) then n else n + 1)
  | true, false => some n
  | false, true => some (n + 1)
  | false, false => none

/-- The first grid with a hit, of the `count` grids from step `10 ^ k` down. -/
def Interval.coarsest? (i : Interval) (k : Int) : Nat → Option Scaled
  | 0 => none
  | count + 1 =>
    match i.onGrid? k with
    | some n => some ⟨n, k⟩
    | none => i.coarsest? (k - 1) count

/-- The shortest decimal of a positive number. Steps from `10 ^ 309` to `10 ^ (-324)` cover every
one. -/
def shortest (fraction exponent : Nat) : Scaled :=
  ((Interval.ofFields fraction exponent).coarsest? 309 634).getD ⟨0, 0⟩

/-- Positional notation: no exponent, and a point only where digits stand behind it. -/
def Scaled.positional (d : Scaled) : String :=
  let digits := (Nat.toDigits 10 d.digits)
  if 0 ≤ d.exponent then
    String.ofList (digits ++ List.replicate d.exponent.toNat '0')
  else
    let places := (-d.exponent).toNat
    let padded := List.replicate (places + 1 - digits.length) '0' ++ digits
    let point := padded.length - places
    String.ofList (padded.take point ++ '.' :: padded.drop point)

/-- The text of a number: `inf`, `NaN`, or a sign and the shortest digits. -/
def ofFloat (x : Float) : String :=
  let bits := x.toBits.toNat
  let fraction := bits % hiddenBit
  let exponent := bits / hiddenBit % 0x800
  let sign := if bits.testBit 63 then "-" else ""
  if exponent == 2047 then
    if fraction == 0 then sign ++ "inf" else "NaN"
  else if fraction == 0 && exponent == 0 then sign ++ "0"
  else sign ++ (shortest fraction exponent).positional

end SpeechHost.Text.Decimal
