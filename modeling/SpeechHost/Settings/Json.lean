import SpeechHost.Settings.Value
import SpeechHost.Text.Scan
/-!
# Settings in JSON

Numbers with a fraction or an exponent are read in floating-point arithmetic: as many digits in
front as fit in a word, times or divided by a power of ten. The result may differ from the nearest
number in its last digit.
-/

namespace SpeechHost.Settings.Json

open SpeechHost.Text

/-- Whether a character may stand between tokens. -/
def isSpace (c : Char) : Bool :=
  c == ' ' || c == '\t' || c == '\n' || c == '\r'

def space : Scan Unit := Scan.skip isSpace

/-- The character of an escape, behind the backslash. Two escapes write a character that takes two
units. -/
def escape : Scan Char := do
  match ← Scan.next with
  | '"' => return '"'
  | '\\' => return '\\'
  | '/' => return '/'
  | 'b' => return '\x08'
  | 'f' => return '\x0c'
  | 'n' => return '\n'
  | 'r' => return '\r'
  | 't' => return '\t'
  | 'u' =>
    let high ← Scan.hex 4
    if 0xD800 ≤ high && high < 0xDC00 then
      Scan.text "\\u"
      let low ← Scan.hex 4
      Scan.require (0xDC00 ≤ low && low < 0xE000)
      return Char.ofNat (0x10000 + (high - 0xD800) * 0x400 + (low - 0xDC00))
    else
      let some c := charOf? high | failure
      return c
  | _ => failure

def stringRest : (fuel : Nat) → Scan (List Char)
  | 0 => failure
  | fuel + 1 => do
    match ← Scan.next with
    | '"' => return []
    | '\\' =>
      let c ← escape
      return c :: (← stringRest fuel)
    | c =>
      Scan.require (0x20 ≤ c.toNat)
      return c :: (← stringRest fuel)

def string : Scan String := do
  Scan.text "\""
  return String.ofList (← stringRest (← Scan.fuel))

def digits : Scan (List Char) := do
  let ds ← Scan.span (isDigitOf 10)
  Scan.require (!ds.isEmpty)
  return ds

def exponent? : Scan (Option Int) := do
  match ← Scan.peek? with
  | some 'e' | some 'E' =>
    let _ ← Scan.next
    match ← Scan.peek? with
    | some '-' =>
      let _ ← Scan.next
      return some (-(valueOf 10 (← digits) : Int))
    | some '+' =>
      let _ ← Scan.next
      return some (valueOf 10 (← digits))
    | _ => return some (valueOf 10 (← digits))
  | _ => return none

/-- The numbers that a word does not hold. -/
def wordLimit : Nat := 0x10000000000000000

/-- Adds digits to a number for as long as a word holds it; gives how many are left over. -/
def addDigits (n : Nat) : List Char → Nat × Nat
  | [] => (n, 0)
  | c :: cs =>
    let more := n * 10 + (digitOf? 10 c).getD 0
    if more < wordLimit then addDigits more cs else (n, cs.length + 1)

/-- The greatest power of ten that is a floating-point number. -/
def maxPower : Nat := 308

def powerOfTen (n : Nat) : Float :=
  Float.ofScientific 1 false n

/-- A number times a power of ten, unless that is out of range. What is too small is divided
until the power is in reach or nothing is left. -/
def scale? (x : Float) (exponent : Int) : Option Float :=
  if exponent.natAbs ≤ maxPower then
    if exponent < 0 then some (x / powerOfTen exponent.natAbs)
    else
      let y := x * powerOfTen exponent.natAbs
      if y.isInf then none else some y
  else if x == 0 then some x
  else if _h : 0 ≤ exponent then none
  else scale? (x / powerOfTen maxPower) (exponent + maxPower)
termination_by (-exponent).toNat
decreasing_by simp [maxPower]; omega

/-- A number. Whole numbers that no word holds, and minus zero, are kept as fractions. -/
def number : Scan Value := do
  let isNegative ← Scan.accepts "-"
  let whole ← digits
  Scan.require (whole == ['0'] || whole.head? != some '0')
  let fraction ← if ← Scan.accepts "." then digits else pure []
  let exponent ← exponent?
  let (n, dropped) := addDigits 0 whole
  if fraction.isEmpty && exponent.isNone && dropped == 0 then
    if !isNegative then return .int n
    if n != 0 && (n : Int) ≤ -minInt then return .int (-n)
  let (n, unused) := addDigits n fraction
  let shift : Int := exponent.getD 0 + dropped + unused - fraction.length
  let some x := scale? (Float.ofNat n) shift | failure
  return .float (if isNegative then -x else x)

/-- How deep lists and tables may be nested. -/
def maxDepth : Nat := 127

mutual

/-- A value, in which there is room for lists and tables nested so deep. -/
def value (room : Nat) : (fuel : Nat) → Scan Value
  | 0 => failure
  | fuel + 1 => do
    space
    let v ← match ← Scan.peek? with
      | some '{' => do
        Scan.text "\x7b"
        Scan.require (0 < room)
        space
        if ← Scan.accepts "\x7d" then pure (.table [])
        else (.table <| lastEntries ·) <$> members (room - 1) fuel
      | some '[' => do
        Scan.text "["
        Scan.require (0 < room)
        space
        if ← Scan.accepts "]" then pure (.list [])
        else .list <$> elements (room - 1) fuel
      | some '"' => .text <$> string
      | some 't' => do
        Scan.text "true"
        pure (.bool true)
      | some 'f' => do
        Scan.text "false"
        pure (.bool false)
      | some 'n' => do
        Scan.text "null"
        pure .null
      | _ => number
    space
    return v

def elements (room : Nat) : (fuel : Nat) → Scan (List Value)
  | 0 => failure
  | fuel + 1 => do
    let v ← value room fuel
    if ← Scan.accepts "," then return v :: (← elements room fuel)
    Scan.text "]"
    return [v]

def members (room : Nat) : (fuel : Nat) → Scan (List (String × Value))
  | 0 => failure
  | fuel + 1 => do
    space
    let key ← string
    space
    Scan.text ":"
    let v ← value room fuel
    if ← Scan.accepts "," then return (key, v) :: (← members room fuel)
    Scan.text "\x7d"
    return [(key, v)]

end

def read? (s : String) : Option Value :=
  Scan.whole (do value maxDepth (← Scan.fuel)) s

end SpeechHost.Settings.Json
