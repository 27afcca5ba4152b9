import SpeechHost.Settings.Toml.Node
import SpeechHost.Text.Scan
/-!
# Settings in TOML
-/

namespace SpeechHost.Settings.Toml

open SpeechHost.Text

/-! ## Tokens -/

/-- A blank within a line. -/
def isSpace (c : Char) : Bool :=
  c == ' ' || c == '\t'

/-- Whether a character may stand in a comment or a string. -/
def isPlain (c : Char) : Bool :=
  c == '\t' || (0x20 ≤ c.toNat && c.toNat != 0x7F)

def space : Scan Unit := Scan.skip isSpace

def comment : Scan Unit := do
  if ← Scan.accepts "#" then Scan.skip isPlain

def lineBreak : Scan Unit := do
  let _ ← Scan.accepts "\r"
  Scan.text "\n"

/-- The rest of a line that says nothing more. -/
def endOfLine : Scan Unit := do
  space
  comment
  if !(← Scan.atEnd) then lineBreak

/-- Passes over blanks, comments and line breaks. -/
def gap : (fuel : Nat) → Scan Unit
  | 0 => failure
  | fuel + 1 => do
    space
    comment
    if (← Scan.sees "\n") then
      lineBreak
      gap fuel
    else if (← Scan.sees "\r") then
      lineBreak
      gap fuel

/-! ## Strings -/

def escape : Scan Char := do
  match ← Scan.next with
  | 'b' => return '\x08'
  | 't' => return '\t'
  | 'n' => return '\n'
  | 'f' => return '\x0c'
  | 'r' => return '\r'
  | 'e' => return '\x1b'
  | '"' => return '"'
  | '\\' => return '\\'
  | 'x' => code 2
  | 'u' => code 4
  | 'U' => code 8
  | _ => failure
where
  /-- The character whose code point is written with `count` digits. -/
  code (count : Nat) : Scan Char := do
    let some c := charOf? (← Scan.hex count) | failure
    return c

/-- The rest of a string on one line, behind its quotation mark. -/
def stringRest (mark : Char) (escapes : Bool) : (fuel : Nat) → Scan (List Char)
  | 0 => failure
  | fuel + 1 => do
    let c ← Scan.next
    if c == mark then return []
    if c == '\\' && escapes then
      let c ← escape
      return c :: (← stringRest mark escapes fuel)
    Scan.require (isPlain c)
    return c :: (← stringRest mark escapes fuel)

def endsLine : Scan Bool := do
  let cs ← Scan.rest
  match cs.dropWhile isSpace with
  | '\n' :: _ => return true
  | '\r' :: '\n' :: _ => return true
  | _ => return false

/-- The characters behind blanks and line breaks. -/
def behindBreaks : List Char → List Char
  | [] => []
  | '\r' :: '\n' :: cs => behindBreaks cs
  | c :: cs => if isSpace c || c == '\n' then behindBreaks cs else c :: cs

/-- The rest of a string on many lines, behind its three quotation marks. Up to two more marks in
front of the last three belong to the string. -/
def longStringRest (mark : Char) (escapes : Bool) : (fuel : Nat) → Scan (List Char)
  | 0 => failure
  | fuel + 1 => do
    let marks := fun n => String.ofList (List.replicate n mark)
    if ← Scan.accepts (marks 5) then return [mark, mark]
    if ← Scan.accepts (marks 4) then return [mark]
    if ← Scan.accepts (marks 3) then return []
    let c ← Scan.next
    if c == '\\' && escapes then
      if ← endsLine then
        modify behindBreaks
        longStringRest mark escapes fuel
      else
        let c ← escape
        return c :: (← longStringRest mark escapes fuel)
    else if c == '\r' then
      Scan.text "\n"
      return '\r' :: '\n' :: (← longStringRest mark escapes fuel)
    else
      Scan.require (c == '\n' || isPlain c)
      return c :: (← longStringRest mark escapes fuel)

def shortString (mark : Char) (escapes : Bool) : Scan String := do
  Scan.text mark.toString
  return String.ofList (← stringRest mark escapes (← Scan.fuel))

/-- A string on many lines; a line break right behind the marks does not count. -/
def longString (mark : Char) (escapes : Bool) : Scan String := do
  Scan.text (String.ofList [mark, mark, mark])
  if !(← Scan.accepts "\n") then
    let _ ← Scan.accepts "\r\n"
  return String.ofList (← longStringRest mark escapes (← Scan.fuel))

/-! ## Keys -/

/-- Whether a character may stand in a key without quotation marks. -/
def isBare (c : Char) : Bool :=
  c.isAlphanum || c == '_' || c == '-'

def simpleKey : Scan String := do
  match ← Scan.peek? with
  | some '"' => shortString '"' true
  | some '\'' => shortString '\'' false
  | _ =>
    let cs ← Scan.span isBare
    Scan.require (!cs.isEmpty)
    return String.ofList cs

/-- How many parts a key may have, and how deep lists and tables may be nested. -/
def maxDepth : Nat := 80

/-- A key of at most `room` parts, separated by dots. -/
def keyParts : (room : Nat) → Scan (List String)
  | 0 => failure
  | room + 1 => do
    space
    let part ← simpleKey
    space
    if ← Scan.accepts "." then return part :: (← keyParts room)
    return [part]

def key : Scan (List String) := keyParts maxDepth

/-! ## Numbers and dates -/

/-- Digits that may be grouped by single underscores; the groups are not empty. -/
def grouped? (base : Nat) (cs : List Char) : Option (List Char) :=
  let groups := cs.splitOn '_'
  if groups.all fun g => !g.isEmpty && g.all (isDigitOf base) then some groups.flatten else none

/-- Digits without a zero in front of others. -/
def decimal? (cs : List Char) : Option (List Char) := do
  let ds ← grouped? 10 cs
  guard (ds == ['0'] || ds.head? != some '0')
  return ds

def unsigned (cs : List Char) : Bool × List Char :=
  match cs with
  | '-' :: cs => (true, cs)
  | '+' :: cs => (false, cs)
  | cs => (false, cs)

def inRange? (n : Int) : Option Value :=
  if minInt ≤ n && n ≤ maxInt then some (.int n) else none

def integer? (cs : List Char) : Option Value :=
  match cs with
  | '0' :: 'x' :: cs => do inRange? (valueOf 16 (← grouped? 16 cs))
  | '0' :: 'o' :: cs => do inRange? (valueOf 8 (← grouped? 8 cs))
  | '0' :: 'b' :: cs => do inRange? (valueOf 2 (← grouped? 2 cs))
  | cs => do
    let (negative, cs) := unsigned cs
    let n : Int := valueOf 10 (← decimal? cs)
    inRange? (if negative then -n else n)

def float? (cs : List Char) : Option Value := do
  let (negative, cs) := unsigned cs
  let sign := fun (x : Float) => Value.float (if negative then -x else x)
  if cs == "inf".toList then return sign (1.0 / 0.0)
  if cs == "nan".toList then return .float (0.0 / 0.0)
  let isExponent := fun c => c == 'e' || c == 'E'
  let front := cs.takeWhile (!isExponent ·)
  let (whole, fraction) := front.span (· != '.')
  let ds ← decimal? whole
  let fs ← match fraction with
    | [] => some []
    | _ :: fs => grouped? 10 fs
  let exponent : Int ← match cs.dropWhile (!isExponent ·) with
    | [] => some 0
    | _ :: es => do
      let (down, es) := unsigned es
      let n : Int := valueOf 10 (← grouped? 10 es)
      some (if down then -n else n)
  guard (cs.any fun c => c == '.' || isExponent c)
  let x := scaledFloat (valueOf 10 (ds ++ fs)) (exponent - fs.length)
  guard x.isFinite
  return sign x

/-- A number of exactly `count` digits, within bounds. -/
def field? (count low high : Nat) (cs : List Char) : Option (List Char) := do
  let ds := cs.take count
  guard (ds.length == count && ds.all (isDigitOf 10))
  guard (low ≤ valueOf 10 ds && valueOf 10 ds ≤ high)
  return cs.drop count

def daysOf (year month : Nat) : Nat :=
  if month == 2 then
    if year % 4 == 0 && (year % 100 != 0 || year % 400 == 0) then 29 else 28
  else if [4, 6, 9, 11].contains month then 30
  else 31

def date? (cs : List Char) : Option (List Char) := do
  let '-' :: rest ← field? 4 0 9999 cs | none
  let '-' :: rest' ← field? 2 1 12 rest | none
  field? 2 1 (daysOf (valueOf 10 (cs.take 4)) (valueOf 10 (rest.take 2))) rest'

/-- A time of day at the front, with or without seconds; gives its text and what is behind it. A
fraction of a second keeps nine digits, and of the zeros at its end only one that is alone. -/
def time? (cs : List Char) : Option (List Char × List Char) := do
  let ':' :: rest ← field? 2 0 23 cs | none
  let ':' :: rest ← field? 2 0 59 rest | return (cs.take 5, cs.drop 5)
  let rest ← field? 2 0 60 rest
  match rest with
  | '.' :: rest =>
    let (ds, rest) := rest.span (isDigitOf 10)
    guard (!ds.isEmpty)
    let ds := ((ds.take 9).reverse.dropWhile (· == '0')).reverse
    return (cs.take 8 ++ '.' :: (if ds.isEmpty then ['0'] else ds), rest)
  | rest => return (cs.take 8, rest)

/-- How far a time is from that of Greenwich; gives its text. No distance at all has a plus sign. -/
def offset? : List Char → Option (List Char)
  | [] => some []
  | ['Z'] | ['z'] => some ['Z']
  | sign :: cs => do
    guard (sign == '+' || sign == '-')
    let ':' :: rest ← field? 2 0 23 cs | none
    let [] ← field? 2 0 59 rest | none
    return (if cs.all fun c => c == '0' || c == ':' then '+' else sign) :: cs

def moment? (cs : List Char) : Option Value :=
  match date? cs with
  | none => do
    let (time, []) ← time? cs | none
    return .text (String.ofList time)
  | some [] => some (.text (String.ofList cs))
  | some (mark :: rest) => do
    guard (mark == 'T' || mark == 't' || mark == ' ')
    let (time, rest) ← time? rest
    return .text (String.ofList (cs.take 10 ++ 'T' :: time ++ (← offset? rest)))

/-- Takes a word that is no string: letters, digits and signs. A date takes the time behind a blank
with it. -/
def word : Scan (List Char) := do
  let isPart := fun c : Char => c.isAlphanum || ['_', '-', '+', '.', ':'].contains c
  let cs ← Scan.span isPart
  match date? cs, ← Scan.rest with
  | some [], ' ' :: d :: _ =>
    if d.isDigit then
      let _ ← Scan.next
      return cs ++ ' ' :: (← Scan.span isPart)
    else return cs
  | _, _ => return cs

def ofWord? (cs : List Char) : Option Value :=
  if cs == "true".toList then some (.bool true)
  else if cs == "false".toList then some (.bool false)
  else integer? cs <|> float? cs <|> moment? cs

/-! ## Values -/

mutual

/-- A value, in which there is room for lists and tables nested so deep. -/
def value (room : Nat) : (fuel : Nat) → Scan Value
  | 0 => failure
  | fuel + 1 => do
    match ← Scan.peek? with
    | some '"' => .text <$> (longString '"' true <|> shortString '"' true)
    | some '\'' => .text <$> (longString '\'' false <|> shortString '\'' false)
    | some '[' => do
      Scan.text "["
      Scan.require (0 < room)
      .list <$> elements (room - 1) fuel
    | some '{' => do
      Scan.text "\x7b"
      Scan.require (0 < room)
      return (Node.table .header (← members (room - 1) [] fuel)).toValue
    | _ => do
      let some v := ofWord? (← word) | failure
      return v

def elements (room : Nat) : (fuel : Nat) → Scan (List Value)
  | 0 => failure
  | fuel + 1 => do
    gap (← Scan.fuel)
    if ← Scan.accepts "]" then return []
    let v ← value room fuel
    gap (← Scan.fuel)
    if ← Scan.accepts "," then return v :: (← elements room fuel)
    Scan.text "]"
    return [v]

/-- The members of a table in braces, to its end. Its pieces may stand on lines of their own. -/
def members (room : Nat) (es : Entries) : (fuel : Nat) → Scan Entries
  | 0 => failure
  | fuel + 1 => do
    gap (← Scan.fuel)
    if ← Scan.accepts "\x7d" then return es
    let k ← key
    gap (← Scan.fuel)
    Scan.text "="
    gap (← Scan.fuel)
    let v ← value room fuel
    gap (← Scan.fuel)
    let some es := define v k es | failure
    if ← Scan.accepts "," then members room es fuel
    else do
      Scan.text "\x7d"
      return es

end

/-! ## Documents -/

/-- What has been read: the header that counts now, and all entries. -/
structure Draft where
  header : List String
  entries : Entries

def header (d : Draft) : Scan Draft := do
  let many ← Scan.accepts "["
  let path ← key
  Scan.text (if many then "]]" else "]")
  let some last := path.getLast? | failure
  let step := if many then openItem last else openTable last
  let some entries := descend step path.dropLast d.entries | failure
  return ⟨path, entries⟩

def entry (d : Draft) : Scan Draft := do
  let k ← key
  Scan.text "="
  space
  let v ← value maxDepth (← Scan.fuel)
  let some entries := descend (define v k) d.header d.entries | failure
  return { d with entries }

/-- One line, or more if a value goes on. -/
def line (d : Draft) : Scan Draft := do
  space
  let d ← match ← Scan.peek? with
    | some '[' => do
      Scan.text "["
      header d
    | none | some '#' | some '\n' | some '\r' => pure d
    | _ => entry d
  endOfLine
  return d

def document (d : Draft) : (fuel : Nat) → Scan Entries
  | 0 => failure
  | fuel + 1 => do
    if ← Scan.atEnd then return d.entries
    document (← line d) fuel

def read? (s : String) : Option Value := do
  let entries ← Scan.whole (do document ⟨[], []⟩ (← Scan.fuel)) s
  return .table (toValues entries)

end SpeechHost.Settings.Toml
