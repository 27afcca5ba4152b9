import SpeechHost.Settings.Yaml.Cursor
import SpeechHost.Text.Scan
/-!
# Scalars of YAML

A scalar is plain, stands in quotation marks, or is a block of lines behind a mark. Plain and quoted
scalars may go on over lines: a single line break stands for a blank, and of several ones the first
does not count. In a block the lines count as they are, or are folded in this way.
-/

namespace SpeechHost.Settings.Yaml

open SpeechHost.Text

namespace Scanning

def breaks (n : Nat) : List Char :=
  List.replicate n '\n'

/-- What separates two words of a scalar. -/
structure Gap where
  /-- The blanks, if all stand in one line. -/
  blanks : List Char
  /-- Whether the line ends. -/
  isBroken : Bool
  /-- Whether a backslash ended it, so that this break does not count. -/
  isEscaped : Bool
  /-- How many breaks count. -/
  breaks : Nat

def Gap.text (g : Gap) : List Char :=
  if !g.isBroken then g.blanks
  else if g.isEscaped then Scanning.breaks g.breaks
  else if g.breaks == 1 then [' ']
  else Scanning.breaks (g.breaks - 1)

def Gap.addBreak (g : Gap) : Gap :=
  { g with blanks := [], isBroken := true, breaks := g.breaks + 1 }

/-! ## Quotation marks -/

/-- The character of an escape, in front of its backslash. -/
def escape : Scanning Char := do
  let c ← look 1
  skip 2
  match c with
  | '0' => return '\x00'
  | 'a' => return '\x07'
  | 'b' => return '\x08'
  | 't' | '\t' => return '\t'
  | 'n' => return '\n'
  | 'v' => return '\x0b'
  | 'f' => return '\x0c'
  | 'r' => return '\r'
  | 'e' => return '\x1b'
  | ' ' => return ' '
  | '"' => return '"'
  | '/' => return '/'
  | '\\' => return '\\'
  | 'N' => return '\u0085'
  | '_' => return '\u00a0'
  | 'L' => return '\u2028'
  | 'P' => return '\u2029'
  | 'x' => code 2
  | 'u' => code 4
  | 'U' => code 8
  | _ => failure
where
  /-- The character whose code point is written with `count` digits. -/
  code (count : Nat) : Scanning Char := do
    let digits := (← get).rest.take count
    require (digits.length == count && digits.all (isDigitOf 16))
    skip count
    let some c := charOf? (valueOf 16 digits) | failure
    return c

/-- Takes a word inside quotation marks, up to a blank, a break or the closing mark. Says whether a
backslash ended the line behind it. -/
def quotedWord (isSingle : Bool) : Scanning (List Char × Bool) := do
  go ((← get).rest.length + 1)
where
  /-- Takes at most `fuel` characters. -/
  go : (fuel : Nat) → Scanning (List Char × Bool)
    | 0 => failure
    | fuel + 1 => do
      let c ← look 0
      let d ← look 1
      if endsWord c then return ([], false)
      else if isSingle && c == '\'' && d == '\'' then
        skip 2
        add '\'' fuel
      else if c == (if isSingle then '\'' else '"') then return ([], false)
      else if !isSingle && c == '\\' && isBreak d then
        skip 1
        skipBreak
        return ([], true)
      else if !isSingle && c == '\\' then add (← escape) fuel
      else
        skip 1
        add c fuel
  /-- A character in front of the rest of the word. -/
  add (c : Char) (fuel : Nat) : Scanning (List Char × Bool) := do
    let (cs, isEscaped) ← go fuel
    return (c :: cs, isEscaped)

def quotedGap (g : Gap) : (fuel : Nat) → Scanning Gap
  | 0 => failure
  | fuel + 1 => do
    let c ← look 0
    if isBlank c then
      if g.isBroken then
        let place := (← get).place
        require (c != '\t' || (← get).indent ≤ (place.column : Int))
        pass 1
        quotedGap g fuel
      else
        pass 1
        quotedGap { g with blanks := g.blanks ++ [c] } fuel
    else if isBreak c then
      skipBreak
      quotedGap g.addBreak fuel
    else return g

def quotedRest (isSingle : Bool) : (fuel : Nat) → Scanning (List Char)
  | 0 => failure
  | fuel + 1 => do
    require !(← seesDocumentMark)
    require ((← look 0) != textEnd)
    let c ← get
    require (c.indent ≤ (c.place.column : Int))
    let (word, isEscaped) ← quotedWord isSingle
    if (← look 0) == (if isSingle then '\'' else '"') then
      skip 1
      return word
    let gap ← quotedGap ⟨[], isEscaped, isEscaped, 0⟩ ((← get).rest.length + 1)
    return word ++ gap.text ++ (← quotedRest isSingle fuel)

/-- A scalar in quotation marks. Behind it the line ends, or comes what may follow a key or an
item; a key with quotation marks stands in one line. -/
def quoted (isSingle : Bool) : Scanning String := do
  let line := (← get).place.line
  skip 1
  let text ← quotedRest isSingle ((← get).rest.length + 2)
  let _ ← skipToLineEnd true
  let c ← look 0
  let cursor ← get
  require (endsLine c || (c == ':' && (cursor.depth != 0 || line == cursor.place.line)) ||
    (cursor.depth != 0 && [',', ']', '\x7d'].contains c))
  return String.ofList text

/-! ## Plain scalars -/

/-- Whether the next character may stand in a plain scalar. -/
def seesPlain : Scanning Bool := do
  let inFlow := (← get).depth != 0
  let c ← look 0
  let d ← look 1
  return !(endsWord c || (c == ':' && (endsWord d || (inFlow && isFlowSign d))) ||
    (inFlow && isFlowSign c))

def plainWord : Scanning (List Char) := do
  go ((← get).rest.length + 1)
where
  /-- Takes at most `fuel` characters. -/
  go : (fuel : Nat) → Scanning (List Char)
    | 0 => failure
    | fuel + 1 => do
      if ← seesPlain then
        let c ← look 0
        skip 1
        return c :: (← go fuel)
      else return []

/-- Takes what separates words of a plain scalar that is indented by `indent`. A tab may stand in
front of that indentation if the line says nothing. -/
def plainGap (indent : Int) (g : Gap) : (fuel : Nat) → Scanning Gap
  | 0 => failure
  | fuel + 1 => do
    let c ← look 0
    if isBlank c then
      if !g.isBroken then
        pass 1
        plainGap indent { g with blanks := g.blanks ++ [c] } fuel
      else if ((← get).place.column : Int) < indent && c == '\t' then
        let _ ← skipToLineEnd true
        require (endsLine (← look 0))
        plainGap indent g fuel
      else
        pass 1
        plainGap indent g fuel
    else if isBreak c then
      skipBreak
      plainGap indent g.addBreak fuel
    else return g

/-- The words of a plain scalar, behind the words so far and a gap. -/
def plainWords (indent : Int) (text gap : List Char) : (fuel : Nat) → Scanning (List Char)
  | 0 => failure
  | fuel + 1 => do
    let c ← look 0
    let inFlow := (← get).depth != 0
    if (← seesDocumentMark) || c == '#' then return text
    require !(inFlow && c == '-' && isFlowSign (← look 1))
    let word ← plainWord
    let text := if word.isEmpty then text else text ++ gap ++ word
    if endsWord (← look 0) && (← look 0) != textEnd then
      let next ← plainGap indent ⟨[], false, false, 0⟩ ((← get).rest.length + 1)
      if !inFlow && ((← get).place.column : Int) < indent then return text
      plainWords indent text next.text fuel
    else return text

/-- A plain scalar. It goes on over lines that are indented. -/
def plain : Scanning String := do
  releaseMargin
  let c ← get
  let indent := c.indent + 1
  require (c.depth == 0 || indent ≤ (c.place.column : Int))
  let text ← plainWords indent [] [] (c.rest.length + 1)
  if (← get).isLeading then allowKey true
  require !text.isEmpty
  return String.ofList text

/-! ## Blocks of lines -/

/-- What becomes of the breaks at the end of a block. -/
inductive Ending where
  /-- One is kept. -/
  | clip
  /-- None is kept. -/
  | strip
  /-- All are kept. -/
  | keep
  deriving DecidableEq, Repr

def ending? : Scanning (Option Ending) := do
  match ← look 0 with
  | '+' =>
    skip 1
    return some .keep
  | '-' =>
    skip 1
    return some .strip
  | _ => return none

/-- The digit that tells how far a block is indented, if there is one. -/
def indentation? : Scanning (Option Nat) := do
  let c ← look 0
  if c.isDigit then
    require (c != '0')
    skip 1
    return some (c.toNat - '0'.toNat)
  else return none

/-- What stands behind the mark of a block, in either order. -/
def blockHeader : Scanning (Ending × Option Nat) := do
  match ← ending? with
  | some e => return (e, ← indentation?)
  | none =>
    match ← indentation? with
    | none => return (.clip, none)
    | some n => return ((← ending?).getD .clip, some n)

/-- Passes over spaces up to a column, and over lines that have nothing else; gives the number of
these lines and the widest indentation that was seen. -/
def skipIndent (column : Option Nat) (lines widest : Nat) : (fuel : Nat) → Scanning (Nat × Nat)
  | 0 => failure
  | fuel + 1 => do
    let c ← get
    let spaces := (c.rest.takeWhile (· == ' ')).length
    pass (match column with
      | some column => min spaces (column - c.place.column)
      | none => spaces)
    let widest := max widest (← get).place.column
    if isBreak (← look 0) then
      skipBreak
      skipIndent column (lines + 1) widest fuel
    else return (lines, widest)

/-- The lines of a block that is indented by `indent`, behind the text so far and `lines` empty
lines. A fold joins two lines unless one of them begins with a blank. -/
def blockLines (isFolded : Bool) (indent : Nat) (text : List Char) (isFirst wasBlank : Bool)
    (lines : Nat) : (fuel : Nat) → Scanning (List Char × Bool × Nat)
  | 0 => failure
  | fuel + 1 => do
    let c ← look 0
    let ends := (← get).place.column != indent || c == textEnd ||
      (indent == 0 && (← seesMark "..."))
    if ends then return (text, !isFirst, lines)
    let between :=
      if isFolded && !isFirst && !wasBlank && !isBlank c then
        if lines == 0 then [' '] else breaks lines
      else breaks (if isFirst then lines else lines + 1)
    let line ← takeWhile (!endsLine ·)
    let text := text ++ between ++ line
    if (← look 0) == textEnd then return (text, false, 0)
    skipBreak
    let (lines, _) ← skipIndent (some indent) 0 0 ((← get).rest.length + 1)
    blockLines isFolded indent text false (isBlank c) lines fuel

/-- A block of lines behind its mark. -/
def block (isFolded : Bool) : Scanning String := do
  let line := (← get).place.line
  skip 1
  releaseMargin
  let (ending, increment) ← blockHeader
  let _ ← skipToLineEnd true
  require (endsLine (← look 0))
  if isBreak (← look 0) then skipBreak
  require ((← look 0) != '\t')
  let outer := (← get).indent
  let given := increment.map fun n => n + outer.toNat
  let (lines, widest) ← skipIndent given 0 0 ((← get).rest.length + 1)
  let indent := given.getD (max widest (outer + 1).toNat)
  let c ← get
  if (← look 0) == textEnd then
    if ending == .strip || c.place.line == line then return ""
    return String.ofList (breaks (if ending == .keep then max 1 lines else 1))
  require (indent ≤ c.place.column || (c.place.column : Int) ≤ outer)
  let (text, isBroken, lines) ← blockLines isFolded indent [] true false lines (c.rest.length + 1)
  let atEnd := (← look 0) == textEnd && max 1 indent ≤ (← get).place.column
  let last := if ending == .strip then 0 else (if isBroken then 1 else 0) + (if atEnd then 1 else 0)
  return String.ofList (text ++ breaks (last + if ending == .keep then lines else 0))

end Scanning

end SpeechHost.Settings.Yaml
