import SpeechHost.Settings.Yaml.Token
/-!
# A cursor in a text

Tokens are found in one pass over a text. The cursor knows where it stands, the tokens so far, which
of them may turn out to be a key, and which indentations are open. Whether a token is a key is known
only at the colon behind it, and so is whether a table begins in front of it: tokens are put in
later where they belong.
-/

namespace SpeechHost.Settings.Yaml

structure Place where
  index : Nat
  line : Nat
  column : Nat

/-- A token that is a key if a colon follows. -/
structure KeyCandidate where
  place : Place
  /-- How many tokens come before it. -/
  before : Nat
  /-- Whether the text is malformed if no colon follows. -/
  isRequired : Bool

structure Indent where
  /-- The indentation around it. -/
  outer : Int
  /-- Whether a block ends with it; otherwise it only keeps what belongs to a key away from the
  margin of the keys. -/
  isBlock : Bool

/-- A place in a text, and what is known there. -/
structure Cursor where
  rest : List Char
  place : Place
  /-- Whether nothing but blanks stands in front, in the line. -/
  isLeading : Bool
  tokens : Array Token
  /-- The column of the last token, if that is an anchor or a tag. -/
  propertyColumn : Option Nat
  /-- Whether a key may stand here. -/
  allowsKey : Bool
  /-- For the text and every open bracket in it, the innermost first: the token that may be a
  key. -/
  candidates : List (Option KeyCandidate)
  /-- The indentation that counts; there is none at `-1`. -/
  indent : Int
  /-- The indentations that are open, the innermost first. -/
  indents : List Indent
  /-- How many brackets are open. -/
  depth : Nat
  /-- Where a colon is one although no blank follows it. -/
  adjacentAt : Nat
  /-- Whether keys belong to a table with brackets. -/
  inTable : Bool
  /-- For every open list with brackets, the innermost first: whether a pair without brackets of its
  own is open in it. -/
  pairs : List Bool

def Cursor.start (text : List Char) : Cursor :=
  ⟨text.takeWhile (· != textEnd), ⟨0, 0, 0⟩, true, #[], none, true, [none], -1, [], 0, 0, false, []⟩

/-- Moves a cursor, or refuses the text. -/
abbrev Scanning := StateT Cursor Option

namespace Scanning

/-- The character `n` places ahead. -/
def look (n : Nat) : Scanning Char := fun c => some (c.rest[n]?.getD textEnd, c)

def require (holds : Bool) : Scanning Unit := fun c => if holds then some ((), c) else none

/-- Repeats a step for as long as it says so. Such a step takes a character at least, so the rest of
the text bounds their number. -/
def loop (step : Scanning Bool) : Scanning Unit := do
  go ((← get).rest.length + 1)
where
  /-- Repeats the step at most `fuel` times. -/
  go : (fuel : Nat) → Scanning Unit
    | 0 => failure
    | fuel + 1 => do
      if ← step then go fuel

/-- Passes over `n` blanks or other characters of the line, which leave open whether the line has
said something. -/
def pass (n : Nat) : Scanning Unit :=
  modify fun c => { c with
    rest := c.rest.drop n
    place := { c.place with index := c.place.index + n, column := c.place.column + n } }

/-- Passes over `n` characters of the line, which thereby says something. -/
def skip (n : Nat) : Scanning Unit := do
  pass n
  modify fun c => { c with isLeading := false }

def takeWhile (p : Char → Bool) : Scanning (List Char) := do
  let taken := (← get).rest.takeWhile p
  if !taken.isEmpty then skip taken.length
  return taken

def takeBlanks (p : Char → Bool) : Scanning (List Char) := do
  let taken := (← get).rest.takeWhile p
  pass taken.length
  return taken

/-- Passes over a line break, which may be two characters. -/
def skipBreak : Scanning Unit :=
  modify fun c =>
    let n := if ['\r', '\n'].isPrefixOf c.rest then 2 else 1
    { c with
      rest := c.rest.drop n
      place := ⟨c.place.index + n, c.place.line + 1, 0⟩
      isLeading := true }

/-- Whether a document begins or ends here, which is shown by the mark at the margin. -/
def seesMark (mark : String) : Scanning Bool := fun c =>
  some (c.place.column == 0 && mark.toList.isPrefixOf c.rest &&
    endsWord (c.rest[3]?.getD textEnd), c)

def seesDocumentMark : Scanning Bool := do
  return (← seesMark "---") || (← seesMark "...")

/-! ## Tokens and keys -/

def push (t : Token) : Scanning Unit :=
  modify fun c => { c with tokens := c.tokens.push t, propertyColumn := none }

def insert (n : Nat) (t : Token) : Scanning Unit :=
  modify fun c => { c with tokens := c.tokens.insertIdxIfInBounds n t }

/-- From here on a key may stand, or may not. -/
def allowKey (allows : Bool) : Scanning Unit :=
  modify fun c => { c with allowsKey := allows }

def candidate? : Scanning (Option KeyCandidate) := fun c =>
  some (c.candidates.head?.join, c)

def setCandidate (k : Option KeyCandidate) : Scanning Unit :=
  modify fun c => { c with candidates := k :: c.candidates.tail }

/-- Lets the next token be a candidate, if a key may stand here. It has to be a key at the margin of
the keys of a table. -/
def saveCandidate : Scanning Unit := do
  let c ← get
  if c.allowsKey then
    let isRequired := c.depth == 0 && c.indent == (c.place.column : Int) &&
      c.indents.head?.any (·.isBlock)
    setCandidate (some ⟨c.place, c.tokens.size, isRequired⟩)

/-- Gives up the candidate, unless it has to be a key. -/
def dropCandidate : Scanning Unit := do
  require !((← candidate?).any (·.isRequired))
  setCandidate none

/-- How many characters a key without a mark may have. -/
def maxKey : Nat := 1024

/-- Gives up the candidates that are too far back: outside of brackets, a key without a mark stands
in one line. -/
def dropStale : Scanning Unit := do
  let c ← get
  if c.depth == 0 then
    let isStale (k : KeyCandidate) : Bool :=
      k.place.line < c.place.line || k.place.index + maxKey < c.place.index
    require !(c.candidates.any (·.any fun k => isStale k && k.isRequired))
    set { c with candidates := c.candidates.map (Option.filter (!isStale ·)) }

/-! ## Indentation -/

/-- Opens a block at a column, unless one is open there. The token that says so goes behind the
first `n` tokens, or at the end. -/
def openBlock (column : Nat) (n : Option Nat) (t : Token) : Scanning Unit := do
  if (← get).depth == 0 then
    modify fun c =>
      match c.indents with
      | i :: outer =>
        if c.indent ≤ (column : Int) && !i.isBlock then
          { c with indent := i.outer, indents := outer }
        else c
      | [] => c
    let c ← get
    if c.indent < (column : Int) then
      set { c with indent := column, indents := ⟨c.indent, true⟩ :: c.indents }
      match n with
      | some n => insert n t
      | none => push t

/-- Closes what is indented by more than a column. -/
def closeTo (column : Int) : Scanning Unit := do
  if (← get).depth == 0 then go (← get).indents
where
  /-- Closes as many of the open indentations as it takes. -/
  go : List Indent → Scanning Unit
    | [] => return
    | i :: outer => do
      if column < (← get).indent then
        modify fun c => { c with indent := i.outer, indents := outer }
        if i.isBlock then push .blockEnd
        go outer

/-- Keeps what belongs to a key or an item away from the margin. -/
def keepAway : Scanning Unit :=
  modify fun c =>
    if c.depth == 0 && c.indents.head?.any (·.isBlock) then
      { c with indent := c.indent + 1, indents := ⟨c.indent, false⟩ :: c.indents }
    else c

def releaseMargin : Scanning Unit :=
  modify fun c =>
    let inner := c.indents.takeWhile (!·.isBlock)
    match inner.getLast? with
    | some i => { c with indent := i.outer, indents := c.indents.drop inner.length }
    | none => c

/-! ## Between tokens -/

def skipComment : Scanning Unit := do
  let _ ← takeWhile (!endsLine ·)

/-- Passes over blanks, or over spaces only, and over a comment behind them; gives the blanks. A
comment right behind a token is refused. -/
def skipToLineEnd (withTabs : Bool) : Scanning (List Char) := do
  let blanks ← takeBlanks fun c => c == ' ' || (withTabs && c == '\t')
  if (← look 0) == '#' then
    require !blanks.isEmpty
    skipComment
  return blanks

/-- Passes over blanks, breaks and comments to the next token. A tab in front of it must not stand
for the indentation of a block. -/
def skipToToken : Scanning Unit := loop do
  let c ← get
  match ← look 0 with
  | '\t' =>
    if !c.indents.isEmpty && c.isLeading && (c.place.column : Int) < c.indent then
      let _ ← skipToLineEnd true
      require (endsLine (← look 0))
    else pass 1
    return true
  | ' ' =>
    pass 1
    return true
  | '\n' | '\r' =>
    skipBreak
    if c.depth == 0 then allowKey true
    return true
  | '#' =>
    skipComment
    return true
  | _ => return false

/-- Passes over spaces, breaks and comments behind the mark of a key; there has to be a space or a
break. -/
def skipBehindMark : Scanning Unit := do
  let before := (← get).place.index
  loop do
    match ← look 0 with
    | ' ' =>
      pass 1
      return true
    | '\n' | '\r' =>
      skipBreak
      if (← get).depth == 0 then allowKey true
      return true
    | '#' =>
      skipComment
      return true
    | _ => return false
  require (before < (← get).place.index)

end Scanning

end SpeechHost.Settings.Yaml
