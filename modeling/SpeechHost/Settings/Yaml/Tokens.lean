import SpeechHost.Settings.Yaml.Scalar
/-!
# The tokens of a text

One step finds what begins at the next character that is no blank: a mark at the margin, a bracket,
a sign in front of a key, a value or an item, an anchor, a tag, or a scalar.
-/

namespace SpeechHost.Settings.Yaml

open SpeechHost.Text

namespace Scanning

/-! ## Directives -/

def versionNumber : Scanning Unit := do
  let digits ← takeWhile Char.isDigit
  require (!digits.isEmpty && digits.length ≤ 9)

/-- The handle of a tag. In a directive it ends with an exclamation mark, of which it may have only
one. -/
def tagHandle (inDirective : Bool) : Scanning String := do
  require ((← look 0) == '!')
  skip 1
  let name ← takeWhile isNameChar
  if (← look 0) == '!' then
    skip 1
    return String.ofList ('!' :: name ++ ['!'])
  else
    require (!inDirective || name.isEmpty)
    return String.ofList ('!' :: name)

/-- The character that bytes with percent signs in front write. All but the first byte have the form
of bytes that go on. -/
def percentChar : Scanning Char := do
  let first ← byte
  let more ←
    if first < 0x80 then pure 0
    else if first / 0x20 == 6 then pure 1
    else if first / 0x10 == 14 then pure 2
    else if first / 0x08 == 30 then pure 3
    else failure
  let some c := charOf? (← further first more) | failure
  return c
where
  /-- One byte. -/
  byte : Scanning Nat := do
    let digits := [← look 1, ← look 2]
    require ((← look 0) == '%' && digits.all (isDigitOf 16))
    skip 3
    return valueOf 16 digits
  /-- The number that bytes write one behind the other. -/
  further (code : Nat) : (count : Nat) → Scanning Nat
    | 0 => return code
    | count + 1 => do
      let b ← byte
      require (b / 0x40 == 2)
      further (code * 0x100 + b) count

def tagChars (p : Char → Bool) : (fuel : Nat) → Scanning (List Char)
  | 0 => failure
  | fuel + 1 => do
    let c ← look 0
    if c == '%' then
      let c ← percentChar
      return c :: (← tagChars p fuel)
    else if p c then
      skip 1
      return c :: (← tagChars p fuel)
    else return []

def tagText (p : Char → Bool) : Scanning (List Char) := do
  tagChars p ((← get).rest.length + 1)

def tagStart : Scanning String := do
  let c ← look 0
  require (c == '!' || isSuffixChar c)
  let first ←
    if c == '%' then percentChar
    else do
      skip 1
      pure c
  return String.ofList (first :: (← tagText isTagChar))

/-- A directive. One that is not known says nothing. -/
def directive : Scanning Token := do
  skip 1
  let name ← takeWhile isNameChar
  require (!name.isEmpty && endsWord (← look 0))
  let t ← match String.ofList name with
    | "YAML" => do
      let _ ← takeBlanks isBlank
      versionNumber
      require ((← look 0) == '.')
      skip 1
      versionNumber
      pure Token.version
    | "TAG" => do
      let _ ← takeBlanks isBlank
      let handle ← tagHandle true
      let _ ← takeBlanks isBlank
      let start ← tagStart
      require (endsWord (← look 0))
      pure (.tagHandle handle start)
    | _ => do
      skipComment
      pure (.tagHandle "" "")
  let _ ← skipToLineEnd true
  require (endsLine (← look 0))
  if isBreak (← look 0) then skipBreak
  return t

/-! ## Anchors and tags -/

def anchorName : Scanning String := do
  skip 1
  let name ← takeWhile isAnchorChar
  require !name.isEmpty
  return String.ofList name

/-- A tag: written out between angle brackets, or a handle and what is behind it. -/
def tag : Scanning Token := do
  let t ←
    if (← look 1) == '<' then do
      skip 2
      let text ← tagText isTagChar
      require ((← look 0) == '>')
      skip 1
      pure (Token.tag "" (String.ofList text))
    else do
      let handle ← tagHandle false
      let suffix ← tagText isSuffixChar
      if 2 ≤ handle.length && handle.endsWith "!" then
        require !suffix.isEmpty
        pure (.tag handle (String.ofList suffix))
      else
        let suffix := handle.toList.drop 1 ++ suffix
        if suffix.isEmpty then pure (.tag "" "!")
        else pure (.tag "!" (String.ofList suffix))
  let c ← look 0
  require (endsWord c || ((← get).depth != 0 && isFlowSign c))
  return t

/-! ## Brackets -/

/-- How many brackets may be open. -/
def maxDepth : Nat := 255

def openBracket (isTable : Bool) : Scanning Unit := do
  saveCandidate
  keepAway
  require ((← get).depth < maxDepth)
  modify fun c => { c with depth := c.depth + 1, candidates := none :: c.candidates }
  allowKey true
  skip 1
  modify fun c =>
    if isTable then { c with inTable := true } else { c with pairs := false :: c.pairs }
  let _ ← skipToLineEnd true
  push (if isTable then .openTable else .openList)

/-- Ends the pair that is open in the innermost list, if there is one. -/
def endPair : Scanning Unit := do
  if (← get).pairs.head?.any id then
    modify fun c => { c with inTable := false, pairs := false :: c.pairs.tail }
    push .closeTable

def closeBracket (isTable : Bool) : Scanning Unit := do
  dropCandidate
  modify fun c =>
    if c.depth == 0 then c
    else { c with depth := c.depth - 1, candidates := c.candidates.tail }
  allowKey false
  if !isTable then
    endPair
    modify fun c => { c with pairs := c.pairs.tail }
  skip 1
  let _ ← skipToLineEnd true
  modify fun c => if c.depth == 0 then c else { c with adjacentAt := c.place.index }
  push (if isTable then .closeTable else .closeList)

def comma : Scanning Unit := do
  dropCandidate
  allowKey true
  endPair
  skip 1
  let _ ← skipToLineEnd true
  push .comma

/-! ## Items, keys and values -/

def item : Scanning Unit := do
  let c ← get
  require (c.depth == 0 && c.allowsKey)
  require !(c.place.column == 0 && c.propertyColumn == some 0 && 0 ≤ c.indent)
  skip 1
  openBlock c.place.column none .blockList
  let blanks ← skipToLineEnd true
  require !(blanks.contains '\t' && (← look 0) == '-' && endsWord (← look 1))
  if isBreak (← look 0) || isFlowSign (← look 0) then keepAway
  dropCandidate
  allowKey true
  push .item

def key : Scanning Unit := do
  let c ← get
  if c.depth == 0 then
    require c.allowsKey
    openBlock c.place.column none .blockTable
  else
    set { c with inTable := true }
  dropCandidate
  allowKey (c.depth == 0)
  skip 1
  skipBehindMark
  require ((← look 0) != '\t')
  push .key

/-- The colon in front of a value. If there is a candidate for its key, the token of a key goes in
front of that, and the beginning of a table if none is open. -/
def value : Scanning Unit := do
  let candidate ← candidate?
  let c ← get
  let isPair := !c.pairs.isEmpty && !c.inTable
  if isPair then set { c with pairs := true :: c.pairs.tail }
  skip 1
  if (← look 0) == '\t' then
    let blanks ← skipToLineEnd true
    require (blanks.contains ' ' || !isNameChar (← look 0))
  match candidate with
  | some k =>
    insert k.before .key
    if isPair then
      require (c.place.line ≤ k.place.line)
      insert k.before .openTable
    openBlock k.place.column (some k.before) .blockTable
    keepAway
    setCandidate none
    allowKey false
  | none =>
    if isPair then push .openTable
    if c.depth == 0 then
      require c.allowsKey
      openBlock c.place.column none .blockTable
    keepAway
    allowKey (c.depth == 0)
  push .value

/-! ## The whole -/

/-- A token that may be a key, behind which no other key may stand. -/
def candidate (t : Scanning Token) : Scanning Unit := do
  saveCandidate
  allowKey false
  push (← t)

def property (t : Scanning Token) : Scanning Unit := do
  let column := (← get).place.column
  candidate t
  modify fun c => { c with propertyColumn := some column }

/-- Goes back to the margin, where no key may stand behind a mark. -/
def toMargin : Scanning Unit := do
  closeTo (-1)
  dropCandidate
  allowKey false

def token : Scanning Unit := do
  let c ← look 0
  let d ← look 1
  let cursor ← get
  let inFlow := cursor.depth != 0
  if cursor.place.column == 0 && c == '%' then
    toMargin
    push (← directive)
  else if ← seesMark "---" then
    toMargin
    skip 3
    push .documentStart
  else if ← seesMark "..." then
    toMargin
    skip 3
    push .documentEnd
    let _ ← skipToLineEnd true
    require (endsLine (← look 0))
  else
    require (cursor.indent ≤ (cursor.place.column : Int))
    match c with
    | '[' => openBracket false
    | '\x7b' => openBracket true
    | ']' => closeBracket false
    | '\x7d' => closeBracket true
    | ',' => comma
    | '*' => candidate do return .alias (← anchorName)
    | '&' => property do return .anchor (← anchorName)
    | '!' => property tag
    | '\'' => quotedCandidate true
    | '"' => quotedCandidate false
    | _ =>
      if c == '-' && endsWord d then item
      else if c == '?' && endsWord d then key
      else if c == ':' && endsWord d then value
      else if c == ':' && inFlow &&
          (isFlowSign d || cursor.place.index == cursor.adjacentAt) then
        require (cursor.place.index == cursor.adjacentAt || !(d == '[' || d == '\x7b'))
        value
      else if (c == '|' || c == '>') && !inFlow then
        saveCandidate
        allowKey true
        push (.scalar false (← block (c == '>')))
      else
        require !(c == '%' || c == '@' || c == '\x60')
        candidate do return .scalar true (← plain)
where
  /-- A scalar in quotation marks. Its colon may follow without a blank. -/
  quotedCandidate (isSingle : Bool) : Scanning Unit := candidate do
    let text ← quoted isSingle
    skipToToken
    modify fun c => { c with adjacentAt := c.place.index }
    return .scalar false text

def allTokens : Scanning (List Token) := do
  loop do
    skipToToken
    dropStale
    closeTo (← get).place.column
    if (← look 0) == textEnd then return false
    token
    return true
  require !((← get).candidates.any (·.any (·.isRequired)))
  closeTo (-1)
  return (← get).tokens.toList

end Scanning

def tokens? (text : String) : Option (List Token) :=
  (Scanning.allTokens (.start text.toList)).map (·.1)

end SpeechHost.Settings.Yaml
