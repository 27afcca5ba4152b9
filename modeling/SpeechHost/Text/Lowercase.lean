import SpeechHost.Text.Lowercase.Table

/-!
# Lower case

The full lower-casing of the Unicode standard: a character may become two, and a capital sigma
that ends a word is written `ς`.
-/

namespace SpeechHost.Text

/-- A letter that has case. -/
def isCased (c : Char) : Bool :=
  casedRanges.any (·.has c.toNat)

/-- A mark that does not end a word and does not begin one. -/
def isCaseIgnorable (c : Char) : Bool :=
  caseIgnorableRanges.any (·.has c.toNat)

/-- The lower-case form of a character, its surroundings left aside. -/
def lowerChar (c : Char) : List Char :=
  if c.toNat < 0x80 then [c.toLower]
  else if c.toNat == 0x130 then ['i', '\u0307']
  else match caseRuns.findSome? (·.lower? c.toNat) with
    | some n => [Char.ofNat n]
    | none => [c]

/-- Whether the first character that counts is a letter with case. -/
def meetsLetter (cs : List Char) : Bool :=
  match cs.dropWhile isCaseIgnorable with
  | [] => false
  | c :: _ => isCased c

/-- Lower-cases a text, where `before` holds the characters in front of it, nearest first. -/
def lowerChars (before : List Char) : List Char → List Char
  | [] => []
  | c :: rest =>
    if c == 'Σ' then
      let sigma := if meetsLetter before && !meetsLetter rest then 'ς' else 'σ'
      sigma :: lowerChars (c :: before) rest
    else
      lowerChar c ++ lowerChars (c :: before) rest

def lowercase (s : String) : String :=
  String.ofList (lowerChars [] s.toList)

end SpeechHost.Text
