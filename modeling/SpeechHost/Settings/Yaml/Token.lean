/-!
# Tokens of YAML

A text in YAML is cut into tokens. Blocks are shown by indentation, so some tokens stand for no
character: they say where a block begins and ends, and that what comes next is a key.
-/

namespace SpeechHost.Settings.Yaml

inductive Token where
  /-- A directive that names a version. -/
  | version
  /-- A directive that gives the tags with a handle what they begin with. -/
  | tagHandle (handle start : String)
  | documentStart
  | documentEnd
  /-- The beginning of a list whose items are indented alike. -/
  | blockList
  /-- The beginning of a table whose keys are indented alike. -/
  | blockTable
  | blockEnd
  | openList
  | closeList
  | openTable
  | closeTable
  | item
  | comma
  | key
  | value
  /-- A reference to what has an anchor. -/
  | alias (name : String)
  | anchor (name : String)
  | tag (handle suffix : String)
  /-- A scalar; it is plain if neither marks nor indentation enclose it. -/
  | scalar (isPlain : Bool) (text : String)
  deriving DecidableEq, Repr

/-! ## Kinds of characters -/

/-- What is read where a text has ended. A text that holds this character ends in front of it. -/
def textEnd : Char := '\x00'

def isBlank (c : Char) : Bool :=
  c == ' ' || c == '\t'

def isBreak (c : Char) : Bool :=
  c == '\n' || c == '\r'

def endsLine (c : Char) : Bool :=
  isBreak c || c == textEnd

def endsWord (c : Char) : Bool :=
  isBlank c || endsLine c

/-- A sign of the lists and tables that are written with brackets. -/
def isFlowSign (c : Char) : Bool :=
  [',', '[', ']', '\x7b', '\x7d'].contains c

/-- A letter of the alphabet, a digit, a dash or an underscore. -/
def isNameChar (c : Char) : Bool :=
  c.isAlphanum || c == '_' || c == '-'

def isAnchorChar (c : Char) : Bool :=
  !endsWord c && !isFlowSign c && c != '\uFEFF'

/-- Whether a character may stand in a tag that is written out. -/
def isTagChar (c : Char) : Bool :=
  c.isAlphanum || c == '-' || "#;/?:@&=+$,_.!~*'()[]%".toList.contains c

/-- Whether a character may stand in a tag behind its handle. -/
def isSuffixChar (c : Char) : Bool :=
  isTagChar c && !isFlowSign c && c != '!'

end SpeechHost.Settings.Yaml
