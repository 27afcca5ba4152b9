import SpeechHost.Settings.Yaml.Node
import SpeechHost.Settings.Yaml.Token
/-!
# Documents of YAML

The tokens of a text are those of one document: directives, a mark, and a node. A node may have an
anchor, by which it is referred to later, and a tag.
-/

namespace SpeechHost.Settings.Yaml

/-- Tokens to come, and what is known from those before. -/
structure Reading where
  tokens : List Token
  /-- What the tags with a handle begin with. -/
  handles : List (String × String)
  /-- The number of the last node that has each anchor. -/
  anchors : List (String × Nat)
  /-- The nodes with anchors, by number, once they are complete. -/
  nodes : List (Nat × Node)

abbrev Reader := StateT Reading Option

namespace Reader

def peek? : Reader (Option Token) := fun r => some (r.tokens.head?, r)

def take : Reader Unit := modify fun r => { r with tokens := r.tokens.tail }

/-- Takes the next token if it is the given one; says whether it was. -/
def accepts (t : Token) : Reader Bool := do
  if (← peek?) == some t then
    take
    return true
  else return false

def seesOneOf (ts : List Token) : Reader Bool := do
  return (← peek?).any ts.contains

/-! ## Anchors and tags -/

/-- The tag with a handle and a suffix. A handle between exclamation marks has to be declared, but
for that of the language. -/
def resolve (handle suffix : String) : Reader Tag := do
  let name := if handle.isEmpty && suffix == "!" then "" else handle
  match (← get).handles.lookup name with
  | some start => return ⟨start, suffix⟩
  | none =>
    if handle == "!!" then return ⟨languageTag, suffix⟩
    else if 2 ≤ handle.length && handle.startsWith "!" && handle.endsWith "!" then failure
    else return ⟨handle, suffix⟩

def tag? : Reader (Option Tag) := do
  match ← peek? with
  | some (.tag handle suffix) =>
    take
    return some (← resolve handle suffix)
  | _ => return none

/-- Takes an anchor, if one comes next; gives the number of its node. -/
def anchor? : Reader (Option Nat) := do
  match ← peek? with
  | some (.anchor name) =>
    take
    let r ← get
    let n := r.anchors.length
    set { r with anchors := (name, n) :: r.anchors }
    return some n
  | _ => return none

/-- The anchor and the tag of a node, in either order. -/
def properties : Reader (Option Nat × Option Tag) := do
  match ← anchor? with
  | some n => return (some n, ← tag?)
  | none =>
    match ← tag? with
    | some t => return (← anchor?, some t)
    | none => return (none, none)

def referent (name : String) : Reader Node := do
  let r ← get
  let some n := r.anchors.lookup name | failure
  return (r.nodes.lookup n).getD .missing

def keep (anchor : Option Nat) (n : Node) : Reader Node := do
  match anchor with
  | some a => modify fun r => { r with nodes := (a, n) :: r.nodes }
  | none => pure ()
  return n

def table (ns : List Node) : Reader Node := do
  let some entries := entriesOf none [] ns | failure
  return .table entries

/-! ## Nodes -/

/-- Whether a key or a value inside a block is left out. -/
def seesNoNode : Reader Bool :=
  seesOneOf [.key, .value, .blockEnd]

mutual

/-- A node. Blocks may stand only where `inBlock` holds, and a list at the margin of its key only
where `atKey` holds. -/
def node (inBlock atKey : Bool) : (fuel : Nat) → Reader Node
  | 0 => failure
  | fuel + 1 => do
    if let some (.alias name) ← peek? then
      take
      return ← referent name
    let (anchor, tag) ← properties
    let isBare := anchor.isNone && tag.isNone
    match ← peek? with
    | some (.scalar isPlain text) =>
      take
      keep anchor (.ofScalar isPlain tag text)
    | some .item =>
      if atKey then keep anchor (.list (← marginItems fuel))
      else bare isBare anchor tag
    | some .openList =>
      take
      keep anchor (.list (← items true fuel))
    | some .openTable =>
      take
      keep anchor (← table (← members true fuel))
    | some .blockList =>
      if inBlock then
        take
        keep anchor (.list (← blockItems fuel))
      else bare isBare anchor tag
    | some .blockTable =>
      if inBlock then
        take
        keep anchor (← table (← blockMembers fuel))
      else bare isBare anchor tag
    | _ => bare isBare anchor tag
where
  /-- A node that is nothing but its anchor and its tag, one of which there has to be. -/
  bare (isBare : Bool) (anchor : Option Nat) (tag : Option Tag) : Reader Node := do
    if isBare then failure
    keep anchor (.ofScalar true tag "")

def blockItems : (fuel : Nat) → Reader (List Node)
  | 0 => failure
  | fuel + 1 => do
    if ← accepts .blockEnd then return []
    if !(← accepts .item) then failure
    let n ← if ← seesOneOf [.item, .blockEnd] then pure Node.empty else node true false fuel
    return n :: (← blockItems fuel)

/-- The items of a list at the margin of its key. -/
def marginItems : (fuel : Nat) → Reader (List Node)
  | 0 => failure
  | fuel + 1 => do
    if !(← accepts .item) then return []
    let n ←
      if ← seesOneOf [.item, .key, .value, .blockEnd] then pure Node.empty
      else node true false fuel
    return n :: (← marginItems fuel)

def blockMembers : (fuel : Nat) → Reader (List Node)
  | 0 => failure
  | fuel + 1 => do
    if ← accepts .blockEnd then return []
    let k ←
      if ← accepts .key then
        if ← seesNoNode then pure Node.empty else node true true fuel
      else if ← seesOneOf [.value] then pure Node.empty
      else failure
    let v ←
      if ← accepts .value then
        if ← seesNoNode then pure Node.empty else node true true fuel
      else pure Node.empty
    return k :: v :: (← blockMembers fuel)

/-- The items of a list in brackets, to its end. A key makes an item a table with one entry. -/
def items (isFirst : Bool) : (fuel : Nat) → Reader (List Node)
  | 0 => failure
  | fuel + 1 => do
    if ← accepts .closeList then return []
    if !isFirst then
      if !(← accepts .comma) then failure
    if ← accepts .closeList then return []
    let n ←
      if ← accepts .key then table (← pair fuel) else node false false fuel
    return n :: (← items false fuel)

def pair : (fuel : Nat) → Reader (List Node)
  | 0 => failure
  | fuel + 1 => do
    let k ←
      if ← seesOneOf [.value, .comma, .closeList] then do
        take
        pure Node.empty
      else node false false fuel
    let v ←
      if ← accepts .value then
        if ← seesOneOf [.comma, .closeList] then pure Node.empty else node false false fuel
      else pure Node.empty
    return [k, v]

def members (isFirst : Bool) : (fuel : Nat) → Reader (List Node)
  | 0 => failure
  | fuel + 1 => do
    if ← accepts .closeTable then return []
    if !isFirst then
      if !(← accepts .comma) then failure
    if ← accepts .closeTable then return []
    let (k, v) ←
      if ← accepts .key then do
        let k ←
          if ← seesOneOf [.value, .comma, .closeTable] then pure Node.empty
          else node false false fuel
        pure (k, ← memberValue fuel)
      else if ← seesOneOf [.value] then do pure (Node.empty, ← memberValue fuel)
      else do pure (← node false false fuel, Node.empty)
    return k :: v :: (← members false fuel)

def memberValue : (fuel : Nat) → Reader Node
  | 0 => failure
  | fuel + 1 => do
    if ← accepts .value then
      if ← seesOneOf [.comma, .closeTable] then return .empty
      node false false fuel
    else return .empty

end

/-! ## Documents -/

/-- The directives in front of a document. Only one may name a version, and only the last one
counts for the handles of tags. -/
def directives (hasVersion : Bool) : (fuel : Nat) → Reader Unit
  | 0 => failure
  | fuel + 1 => do
    match ← peek? with
    | some .version =>
      if hasVersion then failure
      modify fun r => { r with handles := [] }
      take
      directives true fuel
    | some (.tagHandle handle start) =>
      modify fun r => { r with handles := [(handle, start)] }
      take
      directives hasVersion fuel
    | _ => return

/-- The node of the only document, if there is one. A document needs no mark, but directives need
one behind them. -/
def document : Reader (Option Node) := do
  modify fun r => { r with tokens := r.tokens.dropWhile (· == .documentEnd) }
  let r ← get
  if r.tokens.isEmpty then return none
  let fuel := 2 * r.tokens.length + 2
  directives false fuel
  let isMarked ← accepts .documentStart
  let n ←
    if !isMarked then
      if (← get).tokens.length < r.tokens.length then failure
      node true false fuel
    else if (← peek?).all (· == .documentEnd) then pure Node.empty
    else node true false fuel
  let after := (← get).tokens.dropWhile (· == .documentEnd)
  if !after.isEmpty then failure
  return some n

end Reader

end SpeechHost.Settings.Yaml
