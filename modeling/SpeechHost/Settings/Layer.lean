import SpeechHost.Settings.Basic
import SpeechHost.Settings.Value
import SpeechHost.Text.Numeral
/-!
# Layers of settings

Settings are laid in layers: a layer says something about some keys and leaves the others to the
layers below. A key is written as a path: what stands behind a dot or in brackets reaches into a
value, which makes that value a table or a list unless it is one. A text that is no path names
nothing.
-/

namespace SpeechHost.Settings

open SpeechHost.Text

/-- What stands under a key: a text, or something that is none, with the file that it came from. -/
inductive Holding where
  | text (s : String)
  | misfit (m : Misfit) (origin : Option String)
  deriving DecidableEq, Repr

/-- What one source says. -/
structure Layer where
  /-- The file that was read, if it was one. -/
  origin : Option String
  entries : List (String × Value)

/-! ## Paths of keys -/

/-- The first step that a path makes into a value. -/
inductive Reach where
  /-- To a member of a table. -/
  | member
  /-- To an item of a list. -/
  | item
  deriving DecidableEq, Repr

def isNameChar (c : Char) : Bool :=
  c.isAlphanum || c == '_' || c == '-'

/-- A blank between brackets. -/
def isSpace (c : Char) : Bool :=
  c == ' ' || c == '\t'

/-- Takes the number of an item, which may be counted from the end, and the bracket behind it. -/
def index? (cs : List Char) : Option (Int × List Char) := do
  let cs := cs.dropWhile isSpace
  let (isNegative, cs) := match cs with
    | '-' :: cs => (true, cs)
    | cs => (false, cs)
  let (digits, rest) := cs.span Char.isDigit
  let n : Int ← (natural? digits).map fun n => (n : Int)
  let n := if isNegative then -n else n
  guard (minInt ≤ n && n ≤ maxInt)
  let ']' :: rest := rest.dropWhile isSpace | none
  return (n, rest)

/-- Whether a path goes on like this to its end; `fuel` bounds its steps. -/
def goesOn : (fuel : Nat) → List Char → Bool
  | _, [] => true
  | fuel + 1, '.' :: cs => cs.head?.any isNameChar && goesOn fuel (cs.dropWhile isNameChar)
  | fuel + 1, '[' :: cs => (index? cs).any fun (_, rest) => goesOn fuel rest
  | _, _ => false

/-- The key at the front of a path, and the step behind it. -/
def target? (path : String) : Option (Key × Option Reach) :=
  let cs := path.toList
  let (name, rest) := cs.span isNameChar
  let reach : Option Reach := match rest.head? with
    | some '.' => some .member
    | some _ => some .item
    | none => none
  (Key.ofName? (String.ofList name)).bind fun k =>
    if goesOn cs.length rest then some (k, reach) else none

/-! ## Laying on -/

/-- What a value puts under a key. The file that a table came from is not kept. -/
def Value.holding (origin : Option String) (v : Value) : Holding :=
  match v.toText with
  | .ok s => .text s
  | .error .map => .misfit .map none
  | .error m => .misfit m origin

/-- What stands under a key after a step into it. -/
def Holding.enter (h : Holding) : Reach → Holding
  | .member => .misfit .map none
  | .item =>
    match h with
    | .misfit .sequence origin => .misfit .sequence origin
    | _ => .misfit .sequence none

/-- What an entry does under which key, if under any. -/
def Layer.effect (l : Layer) (entry : String × Value) : Option (Key × (Holding → Holding)) :=
  (target? entry.1).map fun (k, reach) =>
    (k, fun h => reach.elim (entry.2.holding l.origin) h.enter)

/-- What stands under each key. -/
abbrev Draft := Key → Holding

def Draft.change (d : Draft) (k : Key) (f : Holding → Holding) : Draft :=
  fun k' => if k' = k then f (d k) else d k'

/-- Lays a layer on, entry by entry. -/
def Layer.layOn (l : Layer) (d : Draft) : Draft :=
  (l.entries.filterMap l.effect).foldl (fun d e => d.change e.1 e.2) d

def toDraft (s : Settings) : Draft :=
  fun k => .text (s.get k)

/-- Lays layers on, the weakest first. -/
def layAllOn (layers : List Layer) (d : Draft) : Draft :=
  layers.foldl (fun d l => l.layOn d) d

end SpeechHost.Settings
