import SpeechHost.Settings.Value
/-!
# Tables that grow

A TOML document is a list of statements that fill one table, and each way of making a table inside
it says who may add to that table later. A statement that adds what it may not is refused.
-/

namespace SpeechHost.Settings.Toml

/-- How a table came to be. -/
inductive Making where
  /-- On the way to another one, in a header. -/
  | passing
  /-- By a header of its own. -/
  | header
  /-- By a dotted key. -/
  | dotted
  deriving DecidableEq, Repr

inductive Node where
  /-- A value, which is complete. -/
  | leaf (v : Value)
  | table (made : Making) (entries : List (String × Node))
  /-- Tables under one name; headers lead into the last one. -/
  | tables (items : List (List (String × Node)))

abbrev Entries := List (String × Node)

def find? (es : Entries) (key : String) : Option Node :=
  es.lookup key

def set (es : Entries) (key : String) (n : Node) : Entries :=
  if es.any (·.1 == key) then es.map fun e => if e.1 == key then (key, n) else e
  else es ++ [(key, n)]

/-- Whether a table takes more through dotted keys. One with a header of its own does not. -/
def Making.isOpen : Making → Bool
  | .passing | .dotted => true
  | .header => false

/-- Adds a value under a dotted key. -/
def define (v : Value) : List String → Entries → Option Entries
  | [], _ => none
  | [key], es => if (find? es key).isSome then none else some (set es key (.leaf v))
  | key :: keys, es =>
    match find? es key with
    | none => (define v keys []).map fun below => set es key (.table .dotted below)
    | some (.table made below) =>
      if made.isOpen then
        (define v keys below).map fun below => set es key (.table made below)
      else none
    | some _ => none

/-- Changes the entries that a header leads to. -/
def descend (change : Entries → Option Entries) : List String → Entries → Option Entries
  | [], es => change es
  | key :: keys, es =>
    match find? es key with
    | none => (descend change keys []).map fun below => set es key (.table .passing below)
    | some (.table made below) =>
      (descend change keys below).map fun below => set es key (.table made below)
    | some (.tables items) =>
      match items.getLast? with
      | none => none
      | some last =>
        (descend change keys last).map fun below =>
          set es key (.tables (items.dropLast ++ [below]))
    | some (.leaf _) => none

def openTable (key : String) (es : Entries) : Option Entries :=
  match find? es key with
  | none => some (set es key (.table .header []))
  | some (.table .passing below) => some (set es key (.table .header below))
  | some _ => none

/-- Opens one more of the tables under a name. -/
def openItem (key : String) (es : Entries) : Option Entries :=
  match find? es key with
  | none => some (set es key (.tables [[]]))
  | some (.tables items) => some (set es key (.tables (items ++ [[]])))
  | some _ => none

mutual

def Node.toValue : Node → Value
  | .leaf v => v
  | .table _ entries => .table (toValues entries)
  | .tables items => .list (toTables items)

def toValues : List (String × Node) → List (String × Value)
  | [] => []
  | (key, n) :: es => (key, n.toValue) :: toValues es

def toTables : List (List (String × Node)) → List Value
  | [] => []
  | es :: items => .table (toValues es) :: toTables items

end

end SpeechHost.Settings.Toml
