import SpeechHost.Settings.Value
import SpeechHost.Text.Numeral
import SpeechHost.Text.Scan
/-!
# Nodes of YAML

What tokens stand for: scalars, lists and tables. A plain scalar without a tag is what it looks
like. A scalar that does not look like what its tag says has no value, and neither has a reference
to something that it is part of.
-/

namespace SpeechHost.Settings.Yaml

open SpeechHost.Text

inductive Scalar where
  | null
  | bool (b : Bool)
  | int (n : Int)
  /-- A number with a fraction or an exponent, as it is written. -/
  | real (written : String)
  | text (s : String)
  deriving DecidableEq, Repr

inductive Node where
  /-- A node without a value. -/
  | missing
  | scalar (s : Scalar)
  | list (items : List Node)
  | table (entries : List (Node × Node))

/-- A tag: what it begins with, and the rest. -/
structure Tag where
  start : String
  suffix : String

/-! ## Plain scalars -/

def languageTag : String := "tag:yaml.org,2002:"

/-- What stands for infinity or for no number. -/
def specialNumbers : List String :=
  [".inf", ".Inf", ".INF", "+.inf", "+.Inf", "+.INF", "-.inf", "-.Inf", "-.INF", ".nan", ".NaN",
    ".NAN"]

def splitSign (cs : List Char) : Bool × List Char :=
  match cs with
  | '-' :: cs => (true, cs)
  | '+' :: cs => (false, cs)
  | cs => (false, cs)

def fraction? (s : String) : Option Float := do
  let (isNegative, cs) := splitSign s.toList
  let (whole, rest) := cs.span (isDigitOf 10)
  let (fraction, rest) := match rest with
    | '.' :: rest => rest.span (isDigitOf 10)
    | rest => ([], rest)
  guard (!(whole ++ fraction).isEmpty)
  let exponent : Int ← match rest with
    | [] => some 0
    | e :: es => do
      guard (e == 'e' || e == 'E')
      signed? es
  let x := scaledFloat (valueOf 10 (whole ++ fraction)) (exponent - fraction.length)
  return if isNegative then -x else x

def looksReal (s : String) : Bool :=
  specialNumbers.contains s || (fraction? s).isSome

def based? (base : Nat) (cs : List Char) : Option Int := do
  let (isNegative, ds) := splitSign cs
  guard (!ds.isEmpty && ds.all (isDigitOf base))
  let n : Int := if isNegative then -(valueOf base ds : Int) else valueOf base ds
  guard (minInt ≤ n && n ≤ maxInt)
  return n

def truth? (s : String) : Option Bool :=
  if ["true", "True", "TRUE"].contains s then some true
  else if ["false", "False", "FALSE"].contains s then some false
  else none

def whole? (s : String) : Option Int :=
  let inBase := match s.toList with
    | '0' :: 'x' :: cs => based? 16 cs
    | '0' :: 'o' :: cs => based? 8 cs
    | '+' :: cs => based? 10 cs
    | _ => none
  inBase <|> numeral? 64 s

/-- The scalar that a text looks like. -/
def Scalar.ofText (s : String) : Scalar :=
  if ["", "~", "null", "Null", "NULL"].contains s then .null
  else match truth? s with
    | some b => .bool b
    | none =>
      match whole? s with
      | some n => .int n
      | none => if looksReal s then .real s else .text s

/-- The scalar that a text is by its tag. -/
def Scalar.ofTagged? (suffix s : String) : Option Scalar :=
  match suffix with
  | "bool" =>
    if s == "true" then some (.bool true) else if s == "false" then some (.bool false) else none
  | "int" => (numeral? 64 s).map .int
  | "float" => if looksReal s then some (.real s) else none
  | "null" => if s == "~" || s == "null" then some .null else none
  | _ => some (.text s)

def Node.ofScalar (isPlain : Bool) (tag : Option Tag) (s : String) : Node :=
  if !isPlain then .scalar (.text s)
  else match tag with
    | none => .scalar (.ofText s)
    | some t =>
      if t.start == languageTag then ((Scalar.ofTagged? t.suffix s).map Node.scalar).getD .missing
      else .scalar (.text s)

/-- The node where nothing is written. -/
def Node.empty : Node := .scalar .null

/-! ## Tables -/

def Node.isSameKey : Node → Node → Bool
  | .scalar s, .scalar t => s == t
  | _, _ => false

/-- The table of keys and values that follow each other. A node without a value is no key, so what
comes next is the key instead. No key may come twice. -/
def entriesOf (key : Option Node) (entries : List (Node × Node)) :
    List Node → Option (List (Node × Node))
  | [] => some entries.reverse
  | n :: ns =>
    match key, n with
    | none, .missing => entriesOf none entries ns
    | none, n => entriesOf (some n) entries ns
    | some k, n =>
      if entries.any (·.1.isSameKey k) then none else entriesOf none ((k, n) :: entries) ns

/-! ## Values -/

def Scalar.key? : Scalar → Option String
  | .null => none
  | .bool b => some (if b then "true" else "false")
  | .int n => some (toString n)
  | .real written => some written
  | .text s => some s

def Scalar.toValue? : Scalar → Option Value
  | .null => some .null
  | .bool b => some (.bool b)
  | .int n => some (.int n)
  | .real written => (fraction? written).map .float
  | .text s => some (.text s)

mutual

/-- The value of a node. The special numbers have none, and a key has to be a scalar. -/
def Node.toValue? : Node → Option Value
  | .missing => some .null
  | .scalar s => s.toValue?
  | .list items => (toItems? items).map .list
  | .table entries => (toEntries? entries).map fun es => .table (lastEntries es)

def toItems? : List Node → Option (List Value)
  | [] => some []
  | n :: ns => do return (← n.toValue?) :: (← toItems? ns)

def toEntries? : List (Node × Node) → Option (List (String × Value))
  | [] => some []
  | (.scalar s, n) :: es => do return (← s.key?, ← n.toValue?) :: (← toEntries? es)
  | _ :: _ => none

end

end SpeechHost.Settings.Yaml
