import SpeechHost.Text.Decimal
/-!
# Values in settings files

What a settings file can hold, whatever its notation. Settings themselves are texts; a truth value
or a number serves as the text that writes it.
-/

namespace SpeechHost.Settings

open SpeechHost.Text

inductive Value where
  | null
  | bool (b : Bool)
  | int (n : Int)
  | float (x : Float)
  | text (s : String)
  | list (items : List Value)
  | table (entries : List (String × Value))

/-- What a value is that is not a text. -/
inductive Misfit where
  | unit
  | sequence
  | map
  deriving DecidableEq, Repr

def Misfit.name : Misfit → String
  | .unit => "unit value"
  | .sequence => "sequence"
  | .map => "map"

def Value.toText : Value → Except Misfit String
  | .null => .error .unit
  | .bool b => .ok (if b then "true" else "false")
  | .int n => .ok (toString n)
  | .float x => .ok (Decimal.ofFloat x)
  | .text s => .ok s
  | .list _ => .error .sequence
  | .table _ => .error .map

/-- Entries without those whose key comes again. -/
def lastEntries : List (String × Value) → List (String × Value)
  | [] => []
  | e :: es => if es.any (·.1 == e.1) then lastEntries es else e :: lastEntries es

/-- The least whole number that is kept as one. -/
def minInt : Int := -0x8000000000000000

/-- The greatest whole number that is kept as one. -/
def maxInt : Int := 0x7FFFFFFFFFFFFFFF

end SpeechHost.Settings
