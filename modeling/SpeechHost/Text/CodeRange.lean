/-!
# Ranges of code points

The rows of the Unicode tables.
-/

namespace SpeechHost.Text

/-- The code points from `first` to `last`, both included. -/
structure CodeRange where
  first : Nat
  last : Nat

def CodeRange.has (r : CodeRange) (n : Nat) : Bool :=
  r.first ≤ n && n ≤ r.last

end SpeechHost.Text
