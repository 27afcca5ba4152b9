/-!
# Languages that an engine speaks
-/

namespace SpeechHost

/-- A language, a country and a variant, each perhaps empty. -/
structure Locale where
  language : String
  country : String
  variant : String
  deriving DecidableEq, Repr

/-- How well a locale is supported, from worst to best. -/
inductive Availability where
  | notSupported
  | missingData
  | available
  | countryAvailable
  | countryVarAvailable
  deriving DecidableEq, Repr

namespace Availability

def rank : Availability → Nat
  | .notSupported => 0
  | .missingData => 1
  | .available => 2
  | .countryAvailable => 3
  | .countryVarAvailable => 4

def all : List Availability :=
  [.notSupported, .missingData, .available, .countryAvailable, .countryVarAvailable]

def name : Availability → String
  | .notSupported => "NotSupported"
  | .missingData => "MissingData"
  | .available => "Available"
  | .countryAvailable => "CountryAvailable"
  | .countryVarAvailable => "CountryVarAvailable"

def ofName? (s : String) : Option Availability :=
  all.find? (·.name == s)

instance : LE Availability := ⟨fun a b => a.rank ≤ b.rank⟩

instance (a b : Availability) : Decidable (a ≤ b) := inferInstanceAs (Decidable (a.rank ≤ b.rank))

def isAvailable (a : Availability) : Bool :=
  decide (.available ≤ a)

end Availability

end SpeechHost
