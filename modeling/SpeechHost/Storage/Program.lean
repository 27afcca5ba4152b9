import SpeechHost.Storage.Fault
/-!
# Programs

A program as the host sees it: what comes of starting it with a list of arguments.
-/

namespace SpeechHost.Storage

abbrev Bytes := List UInt8

/-- How a run of a program ends for the host that waits for it. -/
inductive RunEnd where
  /-- The program ended, and reported success or did not. -/
  | ended (success : Bool)
  /-- It took too long, and was stopped. -/
  | overdue
  /-- It could not be waited for, or what it left could not be collected. -/
  | lost (f : Fault)
  deriving DecidableEq, Repr

/-- What a run of a program leaves behind. -/
structure Run where
  output : Bytes
  /-- The files it wrote, by the paths it used. -/
  written : List (String × Bytes)
  errors : Bytes
  ending : RunEnd

/-- A program file. Its behaviour depends on its arguments alone. -/
structure Program where
  executable : Bool
  /-- What comes of starting it with these arguments: a run, or the refusal of a system that has no room
  for them. -/
  start : List String → Except Fault Run

/-- The longest argument that a system takes, in bytes. -/
def maxArgumentBytes : Nat := 131071

end SpeechHost.Storage
