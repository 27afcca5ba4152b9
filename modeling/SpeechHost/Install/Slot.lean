/-!
# The install slot

What all installers share: at most one installation runs at a time, and none after one that
succeeded, until the slot is reset.
-/

namespace SpeechHost.Install

inductive Outcome where
  /-- None has ended yet. -/
  | unknown
  | success
  | failure
  deriving DecidableEq, Repr

/-- The slot: whether it is taken, and how the last installation ended. -/
structure Slot where
  installing : Bool
  last : Outcome
  deriving DecidableEq, Repr

namespace Slot

def fresh : Slot := ⟨false, .unknown⟩

def isOpen (s : Slot) : Bool :=
  !s.installing && s.last != .success

def tryBegin (s : Slot) : Bool × Slot :=
  if s.isOpen then (true, { s with installing := true }) else (false, s)

def finish (s : Slot) (o : Outcome) : Slot :=
  { s with installing := false, last := o }

/-- Forgets how the last installation ended, unless one is running. -/
def reset (s : Slot) : Slot :=
  if s.installing then s else { s with last := .unknown }

end Slot

end SpeechHost.Install
