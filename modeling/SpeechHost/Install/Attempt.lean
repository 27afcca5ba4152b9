import SpeechHost.Install.Installer
/-!
# Whole attempts

An attempt from its beginning to its last report, for a host that may answer a report at once by
closing or by asking for another try.
-/

namespace SpeechHost.Install

open SpeechHost.Storage

/-- What a host does when it gets a report. -/
inductive Reaction where
  | nothing
  | close
  | retry
  deriving DecidableEq, Repr

/-- A host: what it does when another try is offered, and when it is told that all is done. -/
structure Host where
  onOfferRetry : Reaction
  onClose : Reaction

def Host.passive : Host := ⟨.nothing, .nothing⟩

def Host.reaction (h : Host) : Event → Reaction
  | .offerRetry => h.onOfferRetry
  | .close => h.onClose
  | _ => .nothing

/-- All that an attempt touches. -/
structure Site where
  slot : Slot
  installer : Installer
  /-- How often the archive was opened. -/
  opened : Nat
  disk : Disk
  events : List Event

namespace Site

def report (s : Site) (i : Installer) (events : List Event) : Site :=
  { s with installer := i, events := s.events ++ events }

/-- Takes the slot and begins, if the slot can be taken. -/
def begin (s : Site) : Bool × Site :=
  match s.slot.tryBegin with
  | (false, _) => (false, s)
  | (true, slot) =>
    let (i, events) := s.installer.markInstalling
    (true, { s with slot }.report i events)

/-- The host goes away. -/
def close (s : Site) : Site :=
  let (i, events) := s.installer.close
  s.report i events

def run (source : Source) (root : Path) (s : Site) : Outcome × Site :=
  let (outcome, disk) := Installer.run (source.read s.opened s.disk) root s.disk
  (outcome, { s with disk, opened := s.opened + 1 })

/-- Makes a report, which the host answers before the next one comes. Where it asks for another try and
may have one, `again` makes it, if the slot can be taken. -/
def tell (host : Host) (again : Option (Path → Site → Outcome × Site)) (s : Site) (event : Event) :
    Site :=
  let s := s.report s.installer [event]
  match host.reaction event with
  | .nothing => s
  | .close => s.close
  | .retry =>
    match again, s.installer.root with
    | some again, some root =>
      match s.begin with
      | (false, s) => s
      | (true, s) => (again root s).2
    | _, _ => s

/-- Extracts and gives the slot back, and makes the last reports. -/
def finish (source : Source) (host : Host) (again : Option (Path → Site → Outcome × Site))
    (root : Path) (s : Site) : Outcome × Site :=
  let (outcome, s) := s.run source root
  let s := { s with slot := s.slot.finish outcome }
  let (i, events) := s.installer.settle outcome
  (outcome, events.foldl (tell host again) { s with installer := i })

/-- Goes on after the beginning, to the last report; `tries` bounds how often the host may ask for another
try. -/
def complete (source : Source) (host : Host) (tries : Nat) (root : Path) (s : Site) :
    Outcome × Site :=
  match tries with
  | 0 => s.finish source host none root
  | tries + 1 => s.finish source host (some (complete source host tries)) root

/-- Makes a whole attempt, if the slot can be taken. -/
def attempt (source : Source) (host : Host) (tries : Nat) (root : Path) (s : Site) :
    Option Outcome × Site :=
  match s.begin with
  | (false, s) => (none, s)
  | (true, s) =>
    let (outcome, s) := s.complete source host tries root
    (some outcome, s)

end Site

end SpeechHost.Install
