import SpeechHost.Storage.Disk
import SpeechHost.Voice.Table
/-!
# Checking the voice data

A voice is installed when each of its files stands in the user's directory or in the system's.
-/

namespace SpeechHost.Voice

open SpeechHost.Storage

inductive Verdict where
  /-- Every voice that was looked at is installed. -/
  | pass
  | missingData
  /-- Voices were asked for by name, and none of them is installed. -/
  | fail
  deriving DecidableEq, Repr

def Verdict.name : Verdict → String
  | .pass => "Pass"
  | .missingData => "MissingData"
  | .fail => "Fail"

structure Report where
  verdict : Verdict
  root : Path
  /-- Every file that some voice needs, with the voice it belongs to. -/
  files : List (String × String)
  available : List String
  unavailable : List String

/-- The two directories where voice data may stand. -/
structure Places where
  user : Path
  system : Path

def Places.holds (p : Places) (d : Disk) (name : String) : Bool :=
  d.exists? (p.user.join (.ofString name)) || d.exists? (p.system.join (.ofString name))

def Places.installed (p : Places) (d : Disk) (v : Voice) : Bool :=
  v.files.all (p.holds d)

/-- The voices that a list of names selects: all of them when no name says anything. -/
def selected (requested : List String) : List Voice :=
  let wanted := requested.filter (· != "")
  voices.filter fun v => wanted.isEmpty || wanted.contains v.name

def Places.check (p : Places) (d : Disk) (requested : List String) : Report :=
  let (present, absent) := (selected requested).partition (p.installed d)
  let verdict :=
    if requested.any (· != "") && present.isEmpty then .fail
    else if absent.isEmpty then .pass
    else .missingData
  { verdict
    root := p.user
    files := voices.flatMap fun v => v.files.map (·, v.name)
    available := present.map (·.name)
    unavailable := absent.map (·.name) }

end SpeechHost.Voice
