import SpeechHost.Settings.Json
import SpeechHost.Settings.Layer
import SpeechHost.Settings.Toml
import SpeechHost.Settings.Yaml
import SpeechHost.Storage.Disk
import SpeechHost.Text.Lowercase
import SpeechHost.Text.Utf8
/-!
# Loading settings

The sources of settings, from the weakest to the strongest: what every host starts with, a file in
the working directory, a file in the user's home, and the environment. A host whose settings cannot
be loaded goes on with what every host starts with.
-/

namespace SpeechHost.Settings

open SpeechHost.Storage SpeechHost.Text

inductive LoadError where
  /-- A file cannot be read as what its name says, or holds no table. -/
  | malformed (file : String)
  /-- A setting is no text. -/
  | misfit (key : Key) (m : Misfit) (origin : Option String)
  | useless (f : Flaw)
  deriving DecidableEq, Repr

def LoadError.message : LoadError → String
  | .malformed file => s!"cannot make out {file}"
  | .misfit key m origin =>
    s!"invalid type: {m.name}, expected a string for key \x60{key.name}\x60" ++
      (origin.elim "" fun file => s!" in {file}")
  | .useless f => f.message

/-! ## Files -/

structure FileFormat where
  /-- What the names of its files end with. -/
  ending : String
  read? : String → Option Value

/-- The formats that the documentation speaks of. -/
def documented : List FileFormat :=
  [⟨".toml", Toml.read?⟩, ⟨".json", Json.read?⟩, ⟨".yaml", Yaml.read?⟩, ⟨".yml", Yaml.read?⟩]

/-- The text of a file; a byte order mark in front does not count. -/
def textOf (content : Bytes) : String :=
  let s := Utf8.decodeLossy content
  if s.startsWith "\uFEFF" then (s.drop 1).toString else s

/-- The settings file of a place, formats being tried in order. A file without an ending hides the others
and says nothing. -/
def fileAt? (formats : List FileFormat) (d : Disk) (place : Path) : Option (Path × FileFormat) :=
  if d.isFile place then none
  else (formats.map fun f => (place.append f.ending, f)).find? (d.isFile ·.1)

/-- How a file is called in messages: from the working directory, if the two lie in one tree. -/
def shownPath (d : Disk) (p : Path) : String :=
  if !p.isAbsolute then p.toString
  else relative d.cwd p.components.tail
where
  /-- The way from a directory to what lies at the end of components. -/
  relative : Location → List Component → String
    | piece :: base, c :: cs =>
      if c == .name piece then relative base cs else climb (piece :: base) (c :: cs)
    | base, cs => climb base cs
  /-- The way up out of all the pieces of a directory, and down the components. -/
  climb (base : Location) (cs : List Component) : String :=
    "/".intercalate (base.map (fun _ => "..") ++ cs.map fun
      | .top => "/"
      | .here => "."
      | .up => ".."
      | .name s => s)

/-- What the settings file of a place says, if there is one that can be read. -/
def fileLayer (formats : List FileFormat) (d : Disk) (place : Path) : Except LoadError Layer :=
  match fileAt? formats d place with
  | none => .ok ⟨none, []⟩
  | some (p, f) =>
    match d.read p with
    | .error _ => .ok ⟨none, []⟩
    | .ok content =>
      let file := shownPath d p
      match f.read? (textOf content) with
      | some (.table entries) => .ok ⟨some file, entries⟩
      | _ => .error (.malformed file)

/-! ## The environment -/

def variableMark : List Char := "picotts_".toList

/-- What the environment says. The names of its variables may be written in either case. -/
def environmentLayer (e : Environment) : Layer where
  origin := none
  entries := e.bindings.filterMap fun (name, value) =>
    let cs := (lowercase name).toList
    if variableMark.isPrefixOf cs then
      some (String.ofList (cs.drop variableMark.length), .text value)
    else none

/-! ## Loading -/

/-- The places of settings files, the weakest first. -/
def places (e : Environment) : List Path :=
  [.ofString "PicoTts",
    .ofString ((e.get? "HOME").getD "" ++ "/.config/picotts-ng/PicoTts")]

/-- All layers above what every host starts with, the weakest first. -/
def layers (formats : List FileFormat) (d : Disk) (e : Environment) :
    Except LoadError (List Layer) := do
  return (← (places e).mapM (fileLayer formats d)) ++ [environmentLayer e]

/-- What is wrong with a key under which no text stands. -/
def Draft.misfit? (d : Draft) (k : Key) : Option LoadError :=
  match d k with
  | .text _ => none
  | .misfit m origin => some (.misfit k m origin)

def Draft.text (d : Draft) (k : Key) : String :=
  match d k with
  | .text s => s
  | .misfit _ _ => ""

/-- The settings of a draft, if a text stands under every key. -/
def Draft.toSettings (d : Draft) : Except LoadError Settings :=
  match Key.all.findSome? d.misfit? with
  | some error => .error error
  | none => .ok (ofTexts d.text)

/-- Loads the settings, from files in some formats. -/
def loadWith (formats : List FileFormat) (d : Disk) (u : User) : Except LoadError Settings := do
  let s ← (layAllOn (← layers formats d u.toEnvironment) (standard u).toDraft).toSettings
  match s.check with
  | .ok () => return s
  | .error f => throw (.useless f)

/-- The settings that a host goes on with, and why they are not the ones it was given. -/
def effectiveWith (formats : List FileFormat) (d : Disk) (u : User) : Settings × Option LoadError :=
  match loadWith formats d u with
  | .ok s => (s, none)
  | .error error => (standard u, some error)

def load : Disk → User → Except LoadError Settings :=
  loadWith documented

def effective : Disk → User → Settings × Option LoadError :=
  effectiveWith documented

end SpeechHost.Settings
