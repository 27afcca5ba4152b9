import SpeechHost.CommandLine.Arguments
import SpeechHost.Service
import SpeechHost.Storage.Path
/-!
# Requests on the command line

What a command line asks for: work to do, or to be told something.
-/

namespace SpeechHost.CommandLine

open SpeechHost.Storage SpeechHost.Text

inductive Command where
  | check (names : List String) (json : Bool)
  /-- Install an archive into a directory; the settings say what is left out. -/
  | install (root archive : Option Path)
  | speak (request : SpeechRequest) (out : Path)
  | sample (language country : String)

inductive Request where
  | work (c : Command)
  /-- To be told a text. -/
  | tell (text : String)

/-- The value of a switch, or the one that counts where none is given. -/
def Given.value (g : Given) (f : Form) (long : String) : String :=
  match g.values.lookup long with
  | some value => value
  | none => ((f.switches.find? (·.long == long)).bind (·.standard)).getD ""

def Given.number (g : Given) (f : Form) (long : String) : Int :=
  (numeral? 32 (g.value f long)).getD 0

def Given.path? (g : Given) (long : String) : Option Path :=
  (g.values.lookup long).map Path.ofString

def Given.word (g : Given) (n : Nat) : String :=
  g.words.getD n ""

def ofGiven (f : Form) (g : Given) : Command :=
  if f == checkForm then .check g.words (g.has "json")
  else if f == installForm then .install (g.path? "root") (g.path? "archive")
  else if f == speakForm then
    .speak
      { text := g.word 0
        locale := ⟨g.value f "lang", g.value f "country", ""⟩
        rate := g.number f "rate"
        pitch := g.number f "pitch" }
      (.ofString (g.value f "out"))
  else .sample (g.word 0) (g.word 1)

def readTopics : List String → Except UsageError String
  | [] => .ok programHelp
  | name :: more =>
    match (forms.find? (·.name == name)).map (·.help), more with
    | some text, [] => .ok text
    | some _, other :: _ => .error (.unknownCommand other)
    | none, more =>
      if name != helpRow.1 then .error (.unknownCommand name)
      else match more with
        | [] => .ok helpOnHelp
        | other :: _ => .error (.unknownCommand other)

def read : List String → Except UsageError Request
  | [] => .error .noCommand
  | word :: words =>
    match forms.find? (·.name == word) with
    | some f => do
      match ← f.read words with
      | some g => return .work (ofGiven f g)
      | none => return .tell f.help
    | none =>
      if word == helpRow.1 then .tell <$> readTopics words
      else match word.toList with
        | '-' :: '-' :: name => asked word (·.long.toList == name)
        | '-' :: c :: _ => asked word (·.short == some c)
        | _ => .error (.unknownCommand word)
where
  /-- Reads a switch that stands where a command should. -/
  asked (word : String) (isMeant : Switch → Bool) : Except UsageError Request :=
    if isMeant helpSwitch then .ok (.tell programHelp)
    else if isMeant versionSwitch then .ok (.tell s!"{programName} {release}\n")
    else .error (.unknownSwitch word)

end SpeechHost.CommandLine
