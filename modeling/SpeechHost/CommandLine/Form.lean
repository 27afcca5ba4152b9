import SpeechHost.Text.Numeral
/-!
# Forms of commands

What can stand behind the name of a command: parameters, which are told apart by their place, and
switches, which are told apart by their name. The form of a command also says how help on it reads.
-/

namespace SpeechHost.CommandLine

open SpeechHost.Text

def programName : String := "picotts"

def release : String := "0.3.0"

inductive Kind where
  | text
  | path
  | number
  deriving DecidableEq, Repr

/-- Whether a text is a value of a kind. A path says something, and a number fits in 32 bits. -/
def Kind.admits : Kind → String → Bool
  | .text, _ => true
  | .path, s => s != ""
  | .number, s => (numeral? 32 s).isSome

/-- Something that is given by its name, and perhaps a value. -/
structure Switch where
  long : String
  short : Option Char
  /-- The kind of value that it takes, if it takes one. -/
  kind : Option Kind
  about : String
  /-- The value that counts where none is given. -/
  standard : Option String
  deriving DecidableEq, Repr

/-- Something that is given by its place. -/
structure Parameter where
  name : String
  required : Bool
  /-- Whether any number of values can be given; only for the last parameter. -/
  many : Bool
  about : String
  deriving DecidableEq, Repr

/-- What can stand behind the name of a command. -/
structure Form where
  name : String
  about : String
  parameters : List Parameter
  switches : List Switch
  deriving DecidableEq, Repr

/-! ## Help -/

def Parameter.shown (p : Parameter) : String :=
  (if p.required then s!"<{p.name}>" else s!"[{p.name}]") ++ (if p.many then "..." else "")

def Switch.shown (s : Switch) : String :=
  (s.short.elim "    " fun c => s!"-{c}, ") ++ s!"--{s.long}" ++
    (if s.kind.isSome then s!" <{s.long.toUpper}>" else "")

def Switch.explained (s : Switch) : String :=
  s.about ++ s.standard.elim "" fun v => s!" [default: {v}]"

def helpSwitch : Switch := ⟨"help", some 'h', none, "Print help", none⟩

def versionSwitch : Switch := ⟨"version", some 'V', none, "Print version", none⟩

/-- A text with blanks behind it, up to a width. -/
def padded (width : Nat) (s : String) : String :=
  s ++ String.ofList (List.replicate (width - s.length) ' ')

/-- A table of names and what they mean, under a title; nothing if there are no rows. -/
def table (title : String) (rows : List (String × String)) : String :=
  let width := (rows.map (·.1.length)).foldl max 0
  if rows.isEmpty then ""
  else s!"\n{title}:\n" ++ String.join (rows.map fun (name, about) =>
    s!"  {padded width name}  {about}\n")

def helpText (about usage : String) (tables : List (String × List (String × String))) : String :=
  s!"{about}\n\nUsage: {programName} {usage}\n" ++
    String.join (tables.map fun (title, rows) => table title rows)

def switchRows (switches : List Switch) : List (String × String) :=
  switches.map fun s => (s.shown, s.explained)

def Form.usage (f : Form) : String :=
  " ".intercalate
    ([f.name] ++ (if f.switches.isEmpty then [] else ["[OPTIONS]"]) ++ f.parameters.map (·.shown))

def Form.help (f : Form) : String :=
  helpText f.about f.usage
    [("Arguments", f.parameters.map fun p => (p.shown, p.about)),
      ("Options", switchRows (f.switches ++ [helpSwitch]))]

/-! ## The commands -/

def checkForm : Form where
  name := "check"
  about := "Check which voices have their lingware installed"
  parameters :=
    [⟨"LANGS", false, true, "Voices to check, e.g. eng-USA deu-DEU (all when omitted)"⟩]
  switches := [⟨"json", none, none, "Print the result as JSON", none⟩]

def installForm : Form where
  name := "install"
  about := "Install the language pack into the voice data root"
  parameters := []
  switches :=
    [⟨"root", some 'r', some .path,
        "Destination root (defaults to the configured voice_data_root)", none⟩,
      ⟨"archive", some 'a', some .path,
        "Language pack zip (defaults to the configured langpack_archive)", none⟩]

def speakForm : Form where
  name := "speak"
  about := "Synthesize text into a WAV file"
  parameters := [⟨"TEXT", true, false, "Text to speak"⟩]
  switches :=
    [⟨"lang", some 'l', some .text, "ISO-3 language, e.g. eng", some "eng"⟩,
      ⟨"country", some 'c', some .text, "ISO-3 country, e.g. USA", some ""⟩,
      ⟨"rate", none, some .number, "Speech rate, 100 is normal", some "100"⟩,
      ⟨"pitch", none, some .number, "Pitch, 100 is normal", some "100"⟩,
      ⟨"out", some 'o', some .path, "Output file", some "picotts.wav"⟩]

def sampleForm : Form where
  name := "sample"
  about := "Print the sample sentence for a language"
  parameters := [⟨"LANG", true, false, ""⟩, ⟨"COUNTRY", false, false, ""⟩]
  switches := []

def forms : List Form :=
  [checkForm, installForm, speakForm, sampleForm]

/-- The name of the command that gives help, and what it does. -/
def helpRow : String × String :=
  ("help", "Print this message or the help of the given subcommand(s)")

def programHelp : String :=
  helpText "Pico TTS voice data and synthesis utility" "<COMMAND>"
    [("Commands", forms.map (fun f => (f.name, f.about)) ++ [helpRow]),
      ("Options", switchRows [helpSwitch, versionSwitch])]

def helpOnHelp : String :=
  helpText helpRow.2 s!"{helpRow.1} [COMMAND]..."
    [("Arguments", [("[COMMAND]...", "Print help for the subcommand(s)")])]

end SpeechHost.CommandLine
