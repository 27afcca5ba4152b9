import SpeechHost.Engine.Pico
/-!
# Engines with the command line of eSpeak

A program that prints the audio of one text. Everything is told by options; what the
configuration adds comes after the others.
-/

namespace SpeechHost

open SpeechHost.Audio SpeechHost.Storage SpeechHost.Text

/-- An engine with the command line of eSpeak. -/
structure Espeak where
  program : Path
  /-- Options from the configuration. -/
  extra : List String
  playback : Playback
  voice : Option String
  locale : Option Locale
  rate : Int
  pitch : Int
  volume : Int

namespace Espeak

def neutralWords : Int := 175

/-- An engine with a program and a configuration, whose words become options. -/
def new (program : Path) (config : String) : Espeak :=
  ⟨program, words config, .fresh, none, none, 100, 100, 100⟩

/-- The two-letter code of the languages that have one here; another language names itself. -/
def shortCode : String → String
  | "eng" => "en"
  | "deu" => "de"
  | "spa" => "es"
  | "fra" => "fr"
  | "ita" => "it"
  | other => other

def voiceFor (l : Locale) : String :=
  let voice := match shortCode l.language, l.country with
    | "en", "USA" => "en-us"
    | "en", "GBR" => "en-gb"
    | code, _ => lowercase code
  if l.variant.isEmpty then voice else s!"{voice}+{lowercase l.variant}"

/-- How well a locale is supported: as far as it says anything. -/
def availability (l : Locale) : Availability :=
  if l.language.isEmpty then .notSupported
  else if l.country.isEmpty then .available
  else if l.variant.isEmpty then .countryAvailable
  else .countryVarAvailable

def setLanguage (e : Espeak) (l : Locale) : Except EngineError Espeak :=
  if l.language.isEmpty then .error (.unsupportedLanguage "")
  else .ok { e with voice := some (voiceFor l), locale := some l }

/-- Sets a property; the one named `language` is a voice. -/
def setProperty (e : Espeak) (name value : String) : Except EngineError Espeak :=
  if name == "language" then .ok { e with voice := some (lowercase value) }
  else do
    let level ← readLevel name value
    match name with
    | "rate" => return { e with rate := level }
    | "pitch" => return { e with pitch := level }
    | "volume" => return { e with volume := level }
    | _ => throw (.failed (.unknownProperty name))

def clamp (low high n : Int) : Int :=
  max low (min high n)

/-- What the program is started with. Fractions are dropped. -/
def arguments (e : Espeak) (text : String) : List String :=
  ["--stdout"] ++ (e.voice.map fun v => ["-v", v]).getD [] ++
    ["-s", toString (clamp 80 450 ((neutralWords * e.rate).tdiv 100)),
      "-p", toString (clamp 0 99 (e.pitch.tdiv 2)),
      "-a", toString (clamp 0 200 e.volume)] ++
    e.extra ++ ["--", text]

/-- What a program printed about errors; nothing when it is no text. -/
def errorText (bytes : Bytes) : String :=
  (Utf8.decode? bytes).getD ""

def patience : Nat := 5

/-- The audio of a text, as the program printed it. -/
def wave (e : Espeak) (text : String) (w : World) : Except EngineError Bytes × World :=
  match w.run e.program (e.arguments text) with
  | (.error fault, w) => (.error (.io fault), w)
  | (.ok outcome, w) =>
    (match outcome.ending with
    | .lost fault => .error (.io fault)
    | .overdue => .error (.failed (.overdue (some patience)))
    | .ended false => .error (.failed (.program "espeak" (errorText outcome.errors)))
    | .ended true => .ok outcome.output, w)

@[simp] theorem wave_world (e : Espeak) (text : String) (w : World) :
    (e.wave text w).2 = (w.run e.program (e.arguments text)).2 := by
  rcases hrun : w.run e.program (e.arguments text) with ⟨_ | _, w'⟩ <;> simp [wave, hrun]

def utter {σ : Type} [AudioSink σ] (text : String) (s : σ) (e : Espeak) (w : World) :
    Except EngineError Unit × σ × Espeak × World :=
  match e.wave text w with
  | (.error error, w) => (.error error, s, e, w)
  | (.ok wave, w) =>
    let (result, s, playback, w) := e.playback.stream wave s w
    (result, s, { e with playback }, w)

end Espeak

end SpeechHost
