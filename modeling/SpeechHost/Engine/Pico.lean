import SpeechHost.Engine.Basic
import SpeechHost.Engine.Launch
import SpeechHost.Engine.Playback
import SpeechHost.Text.Numeral
import SpeechHost.Text.Utf8
import SpeechHost.Voice.Table
/-!
# The Pico engine

A program that writes the audio of one text to a file. It is told the voice by its locale, and
everything else by markup around the text.
-/

namespace SpeechHost

open SpeechHost.Audio SpeechHost.Storage SpeechHost.Text SpeechHost.Voice

/-- A property with a range. -/
structure Dial where
  tag : String
  low : Int
  high : Int
  level : Int
  deriving DecidableEq, Repr

/-- The level where a dial says nothing. -/
def Dial.neutral : Int := 100

/-- The dial at another level, as far as it goes. -/
def Dial.turn (d : Dial) (level : Int) : Dial :=
  { d with level := max d.low (min d.high level) }

def Dial.mark (d : Dial) (text : String) : String :=
  if d.level == Dial.neutral then text
  else s!"<{d.tag} level='{d.level}'>{text}</{d.tag}>"

structure Prosody where
  rate : Dial
  pitch : Dial
  volume : Dial
  deriving DecidableEq, Repr

def Prosody.neutral : Prosody :=
  ⟨⟨"speed", 20, 500, 100⟩, ⟨"pitch", 50, 200, 100⟩, ⟨"volume", 0, 500, 100⟩⟩

/-- A text with the markup of its properties: pitch outermost, then speed, then volume. -/
def Prosody.mark (p : Prosody) (text : String) : String :=
  p.pitch.mark (p.rate.mark (p.volume.mark text))

def Prosody.turn (p : Prosody) (name : String) (level : Int) : Except EngineError Prosody :=
  match name with
  | "rate" => .ok { p with rate := p.rate.turn level }
  | "pitch" => .ok { p with pitch := p.pitch.turn level }
  | "volume" => .ok { p with volume := p.volume.turn level }
  | _ => .error (.failed (.unknownProperty name))

def readLevel (name value : String) : Except EngineError Int :=
  match numeral? 32 (trim value) with
  | some n => .ok n
  | none => .error (.failed (.badLevel name value))

structure Pico where
  program : Path
  /-- Where the voice data stands. -/
  directory : Path
  playback : Playback
  voice : Option Voice
  prosody : Prosody

namespace Pico

/-- An engine with a program and a configuration: the directory of the voice data, or nothing for
the system's. -/
def new (program : Path) (config : String) : Pico :=
  let directory := if (trim config).isEmpty then systemDirectory else trim config
  ⟨program, .ofString directory, .fresh, none, .neutral⟩

def hasData (p : Pico) (d : Disk) (v : Voice) : Bool :=
  v.files.all fun name => d.isFile (p.directory.join (.ofString name))

/-- How well a locale is supported. The variant does not matter. -/
def availability (p : Pico) (d : Disk) (l : Locale) : Availability :=
  if l.language.isEmpty then .notSupported
  else match choose? l.language l.country with
    | none => .notSupported
    | some (v, exact) =>
      if !p.hasData d v then .missingData
      else if exact then .countryAvailable
      else .available

/-- Switches to a voice if its data is there. -/
def select (p : Pico) (d : Disk) (v : Voice) : Except EngineError Pico :=
  if p.hasData d v then .ok { p with voice := some v }
  else .error (.failed (.missingVoiceData v.locale p.directory.toString))

def setLanguage (p : Pico) (d : Disk) (l : Locale) : Except EngineError Pico :=
  match choose? l.language l.country with
  | none => .error (.unsupportedLanguage s!"{l.language}-{l.country}")
  | some (v, _) => p.select d v

def language (p : Pico) : Option Locale :=
  p.voice.map fun v => ⟨v.language, v.country, ""⟩

/-- Sets a property; the one named `language` is the locale of a voice. -/
def setProperty (p : Pico) (d : Disk) (name value : String) : Except EngineError Pico :=
  if name == "language" then
    match voices.find? (·.locale == value) with
    | none => .error (.unsupportedLanguage value)
    | some v => p.select d v
  else do
    let level ← readLevel name value
    return { p with prosody := ← p.prosody.turn name level }

/-- The file that the program is told to write, which is there only while a text is spoken. -/
def scratchFile : String := "/tmp/picotts-scratch.wav"

def arguments (p : Pico) (text : String) : List String :=
  ["-w", scratchFile, "-l", (p.voice.getD american).locale, "--", p.prosody.mark text]

/-- The audio of a text, as the program left it in the scratch file. -/
def wave (p : Pico) (text : String) (w : World) : Except EngineError Bytes × World :=
  match w.run p.program (p.arguments text) with
  | (.error fault, w) => (.error (.io fault), w)
  | (.ok outcome, w) =>
    (match outcome.ending with
    | .lost fault => .error (.io fault)
    | .overdue => .error (.failed (.overdue none))
    | .ended false => .error (.failed (.program "pico2wave" (Utf8.decodeLossy outcome.errors)))
    | .ended true => (w.disk.read (.ofString scratchFile)).mapError .io, w)

@[simp] theorem wave_world (p : Pico) (text : String) (w : World) :
    (p.wave text w).2 = (w.run p.program (p.arguments text)).2 := by
  rcases hrun : w.run p.program (p.arguments text) with ⟨_ | _, w'⟩ <;> simp [wave, hrun]

/-- Speaks a text. The scratch file is there before the program is started, and is gone afterwards. -/
def utter {σ : Type} [AudioSink σ] (text : String) (s : σ) (p : Pico) (w : World) :
    Except EngineError Unit × σ × Pico × World :=
  match w.reserve scratchFile with
  | .error fault => (.error (.io fault), s, p, w)
  | .ok w =>
    match p.wave text w with
    | (.error error, w) => (.error error, s, p, w.discard scratchFile)
    | (.ok wave, w) =>
      let (result, s, playback, w) := p.playback.stream wave s w
      (result, s, { p with playback }, w.discard scratchFile)

def shutdown (p : Pico) : Pico :=
  { p with playback := p.playback.requestStop, voice := none }

end Pico

end SpeechHost
