import SpeechHost.Engine.Espeak
/-!
# Engines that are programs

The two kinds of engine that are installed as programs, and how an identifier brings one up.
-/

namespace SpeechHost

open SpeechHost.Audio SpeechHost.Storage SpeechHost.Text

inductive CommandEngine where
  | pico (p : Pico)
  | espeak (e : Espeak)

namespace CommandEngine

def name : CommandEngine → String
  | .pico _ => "pico2wave"
  | .espeak _ => "espeak-ng"

def playback : CommandEngine → Playback
  | .pico p => p.playback
  | .espeak e => e.playback

def withPlayback (e : CommandEngine) (playback : Playback) : CommandEngine :=
  match e with
  | .pico p => .pico { p with playback }
  | .espeak e => .espeak { e with playback }

@[simp] theorem playback_withPlayback (e : CommandEngine) (p : Playback) :
    (e.withPlayback p).playback = p := by
  cases e <;> rfl

@[simp] theorem withPlayback_withPlayback (e : CommandEngine) (p q : Playback) :
    (e.withPlayback p).withPlayback q = e.withPlayback q := by
  cases e <;> rfl

@[simp] theorem withPlayback_playback (e : CommandEngine) : e.withPlayback e.playback = e := by
  cases e <;> rfl

/-- Takes over a change, or stays as it is when there was none. -/
def settle (e : CommandEngine) (changed : Except EngineError CommandEngine) :
    Except EngineError Unit × CommandEngine :=
  match changed with
  | .ok e => (.ok (), e)
  | .error error => (.error error, e)

def configure (f : FilterSpec) (e : CommandEngine) : Except EngineError Unit × CommandEngine :=
  let (result, playback) := e.playback.configure f
  (result, e.withPlayback playback)

def availability (e : CommandEngine) (d : Disk) (l : Locale) : Availability :=
  match e with
  | .pico p => p.availability d l
  | .espeak _ => Espeak.availability l

def setLanguage (e : CommandEngine) (d : Disk) (l : Locale) : Except EngineError CommandEngine :=
  match e with
  | .pico p => .pico <$> p.setLanguage d l
  | .espeak e => .espeak <$> e.setLanguage l

def language : CommandEngine → Option Locale
  | .pico p => p.language
  | .espeak e => e.locale

def setProperty (e : CommandEngine) (d : Disk) (name value : String) :
    Except EngineError CommandEngine :=
  match e with
  | .pico p => .pico <$> p.setProperty d name value
  | .espeak e => .espeak <$> e.setProperty name value

def shutdown : CommandEngine → CommandEngine
  | .pico p => .pico p.shutdown
  | .espeak e => .espeak { e with playback := e.playback.requestStop }

instance : SpeechEngine CommandEngine where
  name := name
  configure f e w :=
    let (result, e) := e.configure f
    (result, e, w)
  availability l e w := (e.availability w.disk l, e, w)
  setLanguage l e w :=
    let (result, e) := e.settle (e.setLanguage w.disk l)
    (result, e, w)
  language e w := (e.language, e, w)
  setProperty name value e w :=
    let (result, e) := e.settle (e.setProperty w.disk name value)
    (result, e, w)
  accept _ e w := (e.withPlayback e.playback.begin, w)
  ready _ _ := true
  utter text s e w :=
    match e with
    | .pico p =>
      let (result, s, p, w) := p.utter text s w
      (result, s, .pico p, w)
    | .espeak e =>
      let (result, s, e, w) := e.utter text s w
      (result, s, .espeak e, w)
  stop e w := (.ok (), e.withPlayback e.playback.requestStop, w)
  shutdown e w := (e.shutdown, w)

/-- Brings up the engine that an identifier names. A program with the Pico marker in its name is a
Pico engine; the directory it is given has to exist. -/
def load (w : World) (identifier config : String) : Except ConfigurationError CommandEngine :=
  match resolve? w identifier with
  | none => .error (.engineNotFound identifier)
  | some program =>
    if namesPico (program.fileName?.getD "") then
      let directory := trim config
      if !directory.isEmpty && !w.disk.isDirectory (.ofString directory) then
        .error (.load s!"lingware directory {directory} does not exist")
      else
        .ok (.pico (.new program config))
    else
      .ok (.espeak (.new program config))

def loader : Loader CommandEngine := fun identifier config w =>
  (load w identifier config, w)

end CommandEngine

end SpeechHost
