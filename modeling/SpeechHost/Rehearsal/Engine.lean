import SpeechHost.Engine.Basic
/-!
# An engine that follows a script

It notes every request in the journal and answers as its script says. With it a host can be tried
without any program.
-/

namespace SpeechHost.Rehearsal

open SpeechHost.Audio

/-- What a scripted engine answers. -/
structure Script where
  /-- How each loading in turn fails; those behind the end succeed. -/
  loading : List (Option ConfigurationError)
  configure : Option EngineError
  setLanguage : Option EngineError
  /-- How properties fail, by name. -/
  setProperty : List (String × EngineError)
  synthesize : Option EngineError
  stop : Option EngineError
  availability : Availability
  locale : Option Locale
  /-- The sizes of the buffers of every utterance. -/
  chunks : List Nat
  /-- Whether an utterance waits until it is stopped. -/
  waits : Bool

structure ScriptedEngine where
  script : Script

def answer : Option EngineError → Except EngineError Unit
  | none => .ok ()
  | some e => .error e

/-- What every byte of the audio is. -/
def audioByte : UInt8 := 7

/-- Whether a stop was asked for since the last loading. -/
def stopped (journal : List Note) : Bool :=
  let recent := journal.reverse.takeWhile fun
    | .loaded .. => false
    | _ => true
  recent.any fun
    | .engine .stop => true
    | _ => false

namespace ScriptedEngine

variable {σ : Type} [AudioSink σ]

def stop (e : ScriptedEngine) (w : World) : Except EngineError Unit × World :=
  (answer e.script.stop, w.note (.engine .stop))

/-- Does what a sink asks for with its answer. -/
def heed (e : ScriptedEngine) (r : Reply) (w : World) : World :=
  if r.stop then (e.stop w).2 else w

/-- Delivers buffers of the given sizes, whatever stops are asked for. -/
def deliver (e : ScriptedEngine) (s : σ) (w : World) :
    List Nat → Except EngineError Unit × σ × World
  | [] =>
    let (s, w) := AudioSink.done s w
    (.ok (), s, w)
  | n :: ns =>
    let (reply, s, w) := AudioSink.audio (List.replicate n audioByte) s w
    let w := e.heed reply w
    match reply.outcome with
    | .error error => (.error error, s, w)
    | .ok () => e.deliver s w ns

def utter (e : ScriptedEngine) (s : σ) (w : World) : Except EngineError Unit × σ × World :=
  let w := if e.script.waits then w.note (.engine .synthesizeEnd) else w
  match e.script.synthesize with
  | some error => (.error error, s, w)
  | none =>
    let (reply, s, w) := AudioSink.start ⟨22050, .pcm16, 1⟩ s w
    let w := e.heed reply w
    match reply.outcome with
    | .error error => (.error error, s, w)
    | .ok () => e.deliver s w e.script.chunks

instance : SpeechEngine ScriptedEngine where
  name _ := "fake"
  configure f e w := (answer e.script.configure, e, w.note (.engine (.configure f.enabled f.shelf)))
  availability l e w :=
    (e.script.availability, e, w.note (.engine (.availability l.language l.country l.variant)))
  setLanguage l e w :=
    (answer e.script.setLanguage, e,
      w.note (.engine (.setLanguage l.language l.country l.variant)))
  language e w := (e.script.locale, e, w.note (.engine .language))
  setProperty name value e w :=
    (answer (e.script.setProperty.lookup name), e, w.note (.engine (.setProperty name value)))
  accept text e w := (e, w.note (.engine (.synthesize text)))
  ready e w := !e.script.waits || stopped w.journal
  utter _ s e w :=
    let (result, s, w) := e.utter s w
    (result, s, e, w)
  stop e w :=
    let (result, w) := e.stop w
    (result, e, w)
  shutdown e w := (e, w.note (.engine .shutdown))

end ScriptedEngine

def Script.loader (script : Script) : Loader ScriptedEngine := fun identifier config w =>
  let before := w.journal.countP fun
    | .loaded .. => true
    | _ => false
  let w := w.note (.loaded identifier config)
  match script.loading[before]? with
  | some (some e) => (.error e, w)
  | _ => (.ok ⟨script⟩, w)

end SpeechHost.Rehearsal
