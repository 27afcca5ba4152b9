import SpeechHost.Engine.Basic
/-!
# Sessions

A session owns one engine from its loading to its release. Its engine has always been told about
the post-filter, and after the release every request is refused.

Speaking and releasing come in two sections each, between which others may act: `enterSpeech` and
`finishSpeech`, `beginShutdown` and `endShutdown`.
-/

namespace SpeechHost

open SpeechHost.Audio

variable {ε σ : Type} [SpeechEngine ε] [AudioSink σ]

def FilterSpec.applyTo (f : FilterSpec) (e : ε) (w : World) :
    Except ConfigurationError Unit × ε × World :=
  match SpeechEngine.configure f e w with
  | (.ok (), e, w) => (.ok (), e, w)
  | (.error error, e, w) => (.error (.filterRejected error.message), e, w)

structure Session (ε : Type) where
  identifier : String
  filter : FilterSpec
  engine : ε
  /-- Whether the engine was let go. -/
  released : Bool

namespace Session

/-- Loads an engine and tells it about its filter. An engine that rejects the filter is let go. -/
def open? (loader : Loader ε) (identifier config : String) (w : World) :
    Except ConfigurationError (Session ε) × World :=
  match loader identifier config w with
  | (.error error, w) => (.error error, w)
  | (.ok e, w) =>
    let filter := FilterSpec.forEngine identifier
    match filter.applyTo e w with
    | (.ok (), e, w) => (.ok ⟨identifier, filter, e, false⟩, w)
    | (.error error, e, w) => (.error error, (SpeechEngine.shutdown e w).2)

/-- Passes a request on to the engine, or answers for an engine that was let go. -/
def request (released : α) (ask : Request ε α) : Request (Session ε) α := fun s w =>
  if s.released then (released, s, w)
  else
    let (answer, engine, w) := ask s.engine w
    (answer, { s with engine }, w)

def stop : Request (Session ε) (Except EngineError Unit) :=
  request (.error .released) SpeechEngine.stop

def availability (l : Locale) : Request (Session ε) Availability :=
  request .notSupported (SpeechEngine.availability l)

def setLanguage (l : Locale) : Request (Session ε) (Except EngineError Unit) :=
  request (.error .released) (SpeechEngine.setLanguage l)

def language : Request (Session ε) (Option Locale) :=
  request none SpeechEngine.language

def setProperty (name value : String) : Request (Session ε) (Except EngineError Unit) :=
  request (.error .released) (SpeechEngine.setProperty name value)

def setRate (rate : Int) : Request (Session ε) (Except EngineError Unit) :=
  setProperty "rate" (toString rate)

def setPitch (pitch : Int) : Request (Session ε) (Except EngineError Unit) :=
  setProperty "pitch" (toString pitch)

/-! ## Speaking -/

/-- Gives the engine a text to speak. -/
def enterSpeech (text : String) : Request (Session ε) (Except EngineError Unit) :=
  request (.error .released) fun e w =>
    let (e, w) := SpeechEngine.accept text e w
    (.ok (), e, w)

/-- Lets the engine deliver the audio of a text it was given, also when the session is being
released meanwhile. -/
def finishSpeech (text : String) (out : σ) (s : Session ε) (w : World) :
    Except EngineError Unit × σ × Session ε × World :=
  let (result, out, engine, w) := SpeechEngine.utter text out s.engine w
  (result, out, { s with engine }, w)

def speak (text : String) (out : σ) (s : Session ε) (w : World) :
    Except EngineError Unit × σ × Session ε × World :=
  match s.enterSpeech text w with
  | (.error e, s, w) => (.error e, out, s, w)
  | (.ok (), s, w) => s.finishSpeech text out w

/-! ## Releasing -/

/-- Refuses further requests and asks the engine to stop; says whether this is the release. -/
def beginShutdown (s : Session ε) (w : World) : Bool × Session ε × World :=
  if s.released then (false, s, w)
  else
    let (_, engine, w) := SpeechEngine.stop s.engine w
    (true, { s with engine, released := true }, w)

def endShutdown (s : Session ε) (w : World) : Session ε × World :=
  let (engine, w) := SpeechEngine.shutdown s.engine w
  ({ s with engine }, w)

/-- Releases the engine, once. -/
def shutdown (s : Session ε) (w : World) : Session ε × World :=
  match s.beginShutdown w with
  | (true, s, w) => s.endShutdown w
  | (false, s, w) => (s, w)

end Session

end SpeechHost
