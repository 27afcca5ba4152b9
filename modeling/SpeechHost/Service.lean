import SpeechHost.Session
/-!
# The speech service

What a platform talks to: it brings up a session, answers about languages, and turns a request
into settings and speech. There is at most one session at a time; a new one takes the place of
the old.
-/

namespace SpeechHost

open SpeechHost.Audio

structure SpeechRequest where
  text : String
  locale : Locale
  rate : Int
  pitch : Int

/-- A request that says nothing but its text. -/
def SpeechRequest.ofText (text : String) : SpeechRequest :=
  ⟨text, ⟨"", "", ""⟩, 100, 100⟩

structure Service (ε : Type) where
  identifier : String
  /-- What the engine is configured with, if anything. -/
  config : Option String
  /-- The session. One that was released is as good as none. -/
  session : Option (Session ε)

namespace Service

variable {ε σ : Type} [SpeechEngine ε] [AudioSink σ]

def new (identifier : String) (config : Option String) : Service ε :=
  ⟨identifier, config, none⟩

/-- Passes a request on to the session, or answers for one that is not there. -/
def request (absent : α) (ask : Request (Session ε) α) : Request (Service ε) α := fun v w =>
  match v.session with
  | none => (absent, v, w)
  | some s =>
    let (answer, s, w) := ask s w
    (answer, { v with session := some s }, w)

/-! ## Coming up and going away -/

/-- Refuses further requests to the session and asks its engine to stop. -/
def beginRelease (v : Service ε) (w : World) : Service ε × World :=
  match v.session with
  | none => (v, w)
  | some s =>
    match s.beginShutdown w with
    | (true, s, w) => ({ v with session := some s }, w)
    | (false, _, w) => ({ v with session := none }, w)

def endRelease (v : Service ε) (w : World) : Service ε × World :=
  match v.session with
  | none => (v, w)
  | some s => ({ v with session := none }, (s.endShutdown w).2)

/-- Brings up a session where there is none. -/
def openSession (loader : Loader ε) (v : Service ε) (w : World) :
    Except ConfigurationError Unit × Service ε × World :=
  match Session.open? loader v.identifier (v.config.getD "") w with
  | (.error e, w) => (.error e, v, w)
  | (.ok s, w) => (.ok (), { v with session := some s }, w)

def destroy (v : Service ε) (w : World) : Service ε × World :=
  let (v, w) := v.beginRelease w
  v.endRelease w

/-- Brings up a new session in place of the old one. -/
def create (loader : Loader ε) (v : Service ε) (w : World) :
    Except ConfigurationError Unit × Service ε × World :=
  let (v, w) := v.destroy w
  v.openSession loader w

/-! ## Languages -/

def language : Request (Service ε) (Option Locale) :=
  request none Session.language

def availability (l : Locale) : Request (Service ε) Availability :=
  request .notSupported (Session.availability l)

/-- Chooses a language if it can be spoken, and says how well it is supported. -/
def loadLanguage (l : Locale) : Request (Service ε) Availability :=
  request .notSupported fun s w =>
    let (level, s, w) := s.availability l w
    if level.isAvailable then
      match s.setLanguage l w with
      | (.ok (), s, w) => (level, s, w)
      | (.error _, s, w) => (.notSupported, s, w)
    else
      (level, s, w)

/-! ## Speaking -/

def stop : Request (Service ε) (Except EngineError Unit) :=
  request (.error .released) Session.stop

/-- Makes one request after another until one fails. -/
def inTurn : List (Request (Session ε) (Except EngineError Unit)) →
    Request (Session ε) (Except EngineError Unit)
  | [], s, w => (.ok (), s, w)
  | ask :: rest, s, w =>
    match ask s w with
    | (.ok (), s, w) => inTurn rest s w
    | (.error e, s, w) => (.error e, s, w)

/-- Makes the settings of a request and gives its text to the engine. -/
def enterSpeech (r : SpeechRequest) : Request (Service ε) (Except EngineError Unit) :=
  request (.error .released) <| inTurn
    [Session.setLanguage r.locale, Session.setRate r.rate, Session.setPitch r.pitch,
      Session.enterSpeech r.text]

/-- Lets the engine deliver the audio of a request it was given. -/
def finishSpeech (r : SpeechRequest) (out : σ) (v : Service ε) (w : World) :
    Except EngineError Unit × σ × Service ε × World :=
  match v.session with
  | none => (.error .released, out, v, w)
  | some s =>
    let (result, out, s, w) := s.finishSpeech r.text out w
    (result, out, { v with session := some s }, w)

/-- Tells the sink about a failure. -/
def report (result : Except EngineError Unit) (out : σ) (w : World) : σ × World :=
  match result with
  | .ok () => (out, w)
  | .error _ => AudioSink.error out w

/-- Speaks a request. The sink hears of every failure. -/
def synthesize (r : SpeechRequest) (out : σ) (v : Service ε) (w : World) :
    Except EngineError Unit × σ × Service ε × World :=
  let (result, out, v, w) := match v.enterSpeech r w with
    | (.error e, v, w) => (.error e, out, v, w)
    | (.ok (), v, w) => v.finishSpeech r out w
  let (out, w) := report result out w
  (result, out, v, w)

end Service

end SpeechHost
