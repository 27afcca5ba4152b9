import SpeechHost.Audio.Sink
import SpeechHost.Engine.Filter
import SpeechHost.Engine.Locale
/-!
# Speech engines

What a host may ask of an engine. Every request may change the engine and the world.

Synthesis has two parts, so that a host may see an engine between them: `accept` takes the request
in and `utter` delivers the audio. An engine that waits for something after the first part is not
`ready` until it has come.
-/

namespace SpeechHost

open SpeechHost.Audio

/-- A request to an engine with state `ε`, answered with an `α`. -/
abbrev Request (ε α : Type) := ε → World → α × ε × World

/-- An engine with state `ε`. -/
class SpeechEngine (ε : Type) where
  name : ε → String
  configure : FilterSpec → Request ε (Except EngineError Unit)
  availability : Locale → Request ε Availability
  setLanguage : Locale → Request ε (Except EngineError Unit)
  language : Request ε (Option Locale)
  setProperty : String → String → Request ε (Except EngineError Unit)
  /-- Takes a text in. -/
  accept : String → ε → World → ε × World
  /-- Whether a text that was taken in can be uttered now. -/
  ready : ε → World → Bool
  /-- Delivers the audio of a text that was taken in. -/
  utter {σ : Type} [AudioSink σ] : String → σ → ε → World → Except EngineError Unit × σ × ε × World
  stop : Request ε (Except EngineError Unit)
  shutdown : ε → World → ε × World

def SpeechEngine.synthesize [SpeechEngine ε] [AudioSink σ] (text : String) (s : σ) (e : ε)
    (w : World) : Except EngineError Unit × σ × ε × World :=
  let (e, w) := accept text e w
  utter text s e w

/-- A way to bring an engine up from an identifier and a configuration text. -/
abbrev Loader (ε : Type) := String → String → World → Except ConfigurationError ε × World

end SpeechHost
