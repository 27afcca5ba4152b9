import SpeechHost.Engine.Error
import SpeechHost.World
/-!
# Audio sinks

A sink receives the audio of an utterance: one announcement, buffers, and an end. It may refuse,
and with every answer it may ask the speaker to stop.
-/

namespace SpeechHost.Audio

/-- What a sink answers. -/
structure Reply where
  outcome : Except EngineError Unit
  stop : Bool

/-- A receiver of audio with state `σ`. -/
class AudioSink (σ : Type) where
  start : Announcement → σ → World → Reply × σ × World
  audio : Storage.Bytes → σ → World → Reply × σ × World
  done : σ → World → σ × World
  error : σ → World → σ × World

end SpeechHost.Audio
