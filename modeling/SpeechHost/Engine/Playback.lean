import SpeechHost.Audio.Sink
import SpeechHost.Engine.Filter
import SpeechHost.Storage.Blocks
/-!
# Playing what a program printed

The part that every engine with a program of its own has: a filter, a stop flag, and the way from
WAVE data to buffers in a sink. The sink hears nothing until every sample has been read.
-/

namespace SpeechHost

open SpeechHost.Audio SpeechHost.Storage

/-- The filter that is set, and whether an end of the audio was asked for. -/
structure Playback where
  shelf : Option Shelf
  stopping : Bool

def bufferBytes : Nat := 2048

structure Track where
  announcement : Announcement
  bytes : Bytes

namespace Playback

def fresh : Playback := ⟨none, false⟩

/-- Sets the filter. A shelf without slope is refused. -/
def configure (f : FilterSpec) (p : Playback) : Except EngineError Unit × Playback :=
  if !f.enabled then (.ok (), { p with shelf := none })
  else if f.shelf.slope == 0 then (.error (.failed .flatShelf), p)
  else (.ok (), { p with shelf := some f.shelf })

def requestStop (p : Playback) : Playback := { p with stopping := true }

/-- A new utterance; an earlier stop does not count for it. -/
def begin (p : Playback) : Playback := { p with stopping := false }

def filtered (p : Playback) (rate : Nat) (samples : List Int16) : List Int16 :=
  match p.shelf.bind (·.filter? rate) with
  | none => samples
  | some f => (f.process samples).1

/-- Reads WAVE data into a track. Only 16-bit samples pass the filter. -/
def track (p : Playback) (wave : Bytes) : Except Failure Track := do
  let s ← (Wave.open? wave).mapError .undecodable
  let l := s.layout
  match l.bits with
  | 16 =>
    let samples ← s.samples.mapError .unreadable
    return ⟨⟨l.rate, .pcm16, l.channels⟩, (p.filtered l.rate samples).flatMap sampleBytes⟩
  | 8 =>
    let samples ← s.shortSamples.mapError .unreadable
    return ⟨⟨l.rate, .pcm8, l.channels⟩, samples.map sampleByte⟩
  | bits => throw (.unsupportedWidth bits)

variable {σ : Type} [AudioSink σ]

/-- Notes that a sink asked for a stop. -/
def heed (p : Playback) (r : Reply) : Playback :=
  if r.stop then p.requestStop else p

/-- Hands buffers to a sink until they end, a stop is asked for, or the sink refuses one. Only a
refusal keeps the sink from hearing that the utterance is over. -/
def deliver (p : Playback) (s : σ) (w : World) :
    List Bytes → Except EngineError Unit × σ × Playback × World
  | [] =>
    let (s, w) := AudioSink.done s w
    (.ok (), s, p, w)
  | b :: bs =>
    if p.stopping then
      let (s, w) := AudioSink.done s w
      (.ok (), s, p, w)
    else
      let (reply, s, w) := AudioSink.audio b s w
      let p := p.heed reply
      match reply.outcome with
      | .error e => (.error e, s, p, w)
      | .ok () => deliver p s w bs

def play (p : Playback) (t : Track) (s : σ) (w : World) :
    Except EngineError Unit × σ × Playback × World :=
  let (reply, s, w) := AudioSink.start t.announcement s w
  let p := p.heed reply
  match reply.outcome with
  | .error e => (.error e, s, p, w)
  | .ok () => p.deliver s w (blocks bufferBytes t.bytes)

def stream (p : Playback) (wave : Bytes) (s : σ) (w : World) :
    Except EngineError Unit × σ × Playback × World :=
  match p.track wave with
  | .error f => (.error (.failed f), s, p, w)
  | .ok t => p.play t s w

end Playback

end SpeechHost
