import SpeechHost.Audio.Sink
/-!
# Sinks that are listened to

A listener stands in front of a sink. It passes every call on and remembers it, together with what the
sink answered.
-/

namespace SpeechHost.Audio

/-- A call to a sink, and its answer. The end of an utterance and its failure are only told, so nothing
is answered to them. -/
structure Hearing where
  call : SinkCall
  reply : Reply

def Reply.silent : Reply := ⟨.ok (), false⟩

def Hearing.done : Hearing := ⟨.done, .silent⟩

def Hearing.error : Hearing := ⟨.error, .silent⟩

/-- A sink with a list of what it heard. -/
structure Listener (σ : Type) where
  out : σ
  heard : List Hearing

namespace Listener

variable {σ α κ : Type} [AudioSink σ]

def new (out : σ) : Listener σ := ⟨out, []⟩

def calls (l : Listener σ) : List SinkCall := l.heard.map (·.call)

instance : AudioSink (Listener σ) where
  start a l w :=
    let (reply, out, w) := AudioSink.start a l.out w
    (reply, ⟨out, l.heard ++ [⟨.start a, reply⟩]⟩, w)
  audio buffer l w :=
    let (reply, out, w) := AudioSink.audio buffer l.out w
    (reply, ⟨out, l.heard ++ [⟨.audio buffer, reply⟩]⟩, w)
  done l w :=
    let (out, w) := AudioSink.done l.out w
    (⟨out, l.heard ++ [.done]⟩, w)
  error l w :=
    let (out, w) := AudioSink.error l.out w
    (⟨out, l.heard ++ [.error]⟩, w)

/-- What was done with a sink, as it is with a listener in front that heard so much. -/
def overhear (heard : List Hearing) (d : α × σ × κ) : α × Listener σ × κ :=
  (d.1, ⟨d.2.1, heard⟩, d.2.2)

end Listener

end SpeechHost.Audio
