import SpeechHost.Audio.Sink
/-!
# A sink that notes what it hears

It may refuse the announcement or one of the buffers, and it may ask for a stop with its answer.
-/

namespace SpeechHost.Rehearsal

open SpeechHost.Audio

/-- What a probe does, and how many buffers it has heard. -/
structure Probe where
  /-- Asks for a stop with the answer to the announcement. -/
  stopAtStart : Bool
  /-- Asks for a stop with the answer to this buffer, counted from 0. -/
  stopAt : Option Nat
  /-- Refuses the announcement. -/
  failStart : Option EngineError
  /-- Refuses this buffer. -/
  failAt : Option Nat
  heard : Nat

def Probe.quiet : Probe := ⟨false, none, none, none, 0⟩

instance : AudioSink Probe where
  start a p w :=
    let outcome := match p.failStart with
      | some e => .error e
      | none => .ok ()
    (⟨outcome, p.stopAtStart⟩, p, w.note (.sink (.start a)))
  audio buffer p w :=
    let n := p.heard
    let outcome :=
      if p.failAt == some n then .error (.failed (.reported s!"sink refused buffer {n}"))
      else .ok ()
    (⟨outcome, p.stopAt == some n⟩, { p with heard := n + 1 }, w.note (.sink (.audio buffer)))
  done p w := (p, w.note (.sink .done))
  error p w := (p, w.note (.sink .error))

end SpeechHost.Rehearsal
