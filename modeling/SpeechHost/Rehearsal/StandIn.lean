import SpeechHost.Audio.Sample
import SpeechHost.Audio.Wave.Decode
/-!
# Programs that stand in for engines

A stand-in delivers the same audio for every text, by one of two ways, and may report failure.
-/

namespace SpeechHost.Rehearsal

open SpeechHost.Audio SpeechHost.Storage

/-- How a stand-in delivers its audio. -/
inductive Delivery where
  /-- Into the file that its second argument names. -/
  | toFile
  /-- By printing it. -/
  | printed
  deriving DecidableEq, Repr

/-- A program that stands in for an engine. -/
structure StandIn where
  delivery : Delivery
  audio : Option Bytes
  errors : Bytes
  /-- Whether it ends of its own accord and reports success. -/
  success : Bool

/-- What comes of starting a stand-in. It is not started with an argument that is too long. -/
def StandIn.run (s : StandIn) (arguments : List String) : Except Fault Run :=
  if arguments.any (maxArgumentBytes < ·.utf8ByteSize) then .error .argumentsTooLong
  else
    let written := match s.delivery, s.audio, arguments[1]? with
      | .toFile, some audio, some path => [(path, audio)]
      | _, _, _ => []
    let output := if s.delivery == .printed then s.audio.getD [] else []
    .ok ⟨output, written, s.errors, .ended s.success⟩

/-- WAVE data with the plain header, whatever the number of channels. -/
def plainWave (rate channels bits : Nat) (data : Bytes) : Bytes :=
  let frame := channels * (bits / 8)
  Wave.tag "RIFF" ++ littleEndian 4 (36 + data.length) ++ Wave.tag "WAVE" ++
    Wave.tag "fmt " ++ littleEndian 4 16 ++ littleEndian 2 1 ++ littleEndian 2 channels ++
    littleEndian 4 rate ++ littleEndian 4 (rate * frame) ++ littleEndian 2 frame ++
    littleEndian 2 bits ++ Wave.tag "data" ++ littleEndian 4 data.length ++ data

end SpeechHost.Rehearsal
