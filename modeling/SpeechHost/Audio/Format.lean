/-!
# Audio formats

What a sink is told before the first buffer: the sample rate, the width of a sample and the
number of channels. Samples wider than a byte are little-endian and signed; 8-bit samples are
unsigned.
-/

namespace SpeechHost.Audio

/-- How one sample is coded. -/
inductive Format where
  | pcm8
  | pcm16
  deriving DecidableEq, Repr

def Format.width : Format → Nat
  | .pcm8 => 1
  | .pcm16 => 2

/-- What is said about the audio before it comes. -/
structure Announcement where
  rate : Nat
  format : Format
  channels : Nat
  deriving DecidableEq, Repr

end SpeechHost.Audio
