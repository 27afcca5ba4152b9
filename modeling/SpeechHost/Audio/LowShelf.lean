/-!
# The low-shelf filter

A second-order filter that weakens what lies below a transition frequency and multiplies the rest
by a gain, over 16-bit samples. Its memory is two samples in and two out; what it gives back is
cut off at the ends of the 16-bit range, what it remembers is not.
-/

namespace SpeechHost.Audio

/-- What a low shelf is to do. -/
structure Shelf where
  gain : Float32
  attenuation : Float32
  transition : Float32
  slope : Float32

/-- The weights of the filter: three of the input, two of what came out. -/
structure Weights where
  now : Float
  past : Float
  older : Float
  pastOut : Float
  olderOut : Float

/-- The last two samples in and out. -/
structure Recent where
  past : Float
  older : Float
  pastOut : Float
  olderOut : Float

structure LowShelf where
  weights : Weights
  recent : Recent

def Recent.silence : Recent := ⟨0, 0, 0, 0⟩

def halfTurn : Float := 3.14159265358979323846

def Weights.ofShelf (s : Shelf) (rate : Nat) : Weights :=
  let amp := (10.0 : Float) ^ (s.attenuation.toFloat / 40.0)
  let w := 2.0 * halfTurn * (s.transition.toFloat / rate.toFloat)
  let sinw := w.sin
  let cosw := w.cos
  let beta := amp.sqrt / s.slope.toFloat
  let b0 := amp * ((amp + 1.0) - ((amp - 1.0) * cosw) + (beta * sinw))
  let b1 := 2.0 * amp * ((amp - 1.0) - ((amp + 1.0) * cosw))
  let b2 := amp * ((amp + 1.0) - ((amp - 1.0) * cosw) - (beta * sinw))
  let a0 := (amp + 1.0) + ((amp - 1.0) * cosw) + (beta * sinw)
  let a1 := 2.0 * ((amp - 1.0) + ((amp + 1.0) * cosw))
  let a2 := -((amp + 1.0) + ((amp - 1.0) * cosw) - (beta * sinw))
  let gain := s.gain.toFloat
  ⟨gain * b0 / a0, gain * b1 / a0, gain * b2 / a0, a1 / a0, a2 / a0⟩

/-- The filter of a shelf. There is none for a slope or a sample rate of zero. -/
def Shelf.filter? (s : Shelf) (rate : Nat) : Option LowShelf :=
  if s.slope == 0 || rate == 0 then none else some ⟨.ofShelf s rate, .silence⟩

namespace LowShelf

def reset (f : LowShelf) : LowShelf :=
  { f with recent := .silence }

/-- Cuts a number off at the ends of the 16-bit range and drops its fraction. No number gives
silence. -/
def saturate (x : Float) : Int16 :=
  if x < -32768.0 then -32768
  else if x > 32767.0 then 32767
  else x.toInt16

/-- The unlimited answer to one sample, and the filter after it. -/
def next (f : LowShelf) (x : Float) : Float × LowShelf :=
  let w := f.weights
  let r := f.recent
  let out := (w.now * x) + (w.past * r.past) + (w.older * r.older) + (w.pastOut * r.pastOut) +
    (w.olderOut * r.olderOut)
  (out, { f with recent := ⟨x, r.past, out, r.pastOut⟩ })

def process (f : LowShelf) : List Int16 → List Int16 × LowShelf
  | [] => ([], f)
  | x :: xs =>
    let (out, f) := f.next x.toFloat
    let (rest, f) := f.process xs
    (saturate out :: rest, f)

end LowShelf

end SpeechHost.Audio
