import SpeechHost.Audio.LowShelf
import SpeechHost.Text.Blank
import SpeechHost.Text.Lowercase
/-!
# The post-filter of an engine

Pico voices sound muffled and quiet on small speakers, so their engine is given a low shelf and a
gain. Every other engine is told that there is no filter.
-/

namespace SpeechHost

open SpeechHost.Audio SpeechHost.Text

/-- A filter that is on or off. -/
structure FilterSpec where
  enabled : Bool
  shelf : Shelf

def picoMarker : String := "pico"

def picoShelf : Shelf := ⟨5, -18, 1100, 1⟩

/-- Whether a name is that of a Pico engine, in capitals or not. -/
def namesPico (s : String) : Bool :=
  contains (lowercase s) picoMarker

def FilterSpec.forEngine (identifier : String) : FilterSpec :=
  ⟨namesPico identifier, picoShelf⟩

end SpeechHost
