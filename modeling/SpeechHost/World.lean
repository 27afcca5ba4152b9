import SpeechHost.Audio.Format
import SpeechHost.Audio.LowShelf
import SpeechHost.Storage.Disk
/-!
# The world of a host

What a host and its partners share: the file tree, the list of places where programs are looked
for, and a journal of everything that was asked of an engine, a sink or a program, in order.
-/

namespace SpeechHost

open SpeechHost.Audio SpeechHost.Storage

inductive EngineCall where
  | configure (enabled : Bool) (shelf : Shelf)
  | availability (language country variant : String)
  | setLanguage (language country variant : String)
  | language
  | setProperty (name value : String)
  | synthesize (text : String)
  | synthesizeEnd
  | stop
  | shutdown

inductive SinkCall where
  | start (a : Announcement)
  | audio (buffer : Bytes)
  | done
  | error

inductive Note where
  /-- An engine was asked for. -/
  | loaded (identifier config : String)
  | engine (call : EngineCall)
  | sink (call : SinkCall)
  /-- A program was started. -/
  | ran (arguments : List String)

structure World where
  disk : Disk
  /-- Where programs are looked for, places separated by colons. -/
  searchPath : Option String
  journal : List Note

def World.note (w : World) (n : Note) : World :=
  { w with journal := w.journal ++ [n] }

end SpeechHost
