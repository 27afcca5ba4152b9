import SpeechHost.Storage.Disk
/-!
# Where an archive comes from
-/

namespace SpeechHost.Install

open SpeechHost.Storage

/-- A source of an archive, which may be opened many times. -/
structure Source where
  /-- What messages call it. -/
  description : String
  /-- The content at the opening after `n` others. -/
  read : (n : Nat) → Disk → Except Fault Bytes

def Source.file (p : Path) : Source :=
  ⟨p.toString, fun _ d => d.read p⟩

def Source.bundled (bytes : Bytes) : Source :=
  ⟨s!"bundled archive ({bytes.length} bytes)", fun _ _ => .ok bytes⟩

end SpeechHost.Install
