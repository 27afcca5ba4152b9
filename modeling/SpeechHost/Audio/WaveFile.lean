import SpeechHost.Audio.Sink
import SpeechHost.Audio.Wave.Encode
/-!
# A sink that writes a WAVE file

A recording gathers its bytes in blocks and writes a block when more bytes come than it holds.
The sizes in the header are filled in when the recording is closed, which the end of the utterance
does, and also a new recording in its place and the end of the sink.
-/

namespace SpeechHost.Audio

open SpeechHost.Storage

/-- The bytes that a recording holds back before it writes them. -/
def blockBytes : Nat := 8192

/-- A file being written. -/
structure Recording where
  location : Location
  announced : Announcement
  /-- How many bytes are in the file already. -/
  written : Nat
  /-- The bytes behind them. -/
  held : Bytes

/-- A sink that writes the utterance to a file. -/
structure WaveFile where
  path : Path
  recording : Option Recording
  /-- How the next buffer is read; it outlives the recording. -/
  format : Format
  /-- Whether an utterance failed. -/
  failed : Bool

/-- Content with `bytes` put over it from `offset` on. -/
def overlay (content : Bytes) (offset : Nat) (bytes : Bytes) : Bytes :=
  content.take offset ++ List.replicate (offset - content.length) 0 ++ bytes ++
    content.drop (offset + bytes.length)

/-- Puts bytes over the content of a file, if the file is there. -/
def patch (d : Disk) (l : Location) (offset : Nat) (bytes : Bytes) : Disk :=
  match d.find? l with
  | some (.file content) => d.put l (.file (overlay content offset bytes))
  | _ => d

namespace Recording

/-- Adds bytes. Of the bytes gathered, whole blocks are written; the last block is held back even
when it is full. -/
def push (r : Recording) (bytes : Bytes) (d : Disk) : Recording × Disk :=
  let held := r.held ++ bytes
  let ready := (held.length - 1) / blockBytes * blockBytes
  if ready == 0 then ({ r with held }, d)
  else
    ({ r with written := r.written + ready, held := held.drop ready },
      patch d r.location r.written (held.take ready))

/-- Writes what is held back and fills in the sizes. -/
def close (r : Recording) (d : Disk) : Disk :=
  let d := patch d r.location r.written r.held
  let total := r.written + r.held.length
  let size := total - (Wave.openHeader r.announced).length
  let d := patch d r.location Wave.fileSizeAt (littleEndian 4 (total - 8))
  patch d r.location (Wave.dataSizeAt r.announced) (littleEndian 4 size)

end Recording

namespace WaveFile

def new (path : Path) : WaveFile := ⟨path, none, .pcm16, false⟩

def close (f : WaveFile) (d : Disk) : WaveFile × Disk :=
  match f.recording with
  | none => (f, d)
  | some r => ({ f with recording := none }, r.close d)

/-- Opens the file anew and begins a recording in place of the one before. -/
def start (f : WaveFile) (a : Announcement) (d : Disk) :
    Except EngineError Unit × WaveFile × Disk :=
  match d.writeFileAt f.path [] with
  | .error fault => (.error (.failed (.notWritten fault)), f, d)
  | .ok (location, d) =>
    let (f, d) := f.close d
    let (r, d) := (Recording.mk location a 0 []).push (Wave.openHeader a) d
    (.ok (), { f with recording := some r, format := a.format }, d)

/-- A buffer as it is recorded, sample by sample. Half a sample at its end is left out. -/
def recoded (format : Format) (buffer : Bytes) : Bytes :=
  match format with
  | .pcm8 => buffer.map fun b => sampleByte (ofSampleByte b)
  | .pcm16 => (Wave.samplesOf buffer).flatMap sampleBytes

def audio (f : WaveFile) (buffer : Bytes) (d : Disk) : Except EngineError Unit × WaveFile × Disk :=
  match f.recording with
  | none => (.error (.failed .notStarted), f, d)
  | some r =>
    let (r, d) := r.push (recoded f.format buffer) d
    (.ok (), { f with recording := some r }, d)

instance : AudioSink WaveFile where
  start a f w :=
    let (outcome, f, disk) := f.start a w.disk
    (⟨outcome, false⟩, f, { w with disk })
  audio buffer f w :=
    let (outcome, f, disk) := f.audio buffer w.disk
    (⟨outcome, false⟩, f, { w with disk })
  done f w :=
    let (f, disk) := f.close w.disk
    (f, { w with disk })
  error f w := ({ f with failed := true }, w)

end WaveFile

end SpeechHost.Audio
