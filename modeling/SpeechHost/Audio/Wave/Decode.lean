import SpeechHost.Audio.Sample
/-!
# Reading WAVE data

A WAVE stream is a header, chunks that may be skipped, a format chunk and a data chunk. The header
is read first and gives a `Stream`; its samples are read afterwards, as 16-bit or as 8-bit numbers.
A read is a function on the bytes still to come and gives those behind it.
-/

namespace SpeechHost.Audio.Wave

open SpeechHost.Storage

/-- What makes a stream unreadable. -/
inductive Defect where
  | short
  | illFormed (rule : String)
  | unsupported
  /-- Whole numbers were asked for and the samples are fractions, or the other way round. -/
  | otherSampleKind
  /-- The samples do not fit into what was asked for. -/
  | tooWide
  deriving DecidableEq, Repr

def Defect.message : Defect → String
  | .short => "Failed to read enough bytes."
  | .illFormed rule => s!"Ill-formed WAVE file: {rule}"
  | .unsupported => "The wave format of the file is not supported."
  | .otherSampleKind => "The sample format differs from the destination format."
  | .tooWide => "The sample has more bits than the destination type."

inductive SampleKind where
  | whole
  | fraction
  deriving DecidableEq, Repr

/-- What the format chunk says. A sample of `bits` bits stands in a container of `container`
bytes. -/
structure Layout where
  channels : Nat
  rate : Nat
  bits : Nat
  container : Nat
  kind : SampleKind
  deriving DecidableEq, Repr

/-- A stream whose header has been read: the number of samples, and the bytes from the first one
on. -/
structure Stream where
  layout : Layout
  count : Nat
  rest : Bytes

def take (n : Nat) (bytes : Bytes) : Except Defect (Bytes × Bytes) :=
  let head := bytes.take n
  if head.length < n then .error .short else .ok (head, bytes.drop n)

def number (n : Nat) (bytes : Bytes) : Except Defect (Nat × Bytes) := do
  let (field, rest) ← take n bytes
  return (ofLittleEndian field, rest)

/-- Refuses a stream unless a rule holds. -/
def require (holds : Bool) (rule : String) : Except Defect Unit :=
  if holds then .ok () else .error (.illFormed rule)

def tag (s : String) : Bytes :=
  s.toList.map fun c => UInt8.ofNat c.toNat

/-- The identifier of whole-number samples in an extended format chunk. -/
def wholeGuid : Bytes :=
  [1, 0, 0, 0, 0, 0, 16, 0, 128, 0, 0, 170, 0, 56, 155, 113]

/-- The identifier of fractional samples in an extended format chunk. -/
def fractionGuid : Bytes :=
  3 :: wholeGuid.tail

/-- The rest of a format chunk of plain samples. -/
def plainTail (size : Nat) (l : Layout) (bytes : Bytes) : Except Defect (Layout × Bytes) := do
  require (size == 16 || size == 18 || size == 40) "unexpected fmt chunk size"
  if size == 16 then return (l, bytes)
  let (_, bytes) ← take 2 bytes
  require (l.bits == 8 || l.bits == 16 || l.bits == 24) "bits per sample is not 8 or 16"
  if size == 18 then return (l, bytes)
  let (_, bytes) ← take 22 bytes
  return (l, bytes)

/-- The rest of a format chunk of fractional samples. -/
def fractionTail (size : Nat) (l : Layout) (bytes : Bytes) : Except Defect (Layout × Bytes) := do
  require (size == 16 || size == 18) "unexpected fmt chunk size"
  let (extra, bytes) ← if size == 18 then number 2 bytes else .ok (0, bytes)
  require (extra == 0) "unexpected WAVEFORMATEX size"
  require (l.bits == 32) "bits per sample is not 32"
  return ({ l with kind := .fraction }, bytes)

/-- The rest of an extended format chunk. -/
def extendedTail (size : Nat) (l : Layout) (bytes : Bytes) : Except Defect (Layout × Bytes) := do
  require (40 ≤ size) "unexpected fmt chunk size"
  let (extra, bytes) ← number 2 bytes
  require (extra == 22) "unexpected WAVEFORMATEXTENSIBLE size"
  let (valid, bytes) ← number 2 bytes
  let (_, bytes) ← take 4 bytes
  let (guid, bytes) ← take 16 bytes
  let l := if 0 < valid then { l with bits := valid } else l
  if guid == wholeGuid then return (l, bytes)
  if guid == fractionGuid then return ({ l with kind := .fraction }, bytes)
  throw .unsupported

/-- What the numbers of a format chunk say, if they agree with each other. -/
def layout (channels rate perSecond frame bits : Nat) : Except Defect Layout := do
  require (channels != 0) "file contains zero channels"
  let container := frame / channels
  require (bits ≤ 8 * container && 8 * container < 0x10000) "sample bits exceeds size of sample"
  require (perSecond == frame * rate) "inconsistent fmt chunk"
  require (bits % 8 == 0) "bits per sample is not a multiple of 8"
  require (bits != 0) "bits per sample is 0"
  return ⟨channels, rate, bits, container, .whole⟩

/-- The rest of a format chunk, by the coding of the samples. -/
def formatTail (coding size : Nat) (l : Layout) (bytes : Bytes) : Except Defect (Layout × Bytes) :=
  match coding with
  | 1 => plainTail size l bytes
  | 3 => fractionTail size l bytes
  | 0xFFFE => extendedTail size l bytes
  | _ => throw .unsupported

/-- The format chunk, `size` bytes long by its own account. -/
def format (size : Nat) (bytes : Bytes) : Except Defect (Layout × Bytes) := do
  require (16 ≤ size) "invalid fmt chunk size"
  let (coding, bytes) ← number 2 bytes
  let (channels, bytes) ← number 2 bytes
  let (rate, bytes) ← number 4 bytes
  let (perSecond, bytes) ← number 4 bytes
  let (frame, bytes) ← number 2 bytes
  let (bits, bytes) ← number 2 bytes
  let l ← layout channels rate perSecond frame bits
  formatTail coding size l bytes

/-- The chunks up to the samples. Each chunk takes bytes away, so `fuel` is never short when it is
the number of bytes. -/
def chunks (layout : Option Layout) (bytes : Bytes) : (fuel : Nat) → Except Defect Stream
  | 0 => .error .short
  | fuel + 1 => do
    let (name, bytes) ← take 4 bytes
    let (size, bytes) ← number 4 bytes
    if name == tag "fmt " then
      let (l, bytes) ← format size bytes
      chunks (some l) bytes fuel
    else if name == tag "fact" then
      let (_, bytes) ← take 4 bytes
      chunks layout bytes fuel
    else if name == tag "data" then
      match layout with
      | none => throw (.illFormed "missing fmt chunk")
      | some l =>
        require (size % l.container == 0) "data chunk length is not a multiple of sample size"
        require (size / l.container % l.channels == 0) "invalid data chunk length"
        return ⟨l, size / l.container, bytes⟩
    else
      let (_, bytes) ← take size bytes
      chunks layout bytes fuel

/-- Reads the header of a stream. -/
def open? (bytes : Bytes) : Except Defect Stream := do
  let (name, bytes) ← take 4 bytes
  require (name == tag "RIFF") "no RIFF tag found"
  let (_, bytes) ← take 4 bytes
  let (name, bytes) ← take 4 bytes
  require (name == tag "WAVE") "no WAVE tag found"
  chunks none bytes (bytes.length + 1)

/-- Refuses samples that are not whole numbers in containers of `width` bytes. -/
def Stream.checkWidth (s : Stream) (width : Nat) : Except Defect Unit :=
  if s.layout.kind != .whole then .error .otherSampleKind
  else if s.layout.container == width then .ok ()
  else if width < s.layout.container then .error .tooWide
  else .error .unsupported

/-- The bytes of all samples, which stand in containers of `width` bytes. A stream without samples
is as good as any. -/
def Stream.payload (s : Stream) (width : Nat) : Except Defect Bytes := do
  if s.count == 0 then return []
  s.checkWidth width
  return (← take (s.count * width) s.rest).1

/-- Cuts bytes into pairs, each one a sample. -/
def samplesOf : Bytes → List Int16
  | a :: b :: rest => ofSampleBytes [a, b] :: samplesOf rest
  | _ => []

def Stream.samples (s : Stream) : Except Defect (List Int16) := do
  return samplesOf (← s.payload 2)

def Stream.shortSamples (s : Stream) : Except Defect (List Int8) := do
  return (← s.payload 1).map ofSampleByte

end SpeechHost.Audio.Wave
