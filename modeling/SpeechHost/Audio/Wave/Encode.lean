import SpeechHost.Audio.Format
import SpeechHost.Audio.Wave.Decode
/-!
# Writing WAVE data

The header in front of the samples. Up to two channels take the plain format chunk; more take the
extended one, which also says where the speakers stand. The two sizes in a header are known only
when all samples are there, so they can be filled in afterwards.
-/

namespace SpeechHost.Audio.Wave

open SpeechHost.Storage

/-- The most speakers that have a place. -/
def maxSpeakers : Nat := 18

/-- What every format chunk begins with. -/
def formatFields (a : Announcement) (coding : Nat) : Bytes :=
  let width := a.format.width
  littleEndian 2 coding ++ littleEndian 2 a.channels ++ littleEndian 4 a.rate ++
    littleEndian 4 (a.rate * width * a.channels) ++ littleEndian 2 (width * a.channels) ++
    littleEndian 2 (8 * width)

/-- What an extended format chunk has behind that. -/
def formatExtension (a : Announcement) : Bytes :=
  littleEndian 2 22 ++ littleEndian 2 (8 * a.format.width) ++
    littleEndian 4 (Nat.pow 2 (min a.channels maxSpeakers) - 1) ++ wholeGuid

/-- What a format chunk says. -/
def formatBody (a : Announcement) : Bytes :=
  if a.channels ≤ 2 then formatFields a 1 else formatFields a 0xFFFE ++ formatExtension a

def formatChunk (a : Announcement) : Bytes :=
  tag "fmt " ++ littleEndian 4 (formatBody a).length ++ formatBody a

/-- A header with these sizes of the file and of the samples. -/
def headerWith (a : Announcement) (fileSize dataSize : Nat) : Bytes :=
  tag "RIFF" ++ littleEndian 4 fileSize ++ tag "WAVE" ++ formatChunk a ++ tag "data" ++
    littleEndian 4 dataSize

/-- The header of a file with `size` bytes of samples. -/
def header (a : Announcement) (size : Nat) : Bytes :=
  headerWith a (4 + (formatChunk a).length + 8 + size) size

def fileSizeAt : Nat := 4

def dataSizeAt (a : Announcement) : Nat :=
  12 + (formatChunk a).length + 4

/-- The header as it is written before the sizes are known. -/
def openHeader (a : Announcement) : Bytes :=
  headerWith a 0 0

end SpeechHost.Audio.Wave
