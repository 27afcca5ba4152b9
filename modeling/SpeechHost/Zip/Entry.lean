import SpeechHost.Storage.Path
import SpeechHost.Zip.Directory
import SpeechHost.Zip.Inflate
/-!
# The entries of an archive

What an entry is by its name, and how its data is read. Everything about the data stands in the
directory; the header in front of it only says where it begins.
-/

namespace SpeechHost.Zip

open SpeechHost.Storage

def headerMark : Bytes := [0x50, 0x4B, 3, 4]

/-- The size of the header, without what varies. -/
def headerSize : Nat := 30

def storedMethod : Nat := 0

def deflatedMethod : Nat := 8

namespace Entry

def isDirectory (e : Entry) : Bool :=
  e.name.toList.getLast? == some '/' || e.name.toList.getLast? == some '\\'

/-- Whether the way that components name never leaves the directory that it starts in, `depth` steps
below it. -/
def staysBelow : (depth : Nat) → List Component → Bool
  | _, [] => true
  | _, .top :: _ => false
  | depth, .here :: cs => staysBelow depth cs
  | 0, .up :: _ => false
  | depth + 1, .up :: cs => staysBelow depth cs
  | depth, .name _ :: cs => staysBelow (depth + 1) cs

/-- The path of an entry, unless it could lead out of the directory that it is put in. -/
def path? (e : Entry) : Option Path :=
  let p := Path.ofString e.name
  if !e.name.toList.contains '\x00' && staysBelow 0 p.components then some p else none

def locate (e : Entry) (bytes : Bytes) : Except ArchiveError Bytes := do
  if e.encrypted then throw (.unsupported "Password required to decrypt file")
  let header := part bytes e.offset headerSize
  if header.length < headerSize then throw .io
  if !headerMark.isPrefixOf header then throw (.invalid "Invalid local file header")
  if e.method != storedMethod && e.method != deflatedMethod then
    throw (.unsupported "Compression method not supported")
  if e.locked then throw .invalidPassword
  let start := e.offset + headerSize + fieldAt header 26 2 + fieldAt header 28 2
  return part bytes start e.compressed

def content (e : Entry) (data : Bytes) : Except DataError Bytes := do
  let content ← if e.method == storedMethod then .ok data else inflate data
  if (crc32 content).toNat != e.checksum then throw .checksum
  return content

end Entry

end SpeechHost.Zip
