import SpeechHost.Text.Utf8
import SpeechHost.Zip.Entry
/-!
# Archives of stored files

The bytes of an archive whose files are stored as they are, one behind the other, as a tool for small
archives would write them.
-/

namespace SpeechHost.Zip

open SpeechHost.Storage SpeechHost.Text

/-- A file that is stored as it is. -/
structure StoredFile where
  name : String
  content : Bytes
  /-- The checksum that is written, right or wrong. -/
  checksum : UInt32

namespace StoredFile

/-- A file with its checksum. -/
def ofContent (name : String) (content : Bytes) : StoredFile :=
  ⟨name, content, crc32 content⟩

/-- What stands in the header of a file and in the directory alike. -/
def fields (f : StoredFile) : Bytes :=
  littleEndian 2 20 ++ littleEndian 2 0 ++ littleEndian 2 storedMethod ++ littleEndian 4 0x210000 ++
    littleEndian 4 f.checksum.toNat ++ littleEndian 4 f.content.length ++
    littleEndian 4 f.content.length ++ littleEndian 2 (Utf8.encode f.name).length ++ littleEndian 2 0

def body (f : StoredFile) : Bytes :=
  headerMark ++ f.fields ++ Utf8.encode f.name ++ f.content

/-- The entry of a file that begins at `offset`. -/
def entry (f : StoredFile) (offset : Nat) : Bytes :=
  entryMark ++ littleEndian 2 20 ++ f.fields ++ littleEndian 10 0 ++ littleEndian 4 offset ++
    Utf8.encode f.name

/-- The entries of files, the first of which begins at `offset`. -/
def directory (offset : Nat) : List StoredFile → Bytes
  | [] => []
  | f :: fs => f.entry offset ++ directory (offset + f.body.length) fs

def archive (fs : List StoredFile) : Bytes :=
  let bodies := fs.flatMap body
  let directory := directory 0 fs
  bodies ++ directory ++ endMark ++ littleEndian 4 0 ++ littleEndian 2 fs.length ++
    littleEndian 2 fs.length ++ littleEndian 4 directory.length ++ littleEndian 4 bodies.length ++
    littleEndian 2 0

end StoredFile

end SpeechHost.Zip
