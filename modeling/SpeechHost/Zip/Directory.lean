import SpeechHost.Text.CodePage437
import SpeechHost.Text.Utf8
import SpeechHost.Zip.Crc32
import SpeechHost.Zip.EndRecord
/-!
# The directory of an archive

Each entry of the directory has a fixed part, a name, extra fields and a comment. Extra fields may
replace what the fixed part says; fields that are cut short end the list, and fields that are wrong
make the whole directory unreadable.
-/

namespace SpeechHost.Zip

open SpeechHost.Storage SpeechHost.Text

structure Entry where
  name : String
  rawName : Bytes
  comment : String
  encrypted : Bool
  method : Nat
  checksum : Nat
  compressed : Nat
  uncompressed : Nat
  /-- Where the entry begins. -/
  offset : Nat
  /-- Whether a field says how the entry is locked. -/
  locked : Bool

/-- What comes of a field. -/
inductive FieldResult where
  /-- The entry with what the field says, and the fields behind it. -/
  | next (e : Entry) (rest : Bytes)
  /-- The fields end within this one. -/
  | cut (e : Entry)
  | wrong

/-- Takes `n` bytes of fields, or ends there. -/
def Entry.taking (e : Entry) (n : Nat) (fields : Bytes) (use : Bytes → Bytes → FieldResult) :
    FieldResult :=
  if fields.length < n then .cut e else use (fields.take n) (fields.drop n)

/-- The field with sizes and offset of eight bytes. Long fields give all three, others those that
are written elsewhere. -/
def Entry.longField (e : Entry) (length : Nat) (fields : Bytes) : FieldResult :=
  let all := 24 ≤ length
  let wants (n : Nat) := all || n == elsewhere4
  let width (n : Nat) := if wants n then 8 else 0
  let used := width e.uncompressed + width e.compressed + width e.offset
  let set (old : Nat) (field : Bytes) := if wants old then ofLittleEndian field else old
  e.taking (width e.uncompressed) fields fun a fields =>
    let e' := { e with uncompressed := set e.uncompressed a }
    e'.taking (width e.compressed) fields fun b fields =>
      let e' := { e' with compressed := set e.compressed b }
      e'.taking (width e.offset) fields fun c fields =>
        let e' := { e' with offset := set e.offset c }
        if length < used then .wrong
        else e'.taking (length - used) fields fun _ rest => .next e' rest

def Entry.timesField (e : Entry) (length : Nat) (fields : Bytes) : FieldResult :=
  if length != 32 then .wrong
  else e.taking 6 fields fun block fields =>
    if fieldAt block 4 2 != 1 then .wrong
    else e.taking 2 fields fun block fields =>
      if ofLittleEndian block != 24 then .wrong
      else e.taking 24 fields fun _ rest => .next e rest

/-- The field that says how an entry is locked, and how it is compressed below the lock. -/
def Entry.lockField (e : Entry) (length : Nat) (fields : Bytes) : FieldResult :=
  if length != 7 then .wrong
  else e.taking 7 fields fun block rest =>
    let version := fieldAt block 0 2
    let strength := fieldAt block 4 1
    if fieldAt block 2 2 != 0x4541 || (version != 1 && version != 2) ||
        strength < 1 || 3 < strength then .wrong
    else .next { e with locked := true, method := fieldAt block 5 2 } rest

def maxShortTimes : Nat := 3

/-- The field with up to three times of four bytes. Those that are not asked for are left where they
are. -/
def Entry.shortTimesField (e : Entry) (length : Nat) (fields : Bytes) : FieldResult :=
  e.taking 1 fields fun block fields =>
    let flags := ofLittleEndian block
    let has (n : Nat) := flags.testBit n
    let set := (List.range maxShortTimes).countP has
    if flags >>> maxShortTimes != 0 || (length != 5 && length != 1 + 4 * set) then .wrong
    else
      let times := (if has 0 || length == 5 then 1 else 0) +
        (if has 1 && 5 < length then 1 else 0) + (if has 2 && 5 < length then 1 else 0)
      e.taking (4 * times) fields fun _ rest => .next e rest

/-- The field that gives a text once more, with the checksum of the text that it replaces. -/
def Entry.textField (e : Entry) (old : Bytes) (length : Nat) (fields : Bytes)
    (use : Bytes → String → Entry) : FieldResult :=
  e.taking 5 fields fun block fields =>
    if length < 5 then .wrong
    else e.taking (length - 5) fields fun content rest =>
      if fieldAt block 1 4 != (crc32 old).toNat then .wrong
      else match Utf8.decode? content with
        | none => .wrong
        | some text => .next (use content text) rest

def Entry.field (e : Entry) (fields : Bytes) : FieldResult :=
  e.taking 4 fields fun block fields =>
    let length := fieldAt block 2 2
    match fieldAt block 0 2 with
    | 0x0001 => e.longField length fields
    | 0x000A => e.timesField length fields
    | 0x9901 => e.lockField length fields
    | 0x5455 => e.shortTimesField length fields
    | 0x6375 => e.textField (Utf8.encode e.comment) length fields fun _ comment =>
        { e with comment }
    | 0x7075 => e.textField e.rawName length fields fun rawName name => { e with rawName, name }
    | _ => e.taking length fields fun _ rest => .next e rest

/-- Reads the extra fields. Every field takes four bytes at least, so `fuel` is never short when it
is the number of bytes. -/
def Entry.fields (e : Entry) : (fuel : Nat) → Bytes → Option Entry
  | 0, _ => some e
  | fuel + 1, fields =>
    if fields.isEmpty then some e
    else match e.field fields with
      | .next e rest => e.fields fuel rest
      | .cut e => some e
      | .wrong => none

def lockedFlag : Nat := 0

def utf8Flag : Nat := 11

/-- The method that says that the real one stands in an extra field. -/
def lockedMethod : Nat := 99

def Entry.take (f : Finding) (bytes : Bytes) : Option (Entry × Bytes) := do
  let block := bytes.take entrySize
  guard (block.length == entrySize && entryMark.isPrefixOf block)
  let nameLength := fieldAt block 28 2
  let extraLength := fieldAt block 30 2
  let commentLength := fieldAt block 32 2
  let rest := bytes.drop entrySize
  guard (nameLength + extraLength + commentLength ≤ rest.length)
  let flags := fieldAt block 8 2
  let text := if flags.testBit utf8Flag then Utf8.decodeLossy else CodePage437.decode
  let rawName := rest.take nameLength
  let extra := part rest nameLength extraLength
  let e : Entry :=
    { name := text rawName
      rawName
      comment := text (part rest (nameLength + extraLength) commentLength)
      encrypted := flags.testBit lockedFlag
      method := fieldAt block 10 2
      checksum := fieldAt block 16 4
      compressed := fieldAt block 20 4
      uncompressed := fieldAt block 24 4
      offset := fieldAt block 42 4
      locked := false }
  let e ← e.fields extra.length extra
  guard (e.method != lockedMethod || e.locked)
  let e := { e with offset := e.offset + f.shift }
  guard (e.offset < f.directoryOffset + f.shift)
  return (e, rest.drop (nameLength + extraLength + commentLength))

def takeEntries (f : Finding) : (count : Nat) → Bytes → Option (List Entry)
  | 0, _ => some []
  | count + 1, bytes => do
    let (e, bytes) ← Entry.take f bytes
    let es ← takeEntries f count bytes
    return e :: es

/-- Adds an entry; one with the name of another takes its place. -/
def addEntry (es : List Entry) (e : Entry) : List Entry :=
  if es.any (·.name == e.name) then es.map fun old => if old.name == e.name then e else old
  else es ++ [e]

def Finding.entries? (f : Finding) (bytes : Bytes) : Option (List Entry) := do
  guard f.sound
  let es ← takeEntries f f.count (bytes.drop (f.directoryOffset + f.shift))
  return es.foldl addEntry []

/-- Tries the places that may hold the record at the end, last place first; `error` is what was
wrong so far. A record whose directory cannot be read is passed over. -/
def search (bytes : Bytes) (error : Option ArchiveError) :
    List Nat → Except ArchiveError (List Entry)
  | [] => .error (error.getD (.invalid "Could not find EOCD"))
  | place :: places =>
    match candidate bytes place with
    | .broken e => search bytes (error <|> some e) places
    | .rejected e => search bytes (some e) places
    | .found f =>
      match f.entries? bytes with
      | some es => .ok es
      | none => search bytes none places

def entries (bytes : Bytes) : Except ArchiveError (List Entry) :=
  search bytes none (occurrences endMark 0 bytes).reverse

end SpeechHost.Zip
