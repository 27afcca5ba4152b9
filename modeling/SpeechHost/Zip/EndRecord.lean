import SpeechHost.Storage.LittleEndian
import SpeechHost.Zip.Error
/-!
# Where the directory of an archive is

An archive ends with a record that says where its directory is. Anything may stand in front of the
archive, which moves everything by the same distance; the record is looked for from the end
backwards, and what it says is checked against what is there. Archives too large for the record
have a longer one, and a locator that leads to it.
-/

namespace SpeechHost.Zip

open SpeechHost.Storage

/-- The mark in front of the record at the end. -/
def endMark : Bytes := [0x50, 0x4B, 5, 6]

def longEndMark : Bytes := [0x50, 0x4B, 6, 6]

def locatorMark : Bytes := [0x50, 0x4B, 6, 7]

def entryMark : Bytes := [0x50, 0x4B, 1, 2]

/-- The size of the record at the end, without its comment. -/
def endSize : Nat := 22

def longEndSize : Nat := 56

def locatorSize : Nat := 20

/-- The size of an entry of the directory, without what varies. -/
def entrySize : Nat := 46

/-- The greatest number of two bytes, which stands for a number that is written elsewhere. -/
def elsewhere2 : Nat := 0xFFFF

def elsewhere4 : Nat := 0xFFFFFFFF

def part (bytes : Bytes) (place size : Nat) : Bytes :=
  (bytes.drop place).take size

structure EndRecord where
  disk : Nat
  directoryDisk : Nat
  /-- How many entries are on this disk. -/
  here : Nat
  total : Nat
  directoryOffset : Nat

structure LongEndRecord where
  size : Nat
  madeBy : Nat
  needed : Nat
  disk : Nat
  directoryDisk : Nat
  here : Nat
  total : Nat
  directoryOffset : Nat

/-- What leads to the long record. -/
structure Locator where
  directoryDisk : Nat
  recordOffset : Nat
  disks : Nat

/-- A directory as a record describes it. -/
structure Finding where
  /-- By how much everything was moved. -/
  shift : Nat
  /-- Where the directory is, as it was written. -/
  directoryOffset : Nat
  count : Nat
  /-- Whether the record agrees with itself: one disk, and nothing that cannot be. -/
  sound : Bool

/-- What comes of a place that may hold the record at the end. -/
inductive Candidate where
  | found (f : Finding)
  /-- There is no record here; this counts only if nothing was wrong before. -/
  | broken (e : ArchiveError)
  /-- There is a record, and this is wrong with it. -/
  | rejected (e : ArchiveError)

def Candidate.violates (rule : String) : Candidate :=
  .rejected (.invalid rule)

/-- The first place from `low` on, and before `high`, where a pattern stands whole. -/
def firstBetween (bytes pattern : Bytes) (low high : Nat) : Option Nat :=
  (occurrences pattern low (part bytes low (high - low))).head?

def EndRecord.candidate (r : EndRecord) (bytes : Bytes) (place : Nat) : Candidate :=
  let finding (shift : Nat) : Candidate :=
    .found ⟨shift, r.directoryOffset, r.here, r.disk == r.directoryDisk⟩
  if r.total == 0 then finding (place - r.directoryOffset)
  else if place ≤ r.directoryOffset then .violates "Invalid CDFH offset in EOCD"
  else match firstBetween bytes entryMark r.directoryOffset place with
    | some first => finding (first - r.directoryOffset)
    | none => .violates "No CDFH found"

/-- The locator in front of the record at the end, if there is one. -/
def locator? (bytes : Bytes) (place : Nat) : Option (Nat × Locator) :=
  let block := part bytes (place - locatorSize) locatorSize
  if locatorSize ≤ place && locatorMark.isPrefixOf block then
    some (place - locatorSize, ⟨fieldAt block 4 4, fieldAt block 8 8, fieldAt block 16 4⟩)
  else
    none

/-- Reads a long record that ends where its locator stands. -/
def Locator.record (l : Locator) (bytes : Bytes) (place locatorPlace : Nat) :
    Except ArchiveError LongEndRecord := do
  let block := part bytes place longEndSize
  let distance := locatorPlace - place
  if block.length < longEndSize then throw .io
  let r : LongEndRecord :=
    { size := fieldAt block 4 8
      madeBy := fieldAt block 12 2
      needed := fieldAt block 14 2
      disk := fieldAt block 16 4
      directoryDisk := fieldAt block 20 4
      here := fieldAt block 24 8
      total := fieldAt block 32 8
      directoryOffset := fieldAt block 48 8 }
  if r.size < 44 then throw (.invalid "Low EOCD64 record size")
  if distance < r.size + 12 then throw (.invalid "EOCD64 extends beyond EOCD64 locator")
  if r.directoryDisk != l.directoryDisk then
    throw (.invalid "Invalid EOCD64: inconsistency with Locator data")
  if r.size + 12 != distance then throw (.invalid "Invalid EOCD64: inconsistent length")
  if place < entrySize * r.total + r.directoryOffset then
    throw (.invalid "Invalid EOCD64: inconsistent number of files")
  return r

def LongEndRecord.finding (r : LongEndRecord) (shift : Nat) : Finding :=
  ⟨shift, r.directoryOffset, r.total,
    r.here ≤ r.total && r.needed ≤ r.madeBy && r.disk == r.directoryDisk⟩

/-- Tries the places that may hold the long record; `error` is what was wrong with the last one. -/
def Locator.search (l : Locator) (bytes : Bytes) (locatorPlace : Nat) (error : ArchiveError) :
    List Nat → Candidate
  | [] => .rejected error
  | place :: places =>
    match l.record bytes place locatorPlace with
    | .ok r => .found (r.finding (place - l.recordOffset))
    | .error e => l.search bytes locatorPlace e places

def Locator.candidate (l : Locator) (bytes : Bytes) (locatorPlace : Nat) : Candidate :=
  if locatorPlace ≤ l.recordOffset then .violates "Invalid EOCD64 Locator CD offset"
  else if 1 < l.disks then .violates "Multi-disk ZIP files are not supported"
  else
    l.search bytes locatorPlace (.invalid "Could not find EOCD64")
      (occurrences longEndMark l.recordOffset
        (part bytes l.recordOffset (locatorPlace - l.recordOffset)))

def candidate (bytes : Bytes) (place : Nat) : Candidate :=
  let block := part bytes place endSize
  if block.length < endSize then .broken .io
  else if bytes.length < place + endSize + fieldAt block 20 2 then
    .broken (.invalid "EOCD comment exceeds file boundary")
  else
    let r : EndRecord := ⟨fieldAt block 4 2, fieldAt block 6 2, fieldAt block 8 2,
      fieldAt block 10 2, fieldAt block 16 4⟩
    let long := r.total == elsewhere2 || r.directoryOffset == elsewhere4
    match if long then locator? bytes place else none with
    | some (locatorPlace, l) => l.candidate bytes locatorPlace
    | none => r.candidate bytes place

end SpeechHost.Zip
