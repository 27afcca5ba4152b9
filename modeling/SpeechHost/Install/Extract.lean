import SpeechHost.Install.Error
import SpeechHost.Storage.Blocks
import SpeechHost.Storage.Disk
import SpeechHost.Zip.Entry
/-!
# Extracting an archive

Entries are put below a directory in the order of the archive, up to the first that fails. A file is
written next to its place under another name and takes its place when it is complete, so what stood
there before stays until then.
-/

namespace SpeechHost.Install

open SpeechHost.Storage SpeechHost.Zip

structure Summary where
  files : Nat
  directories : Nat
  deriving DecidableEq, Repr

/-- What is written behind the name of a file that is not complete. -/
def partialEnding : String := ".part"

def copyBytes : Nat := 16384

/-- The data of an entry as it is read: blocks, and what goes wrong behind them, if anything does. -/
structure Delivery where
  blocks : List Bytes
  failure : Option DataError

/-- Blocks of what could be read, or nothing but the failure. -/
def Delivery.ofContent : Except DataError Bytes → Delivery
  | .ok content => ⟨Storage.blocks copyBytes content, none⟩
  | .error e => ⟨[], some e⟩

abbrev Decoder := Entry → Bytes → Delivery

def decode : Decoder := fun e data => .ofContent (e.content data)

section FileTree

variable {τ : Type} [FileTree τ]

/-- Takes a file away if it can. -/
def discard (t : τ) (p : Path) : τ :=
  match FileTree.removeFile t p with
  | .ok t => t
  | .error _ => t

/-- Puts blocks behind what was written to a file. -/
def copyBlocks (l : Location) (written : Bytes) (t : τ) : List Bytes → τ
  | [] => t
  | b :: bs => copyBlocks l (written ++ b) (FileTree.rewriteFile t l (written ++ b)) bs

/-- Writes a file under its other name and gives it the name it is to have. -/
def writeAndRename (v : Delivery) (target other : Path) (t : τ) : Except EntryCause Unit × τ :=
  match FileTree.writeFileAt t other [] with
  | .error f => (.error (.storage f), t)
  | .ok (l, opened) =>
    let written := copyBlocks l [] opened v.blocks
    match v.failure with
    | some e => (.error (.data e), written)
    | none =>
      match FileTree.renameFile written other target with
      | .error f => (.error (.storage f), written)
      | .ok t => (.ok (), t)

/-- Puts a file in its place. When that fails, the file under the other name is taken away. -/
def writeEntry (v : Delivery) (target : Path) (t : τ) : Except EntryCause Unit × τ :=
  let other := target.append partialEnding
  match writeAndRename v target other t with
  | (.ok (), t) => (.ok (), t)
  | (.error cause, t) => (.error cause, discard t other)

def makeDirectories (p : Path) (t : τ) : Except InstallError Unit × τ :=
  match Storage.makeDirectories t p with
  | (.ok (), t) => (.ok (), t)
  | (.error f, t) => (.error (.entry p (.storage f)), t)

def placeFile (v : Delivery) (target : Path) (t : τ) : Except InstallError Unit × τ :=
  let (made, t) := match target.parent? with
    | some above => makeDirectories above t
    | none => (.ok (), t)
  match made with
  | .error e => (.error e, t)
  | .ok () =>
    match writeEntry v target t with
    | (.ok (), t) => (.ok (), t)
    | (.error cause, t) => (.error (.entry target cause), t)

end FileTree

/-- Where an entry belongs, and its data. -/
def openEntry (bytes : Bytes) (root : Path) (e : Entry) : Except InstallError (Path × Bytes) := do
  let data ← (e.locate bytes).mapError .archive
  match e.path? with
  | none => throw (.unsafeEntry e.name)
  | some p => return (root.join p, data)

def Summary.add (s : Summary) (e : Entry) : Summary :=
  if e.isDirectory then { s with directories := s.directories + 1 }
  else { s with files := s.files + 1 }

variable {τ : Type} [FileTree τ] (decoder : Decoder)

def installEntry (bytes : Bytes) (root : Path) (e : Entry) (t : τ) : Except InstallError Unit × τ :=
  match openEntry bytes root e with
  | .error error => (.error error, t)
  | .ok (target, data) =>
    if e.isDirectory then makeDirectories target t
    else placeFile (decoder e data) target t

/-- Installs entries in order, up to the first that fails. -/
def installEntries (bytes : Bytes) (root : Path) (s : Summary) (t : τ) :
    List Entry → Except InstallError Summary × τ
  | [] => (.ok s, t)
  | e :: es =>
    match installEntry decoder bytes root e t with
    | (.error error, t) => (.error error, t)
    | (.ok (), t) => installEntries bytes root (s.add e) t es

/-- Extracts an archive into a directory, its entries being read in a given way. -/
def extractWith (bytes : Bytes) (root : Path) (t : τ) : Except InstallError Summary × τ :=
  match entries bytes with
  | .error e => (.error (.archive e), t)
  | .ok es => installEntries decoder bytes root ⟨0, 0⟩ t es

def extract : Bytes → Path → Disk → Except InstallError Summary × Disk :=
  extractWith decode

end SpeechHost.Install
