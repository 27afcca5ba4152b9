import SpeechHost.Storage.Fault
import SpeechHost.Storage.Path
import SpeechHost.Storage.Program

/-!
# What is asked of a file tree

The requests that all work on files is made of. What is written in terms of them runs on a tree, and as
well on anything that stands for one, such as a tree that keeps a record of its changes.
-/

namespace SpeechHost.Storage

/-- Names on the way down from the top of the tree. -/
abbrev Location := List String

/-- A tree of files, or what stands for one. A request that is refused leaves it as it was. -/
class FileTree (τ : Type) where
  isDirectory : τ → Path → Bool
  makeDirectory : τ → Path → Except Fault τ
  /-- Writes a file, new or in place of the old one, and says where it stands. -/
  writeFileAt : τ → Path → Bytes → Except Fault (Location × τ)
  /-- Gives other content to a file that is open. -/
  rewriteFile : τ → Location → Bytes → τ
  renameFile : τ → Path → Path → Except Fault τ
  removeFile : τ → Path → Except Fault τ

variable {τ : Type} [FileTree τ]

/-- Makes a directory if it can, and is content with one that is there. -/
def ensureDirectory (t : τ) (p : Path) : Except Fault Unit × τ :=
  match FileTree.makeDirectory t p with
  | .ok t => (.ok (), t)
  | .error e => (if FileTree.isDirectory t p then .ok () else .error e, t)

/-- Makes a directory and those above it that are missing; `depth` bounds how many there are.
Directories that were made stay when one further down is refused. -/
def makeDirectoriesWithin (t : τ) (p : Path) : Nat → Except Fault Unit × τ
  | 0 => (.error .missing, t)
  | depth + 1 =>
    if p.isEmpty then (.ok (), t)
    else match FileTree.makeDirectory t p with
      | .ok t => (.ok (), t)
      | .error .missing =>
        match p.parent? with
        | none => (.error (.other "failed to create whole tree"), t)
        | some above =>
          match makeDirectoriesWithin t above depth with
          | (.error e, t) => (.error e, t)
          | (.ok (), t) => ensureDirectory t p
      | .error e => (if FileTree.isDirectory t p then .ok () else .error e, t)

def makeDirectories (t : τ) (p : Path) : Except Fault Unit × τ :=
  makeDirectoriesWithin t p (p.pieces.length + 1)

end SpeechHost.Storage
