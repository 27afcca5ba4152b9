import SpeechHost.Storage.Tree

/-!
# The file tree

A tree of directories, files and programs without links, and the requests that a process makes
of it. A request that is refused leaves the tree as it was.

* `find?` is the view of the tree: what stands at a location, a location being the names on the
  way down from the top. `put`, `erase` and `eraseTree` are described through it.
* `walk` follows the pieces of a path; every piece, also an empty one or a dot, needs a directory
  to stand in.
* The other requests are made by path and follow the rules of the kernel: which of two faults is
  reported, and what a slash at the end of a path or a final dot does.
-/

namespace SpeechHost.Storage

inductive Node where
  | directory
  | file (content : Bytes)
  | program (p : Program)

/-- A tree, and the directory where relative paths start. -/
structure Disk where
  cwd : Location
  entries : List (Location × Node)

/-- The longest name that the system takes, in bytes. -/
def maxNameBytes : Nat := 255

/-- The length from which a path is refused, in bytes. -/
def maxPathBytes : Nat := 4096

namespace Disk

/-- The tree that holds an empty directory where the process works, and one for what is needed for a
while. -/
def fresh (cwd : Location) : Disk :=
  ⟨cwd, (["tmp"], .directory) ::
    (List.range cwd.length).map fun n => (cwd.take (n + 1), .directory)⟩

/-- What stands at a location. The top is always a directory. -/
def find? (d : Disk) (l : Location) : Option Node :=
  match l with
  | [] => some .directory
  | l => d.entries.lookup l

def erase (d : Disk) (l : Location) : Disk :=
  { d with entries := d.entries.filter (·.1 != l) }

def put (d : Disk) (l : Location) (n : Node) : Disk :=
  { d with entries := (l, n) :: (d.erase l).entries }

def eraseTree (d : Disk) (l : Location) : Disk :=
  { d with entries := d.entries.filter fun e => !l.isPrefixOf e.1 }

/-! ## Following a path -/

def isDirectoryAt (d : Disk) (l : Location) : Bool :=
  match d.find? l with
  | some .directory => true
  | _ => false

/-- Follows the pieces of a path from a location. -/
def walk (d : Disk) (l : Location) : List String → Except Fault Location
  | [] => .ok l
  | piece :: rest =>
    if !d.isDirectoryAt l then .error .notDirectory
    else if Path.isStay piece then d.walk l rest
    else if piece == ".." then d.walk l.dropLast rest
    else if maxNameBytes < piece.utf8ByteSize then .error .nameTooLong
    else match d.find? (l ++ [piece]) with
      | none => .error .missing
      | some _ => d.walk (l ++ [piece]) rest

/-- Where the pieces of a path start to count. -/
def start (d : Disk) (p : Path) : Location :=
  if p.isAbsolute then [] else d.cwd

/-- Refuses a path that the system does not even look at. -/
def check (p : Path) : Except Fault Unit :=
  let text := p.toString
  if text.isEmpty then .error .missing
  else if text.toList.contains '\x00' then .error .nulInPath
  else if maxPathBytes ≤ text.utf8ByteSize then .error .nameTooLong
  else .ok ()

def locate (d : Disk) (p : Path) : Except Fault Location := do
  check p
  d.walk (d.start p) p.pieces

def get? (d : Disk) (p : Path) : Option Node :=
  match d.locate p with
  | .ok l => d.find? l
  | .error _ => none

def exists? (d : Disk) (p : Path) : Bool :=
  (d.get? p).isSome

def isDirectory (d : Disk) (p : Path) : Bool :=
  match d.get? p with
  | some .directory => true
  | _ => false

/-- Whether a path leads to a file, programs included. -/
def isFile (d : Disk) (p : Path) : Bool :=
  match d.get? p with
  | some .directory | none => false
  | some _ => true

/-! ## The last step of a path -/

/-- The end of a path whose last piece need not exist. -/
inductive Ending where
  /-- An ordinary name, with whether a slash follows it. -/
  | name (s : String) (slash : Bool)
  /-- A dot, two dots, or the top of the tree. -/
  | fixed
  deriving DecidableEq, Repr

/-- The directory in which a path ends, and its end. -/
def spot (d : Disk) (p : Path) : Except Fault (Location × Ending) := do
  check p
  let used := (p.pieces.reverse.dropWhile (· == "")).reverse
  match used.getLast? with
  | none => return ([], .fixed)
  | some last =>
    let l ← d.walk (d.start p) used.dropLast
    if !d.isDirectoryAt l then throw .notDirectory
    if last == "." || last == ".." then return (l, .fixed)
    return (l, .name last (used.length < p.pieces.length))

def checkName (s : String) : Except Fault Unit :=
  if maxNameBytes < s.utf8ByteSize then .error .nameTooLong else .ok ()

/-! ## Requests -/

def makeDirectory (d : Disk) (p : Path) : Except Fault Disk := do
  match ← d.spot p with
  | (_, .fixed) => throw .alreadyExists
  | (l, .name s _) =>
    checkName s
    if (d.find? (l ++ [s])).isSome then throw .alreadyExists
    return d.put (l ++ [s]) .directory

def writeFileAt (d : Disk) (p : Path) (content : Bytes) : Except Fault (Location × Disk) := do
  match ← d.spot p with
  | (_, .fixed) => throw .isDirectory
  | (_, .name _ true) => throw .isDirectory
  | (l, .name s false) =>
    checkName s
    if d.isDirectoryAt (l ++ [s]) then throw .isDirectory
    return (l ++ [s], d.put (l ++ [s]) (.file content))

def writeFile (d : Disk) (p : Path) (content : Bytes) : Except Fault Disk :=
  (d.writeFileAt p content).map (·.2)

def read (d : Disk) (p : Path) : Except Fault Bytes := do
  match d.find? (← d.locate p) with
  | none => throw .missing
  | some .directory => throw .isDirectory
  | some (.file content) => return content
  | some (.program _) => return []

/-- Gives a file another name, in place of the file that has it. -/
def renameFile (d : Disk) (old new : Path) : Except Fault Disk := do
  let source ← d.spot old
  let target ← d.spot new
  match source, target with
  | (l, .name s slash), (l', .name s' slash') =>
    checkName s
    match d.find? (l ++ [s]) with
    | none => throw .missing
    | some .directory => throw .isDirectory
    | some node =>
      checkName s'
      if slash || slash' then throw .notDirectory
      if d.isDirectoryAt (l' ++ [s']) then throw .isDirectory
      return (d.erase (l ++ [s])).put (l' ++ [s']) node
  | _, _ => throw .busy

def removeFile (d : Disk) (p : Path) : Except Fault Disk := do
  match ← d.spot p with
  | (_, .fixed) => throw .isDirectory
  | (l, .name s slash) =>
    checkName s
    match d.find? (l ++ [s]) with
    | none => throw .missing
    | some .directory => throw .isDirectory
    | some _ =>
      if slash then throw .notDirectory
      return d.erase (l ++ [s])

/-- The program that a path leads to, if it may be run. -/
def program? (d : Disk) (p : Path) : Except Fault Program := do
  match d.find? (← d.locate p) with
  | none => throw .missing
  | some (.program q) => if q.executable then return q else throw .denied
  | some _ => throw .denied

instance : FileTree Disk where
  isDirectory := isDirectory
  makeDirectory := makeDirectory
  writeFileAt := writeFileAt
  rewriteFile d l content := d.put l (.file content)
  renameFile := renameFile
  removeFile := removeFile

section FileTree

variable (d : Disk)

@[simp] theorem fileTree_isDirectory (p : Path) : FileTree.isDirectory d p = d.isDirectory p := rfl

@[simp] theorem fileTree_makeDirectory (p : Path) :
    FileTree.makeDirectory d p = d.makeDirectory p := rfl

@[simp] theorem fileTree_writeFileAt (p : Path) (content : Bytes) :
    FileTree.writeFileAt d p content = d.writeFileAt p content := rfl

@[simp] theorem fileTree_rewriteFile (l : Location) (content : Bytes) :
    FileTree.rewriteFile d l content = d.put l (.file content) := rfl

@[simp] theorem fileTree_renameFile (old new : Path) :
    FileTree.renameFile d old new = d.renameFile old new := rfl

@[simp] theorem fileTree_removeFile (p : Path) : FileTree.removeFile d p = d.removeFile p := rfl

end FileTree

def makeDirectories : Disk → Path → Except Fault Unit × Disk :=
  Storage.makeDirectories

@[simp] theorem storage_makeDirectories (d : Disk) (p : Path) :
    Storage.makeDirectories d p = d.makeDirectories p := rfl

/-! ## Setting a tree up and looking at it -/

/-- Puts a node at a path, with the directories above it. -/
def place (d : Disk) (p : Path) (n : Node) : Disk :=
  let d := match p.parent? with
    | some above => (d.makeDirectories above).2
    | none => d
  match d.spot p with
  | .ok (l, .name s _) => d.put (l ++ [s]) n
  | _ => d

def remove (d : Disk) (p : Path) : Disk :=
  match d.locate p with
  | .ok l => d.eraseTree l
  | .error _ => d

/-- Everything below the working directory, by path from there, in the order of the paths. -/
def listing (d : Disk) : List (String × Node) :=
  let below := d.entries.filterMap fun (l, n) =>
    if d.cwd.isPrefixOf l && l != d.cwd then
      some ("/".intercalate (l.drop d.cwd.length), n)
    else
      none
  below.mergeSort fun a b => a.1 ≤ b.1

/-! ## The view -/

theorem find?_put_self (d : Disk) (l : Location) (n : Node) (h : l ≠ []) :
    (d.put l n).find? l = some n := by
  cases l with
  | nil => exact absurd rfl h
  | cons s l => simp [find?, put]

end Disk

end SpeechHost.Storage
