import SpeechHost.CommandLine.Reach
/-!
# The program

Looks at the part of the file tree that the command line can reach, lets the library do the work,
shows what it says, and makes the changes that it made. A command that waits for answers is asked
again with each line that is given. Programs are not started from here, so an engine that is found
counts as one that may not be run.
-/

namespace SpeechHost

open SpeechHost.Storage SpeechHost.Text

def textOfLocation (l : Location) : String :=
  "/" ++ "/".intercalate l

def typeAt (l : Location) : IO (Option IO.FS.FileType) := do
  try
    let place ← (· / textOfLocation l) <$> IO.currentDir
    return some (← place.metadata).type
  catch _ => return none

def namesAt (l : Location) : IO (List String) := do
  let place ← (· / textOfLocation l) <$> IO.currentDir
  return (← place.readDir).toList.map (·.fileName)

/-- The tree with what stands at a location. -/
def observe (d : Disk) (l : Location) : IO Disk := do
  match ← typeAt l with
  | some .dir => return d.put l .directory
  | some .file =>
    try
      return d.put l (.file (← IO.FS.readBinFile (textOfLocation l)).toList)
    catch _ => return d
  | _ => return d

/-- The tree with what stands on a path, and where the path ends. -/
def observePath (d : Disk) (p : Path) : IO (Location × Disk) :=
  p.pieces.foldlM (fun (l, d) piece => do
    if Path.isStay piece then return (l, d)
    else if piece == ".." then return (l.dropLast, d)
    else return (l ++ [piece], ← observe d (l ++ [piece]))) (d.start p, d)

/-- The tree with all that stands below a location. -/
partial def observeBelow (d : Disk) (l : Location) : IO Disk := do
  if !d.isDirectoryAt l then return d
  (← namesAt l).foldlM (fun d name => do
    let d ← observe d (l ++ [name])
    observeBelow d (l ++ [name])) d

def observeReach (d : Disk) (r : CommandLine.Reach) : IO Disk := do
  let d ← r.paths.foldlM (fun d p => (·.2) <$> observePath d p) d
  r.trees.foldlM (fun d p => do
    let (l, d) ← observePath d p
    observeBelow d l) d

/-- Makes the changes that lead from one tree to another. -/
def carryOut (before after : Disk) : IO Unit := do
  for (l, node) in after.entries.reverse do
    match node, before.find? l with
    | .directory, none => IO.FS.createDirAll (textOfLocation l)
    | .file content, old =>
      let same := match old with
        | some (.file content') => content == content'
        | _ => false
      if !same then IO.FS.writeBinFile (textOfLocation l) ⟨content.toArray⟩
    | _, _ => pure ()
  for (l, node) in before.entries do
    match node, after.find? l with
    | .file _, none => IO.FS.removeFile (textOfLocation l)
    | _, _ => pure ()

def cutAtZeros (piece : Bytes) : Bytes → List Bytes
  | [] => if piece.isEmpty then [] else [piece.reverse]
  | b :: bs => if b == 0 then piece.reverse :: cutAtZeros [] bs else cutAtZeros (b :: piece) bs

def homeInAccounts? (accounts number : String) : Option String :=
  (accounts.splitOn "\n").findSome? fun line =>
    match line.splitOn ":" with
    | [_, _, n, _, _, home, _] => if n == number then some home else none
    | _ => none

def homeOfAccount? : IO (Option String) := do
  try
    let status ← IO.FS.readFile "/proc/self/status"
    let accounts ← IO.FS.readFile "/etc/passwd"
    return (status.splitOn "\n").findSome? fun line =>
      match line.splitOn "\t" with
      | "Uid:" :: number :: _ => homeInAccounts? accounts number
      | _ => none
  catch _ => return none

def userOfProcess : IO User := do
  let block := (← IO.FS.readBinFile "/proc/self/environ").toList
  let bindings := (cutAtZeros [] block).filterMap fun piece => do
    let (name, value) := ((← Utf8.decode? piece).toList).span (· != '=')
    return (String.ofList name, String.ofList (value.drop 1))
  return ⟨⟨bindings⟩, ← homeOfAccount?⟩

/-- Answers a command line; `shown` characters of its output were shown before. -/
partial def serve (arguments : List String) (u : User) (w : World) (input : Bytes)
    (shown : Nat) : IO UInt32 := do
  match CommandLine.run arguments u input w with
  | .error error =>
    IO.eprint s!"error: {error.message}\n\nFor more information, try '--help'.\n"
    return 2
  | .ok (reply, after) =>
    let out ← IO.getStdout
    out.putStr (reply.output.drop shown).toString
    out.flush
    let line ← if reply.unanswered then (← IO.getStdin).getLine else pure ""
    if !line.isEmpty then
      serve arguments u w (input ++ Utf8.encode line) reply.output.length
    else
      IO.eprint reply.errors
      carryOut w.disk after.disk
      return reply.status.toUInt32

end SpeechHost

open SpeechHost SpeechHost.Storage

def main (arguments : List String) : IO UInt32 := do
  let u ← userOfProcess
  let here := Path.ofString (← IO.currentDir).toString
  let d := Disk.fresh (here.pieces.filter (!Path.isStay ·))
  let d ← observeReach d ⟨CommandLine.settingsReach u.toEnvironment, []⟩
  let d ← observeReach d (CommandLine.reach arguments u d)
  serve arguments u ⟨d, u.get? "PATH", []⟩ [] 0
