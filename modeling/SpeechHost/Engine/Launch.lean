import SpeechHost.World
/-!
# Finding and starting programs
-/

namespace SpeechHost

open SpeechHost.Storage

def searchPlaces (searchPath : String) : List Path :=
  (searchPath.toList.splitOn ':').map fun place => .ofString (.ofList place)

/-- The program that an identifier names. One with several components is a path and stands for
itself; any other is looked for along the search path, an empty place being the working
directory. -/
def resolve? (w : World) (identifier : String) : Option Path :=
  let p := Path.ofString identifier
  if identifier.isEmpty then none
  else if 1 < p.components.length then
    if w.disk.isFile p then some p else none
  else
    ((w.searchPath.map searchPlaces).getD []).map (·.join p) |>.find? w.disk.isFile

/-- Tries the places of a search path in order. A program that may not be run is passed over, but it
is what is reported when there is no other. -/
def firstProgram (d : Disk) (name : Path) (denied : Bool) : List Path → Except Fault Program
  | [] => .error (if denied then .denied else .missing)
  | place :: places =>
    match d.program? (place.join name) with
    | .ok p => .ok p
    | .error .denied => firstProgram d name true places
    | .error .missing | .error .notDirectory => firstProgram d name denied places
    | .error e => .error e

/-- The program that a path starts. A bare name is looked for once more. -/
def World.program (w : World) (p : Path) : Except Fault Program :=
  if 1 < p.pieces.length then w.disk.program? p
  else firstProgram w.disk p false ((w.searchPath.map searchPlaces).getD [])

/-- Keeps the files that a program wrote, as far as there is room for them. -/
def World.keep (w : World) (written : List (String × Bytes)) : World :=
  written.foldl (fun w (path, content) =>
    match w.disk.writeFile (.ofString path) content with
    | .ok disk => { w with disk }
    | .error _ => w) w

/-- Makes an empty file that is needed for a while. -/
def World.reserve (w : World) (path : String) : Except Fault World :=
  match w.disk.writeFile (.ofString path) [] with
  | .ok disk => .ok { w with disk }
  | .error f => .error (.onPath f path)

def World.discard (w : World) (path : String) : World :=
  match w.disk.removeFile (.ofString path) with
  | .ok disk => { w with disk }
  | .error _ => w

/-- What comes of starting a program. Nothing is started for arguments that hold a NUL character. -/
def World.launch (w : World) (p : Path) (arguments : List String) : Except Fault Run :=
  if arguments.any (·.toList.contains '\x00') then .error .nulInArgument
  else match w.program p with
    | .error e => .error e
    | .ok program => program.start arguments

def World.run (w : World) (p : Path) (arguments : List String) : Except Fault Run × World :=
  match w.launch p arguments with
  | .error e => (.error e, w)
  | .ok outcome => (.ok outcome, (w.note (.ran arguments)).keep outcome.written)

end SpeechHost
