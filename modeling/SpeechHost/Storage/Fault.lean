import SpeechHost.Text.Quoted

/-!
# Faults of files and programs

Why the operating system refuses a request, with the words it uses.
-/

namespace SpeechHost.Storage

open SpeechHost.Text

inductive Fault where
  | missing
  /-- It may not be run. -/
  | denied
  /-- The name is one that cannot be replaced. -/
  | busy
  | alreadyExists
  | notDirectory
  | isDirectory
  | nameTooLong
  /-- The arguments of a program take more room than there is. -/
  | argumentsTooLong
  | nulInPath
  | nulInArgument
  /-- Any other trouble, in its own words. -/
  | other (text : String)
  /-- A fault with the path that it was met at. -/
  | onPath (f : Fault) (path : String)
  deriving DecidableEq, Repr

/-- The number, the class and the words of the operating system. -/
def Fault.system? : Fault → Option (Nat × String × String)
  | .missing => some (2, "NotFound", "No such file or directory")
  | .argumentsTooLong => some (7, "ArgumentListTooLong", "Argument list too long")
  | .denied => some (13, "PermissionDenied", "Permission denied")
  | .busy => some (16, "ResourceBusy", "Device or resource busy")
  | .alreadyExists => some (17, "AlreadyExists", "File exists")
  | .notDirectory => some (20, "NotADirectory", "Not a directory")
  | .isDirectory => some (21, "IsADirectory", "Is a directory")
  | .nameTooLong => some (36, "InvalidFilename", "File name too long")
  | _ => none

/-- The words of a fault that the operating system never saw. -/
def Fault.words : Fault → String
  | .nulInPath => "file name contained an unexpected NUL byte"
  | .nulInArgument => "nul byte found in provided data"
  | .other text => text
  | _ => ""

def Fault.kind : Fault → String
  | .nulInPath | .nulInArgument => "InvalidInput"
  | .onPath f _ => f.kind
  | f => (f.system?.map (·.2.1)).getD "Other"

def Fault.message : Fault → String
  | .onPath f path => s!"{f.message} at path {quoted path}"
  | f =>
    match f.system? with
    | some (code, _, words) => s!"{words} (os error {code})"
    | none => f.words

/-- A fault with all its parts, as a failing command shows it. -/
def Fault.detailed : Fault → String
  | .onPath f path =>
    "Custom \x7b kind: " ++ f.kind ++ ", error: PathError \x7b path: " ++ quoted path ++ ", err: " ++
      f.detailed ++ " \x7d \x7d"
  | .other text => "Custom \x7b kind: Other, error: " ++ quoted text ++ " \x7d"
  | f =>
    match f.system? with
    | some (code, kind, words) =>
      s!"Os \x7b code: {code}, kind: {kind}, message: " ++ quoted words ++ " \x7d"
    | none => "Error \x7b kind: " ++ f.kind ++ ", message: " ++ quoted f.words ++ " \x7d"

end SpeechHost.Storage
