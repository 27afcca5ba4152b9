import SpeechHost.CommandLine.Run
/-!
# What a command line can reach

The places in the file tree that a command line may look at or change. A front end that knows what
stands there knows enough to run it.
-/

namespace SpeechHost.CommandLine

open SpeechHost.Storage SpeechHost.Text

/-- Places in the file tree. -/
structure Reach where
  /-- Places that count for themselves. -/
  paths : List Path
  /-- Places that count with all below them. -/
  trees : List Path

def settingsReach (e : Environment) : List Path :=
  (Settings.places e).flatMap fun place =>
    place :: Settings.documented.map fun f => place.append f.ending

def voiceReach (directories : List Path) : List Path :=
  directories.flatMap fun directory =>
    directory :: (Voice.voices.flatMap (·.files)).map fun name => directory.join (.ofString name)

/-- The places where the program of an engine may stand. -/
def engineReach (identifier : String) (searchPath : Option String) : List Path :=
  let p := Path.ofString identifier
  p :: ((searchPath.map searchPlaces).getD []).map (·.join p)

/-- The places that a command may look at or change. -/
def Command.reach (settings : Settings) (searchPath : Option String) : Command → Reach
  | .check _ _ =>
    ⟨voiceReach [.ofString settings.voiceDataRoot, .ofString settings.systemLingwarePath], []⟩
  | .install root archive =>
    ⟨[archive.getD (.ofString settings.langpackArchive)],
      [root.getD (.ofString settings.voiceDataRoot)]⟩
  | .speak _ out =>
    ⟨out :: engineReach settings.engineBinary searchPath ++
      voiceReach [.ofString (trim settings.engineConfig), .ofString Voice.systemDirectory], []⟩
  | .sample _ _ => ⟨[], []⟩

/-- The places that a command line may look at or change, once it is known what stands at those of
settings files. -/
def reach (arguments : List String) (u : User) (d : Disk) : Reach :=
  match read arguments with
  | .ok (.work c) => c.reach (Settings.effective d u).1 (u.get? "PATH")
  | _ => ⟨[], []⟩

end SpeechHost.CommandLine
