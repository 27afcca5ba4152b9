import SpeechHost.Audio.WaveFile
import SpeechHost.CommandLine.Request
import SpeechHost.Engine.Command
import SpeechHost.Install.Console
import SpeechHost.Settings.Load
import SpeechHost.Voice.Report
/-!
# Running commands

What a command prints, how it ends, and what it does to the file tree.
-/

namespace SpeechHost.CommandLine

open SpeechHost.Audio SpeechHost.Install SpeechHost.Storage

/-- What a command printed, and how it ended. -/
structure Reply where
  status : Nat
  output : String
  errors : String
  /-- Whether more input could have made a difference. -/
  unanswered : Bool
  deriving DecidableEq, Repr

def Reply.success (output : String) : Reply := ⟨0, output, "", false⟩

/-- The reply of a command that did not reach its aim, with what it has to say about that. -/
def Reply.refusal (errors : String) : Reply := ⟨1, "", errors, false⟩

/-- The reply of a command that failed, by the parts of its error. -/
def Reply.failure (detailed : String) : Reply := .refusal s!"Error: {detailed}\n"

def verdictStatus : Voice.Verdict → Nat
  | .pass => 0
  | .missingData => 1
  | .fail => 2

def checkVoices (settings : Settings) (names : List String) (json : Bool) (d : Disk) : Reply :=
  let places : Voice.Places :=
    ⟨.ofString settings.voiceDataRoot, .ofString settings.systemLingwarePath⟩
  let report := places.check d names
  ⟨verdictStatus report.verdict, if json then report.toJson else report.toText, "", false⟩

def newSite (root : Path) (d : Disk) : Site :=
  ⟨.fresh, Installer.fresh.resolveRoot root, 0, d, []⟩

/-- Installs an archive, talking to whoever gives the input. -/
def installArchive (root archive : Path) (input : Bytes) (d : Disk) : Reply × Disk :=
  match d.makeDirectories root with
  | (.error f, d) => (.failure f.detailed, d)
  | (.ok (), d) =>
    let talk := (newSite root d).converse (.file archive) root (lines input)
    (⟨if talk.site.succeeded then 0 else 1, talk.shown, "", talk.unanswered⟩, talk.site.disk)

def speakToFile (settings : Settings) (r : SpeechRequest) (out : Path) (w : World) :
    Reply × World :=
  let service : Service CommandEngine := .new settings.engineBinary settings.engineConfig?
  match service.create CommandEngine.loader w with
  | (.error e, _, w) => (.failure e.detailed, w)
  | (.ok (), service, w) =>
    let (result, sink, service, w) := service.synthesize r (WaveFile.new out) w
    let (_, w) := service.destroy w
    let (_, disk) := sink.close w.disk
    let w := { w with disk }
    match result with
    | .error e => (.failure e.detailed, w)
    | .ok () => (.success s!"Wrote {out}\n", w)

def tellSample (language country : String) : Reply :=
  match Voice.sampleText? language country with
  | some text => .success s!"{text}\n"
  | none => .refusal s!"No sample text for {language}\n"

def Command.run (settings : Settings) (input : Bytes) (c : Command) (w : World) : Reply × World :=
  match c with
  | .check names json => (checkVoices settings names json w.disk, w)
  | .install root archive =>
    let root := root.getD (.ofString settings.voiceDataRoot)
    let archive := archive.getD (.ofString settings.langpackArchive)
    let (reply, disk) := installArchive root archive input w.disk
    (reply, { w with disk })
  | .speak r out => speakToFile settings r out w
  | .sample language country => (tellSample language country, w)

def complaint (error : Settings.LoadError) : String :=
  s!"Failed to load settings, using defaults: {error.message}\n"

/-- Does what a command line asks for. -/
def run (arguments : List String) (user : User) (input : Bytes) (w : World) :
    Except UsageError (Reply × World) := do
  match ← read arguments with
  | .tell text => return (.success text, w)
  | .work c =>
    let (settings, error) := Settings.effective w.disk user
    let (reply, w) := c.run settings input w
    return ({ reply with errors := error.elim "" complaint ++ reply.errors }, w)

end SpeechHost.CommandLine
