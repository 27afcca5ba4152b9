import SpeechHost.Storage.Fault
import SpeechHost.Storage.Path
import SpeechHost.Zip.Error
/-!
# Errors of an installation
-/

namespace SpeechHost.Install

open SpeechHost.Storage SpeechHost.Zip

inductive EntryCause where
  | storage (f : Fault)
  | data (e : DataError)
  deriving DecidableEq, Repr

def EntryCause.message : EntryCause → String
  | .storage f => f.message
  | .data e => e.message

inductive InstallError where
  | io (f : Fault)
  | archive (e : ArchiveError)
  | unsafeEntry (name : String)
  | entry (path : Path) (cause : EntryCause)
  deriving DecidableEq, Repr

def InstallError.message : InstallError → String
  | .io f => s!"I/O error: {f.message}"
  | .archive e => s!"Archive error: {e.message}"
  | .unsafeEntry name => s!"Archive entry escapes the destination root: {name}"
  | .entry path cause => s!"Failed to install {path.toString}: {cause.message}"

end SpeechHost.Install
