import SpeechHost.Audio.Wave.Decode
import SpeechHost.Storage.Fault
/-!
# Errors of engines and sinks
-/

namespace SpeechHost

open SpeechHost.Audio SpeechHost.Storage SpeechHost.Text

inductive Failure where
  /-- A shelf without slope. -/
  | flatShelf
  | missingVoiceData (locale directory : String)
  | badLevel (name value : String)
  | unknownProperty (name : String)
  | program (name errors : String)
  /-- The program of an engine took too long; the limit is told in seconds, if it is. -/
  | overdue (limit : Option Nat)
  /-- The program of an engine printed something that is no audio. -/
  | undecodable (d : Wave.Defect)
  /-- The samples could not be read. -/
  | unreadable (d : Wave.Defect)
  | unsupportedWidth (bits : Nat)
  | notStarted
  | notWritten (f : Fault)
  /-- Any other reason, in its own words. -/
  | reported (text : String)
  deriving DecidableEq, Repr

def Failure.message : Failure → String
  | .flatShelf => "Invalid slope, can't be zero"
  | .missingVoiceData locale directory => s!"Lingware for {locale} missing in {directory}"
  | .badLevel name value => s!"Invalid {name} value: {value}"
  | .unknownProperty name => s!"Unknown property: {name}"
  | .program name errors => s!"{name} error: {errors}"
  | .overdue limit => "Backend timed out" ++ limit.elim "" fun n => s!" after {n}s"
  | .undecodable d => s!"Failed to decode engine output: {d.message}"
  | .unreadable d => d.message
  | .unsupportedWidth bits => s!"Unsupported sample width: {bits} bits"
  | .notStarted => "audio before start"
  | .notWritten f => s!"WAV write failed: {f.message}"
  | .reported text => text

inductive EngineError where
  | released
  | unsupportedLanguage (name : String)
  | failed (f : Failure)
  | io (f : Fault)
  deriving DecidableEq, Repr

def EngineError.message : EngineError → String
  | .released => "Engine was already shut down"
  | .unsupportedLanguage name => s!"Language not supported: {name}"
  | .failed f => s!"Engine failure: {f.message}"
  | .io f => s!"I/O error: {f.message}"

/-- An engine error with its parts, as a failing command shows it. -/
def EngineError.detailed : EngineError → String
  | .released => "Released"
  | .unsupportedLanguage name => s!"UnsupportedLanguage({quoted name})"
  | .failed f => s!"Failed({quoted f.message})"
  | .io f => s!"Io({f.detailed})"

inductive ConfigurationError where
  | engineNotFound (identifier : String)
  | load (reason : String)
  | filterRejected (reason : String)
  deriving DecidableEq, Repr

def ConfigurationError.message : ConfigurationError → String
  | .engineNotFound identifier => s!"Engine binary not usable: {identifier}"
  | .load reason => s!"Engine failed to load: {reason}"
  | .filterRejected reason => s!"Engine rejected the low-shelf filter configuration: {reason}"

/-- A configuration error with its parts, as a failing command shows it. -/
def ConfigurationError.detailed : ConfigurationError → String
  | .engineNotFound identifier => s!"EngineNotFound({quoted identifier})"
  | .load reason => s!"Load({quoted reason})"
  | .filterRejected reason => s!"FilterRejected({quoted reason})"

end SpeechHost
