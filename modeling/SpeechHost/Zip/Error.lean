import SpeechHost.Storage.Path
import SpeechHost.Storage.Fault
/-!
# Errors of archives
-/

namespace SpeechHost.Zip

inductive ArchiveError where
  | io
  | invalid (rule : String)
  | unsupported (what : String)
  | invalidPassword
  deriving DecidableEq, Repr

def ArchiveError.message : ArchiveError → String
  | .io => "i/o error"
  | .invalid rule => s!"invalid Zip archive: {rule}"
  | .unsupported what => s!"unsupported Zip archive: {what}"
  | .invalidPassword => "provided password is incorrect"

inductive DataError where
  | checksum
  /-- The compressed data breaks a rule. -/
  | corrupt
  /-- The compressed data ends too early. -/
  | incomplete
  deriving DecidableEq, Repr

def DataError.message : DataError → String
  | .checksum => "Invalid checksum"
  | .corrupt => "corrupt deflate stream"
  | .incomplete => "incomplete deflate stream"

end SpeechHost.Zip
