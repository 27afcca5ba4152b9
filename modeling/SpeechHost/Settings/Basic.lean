import SpeechHost.Environment
import SpeechHost.Text.Blank
import SpeechHost.Voice.Table
/-!
# The settings of a host

Six texts, each under a key. Settings are usable when they name an engine and a voice data root
that can be put in front of a file name as it stands. The settings of a host that was told nothing
are usable.
-/

namespace SpeechHost

open SpeechHost.Storage SpeechHost.Text

structure Settings where
  /-- The name of an engine's program, or the path of it. -/
  engineBinary : String
  /-- What the engine is configured with; may say nothing. -/
  engineConfig : String
  /-- Where voice data are installed. -/
  voiceDataRoot : String
  /-- Where the system keeps its voice data. -/
  systemLingwarePath : String
  /-- The archive that voice data are installed from. -/
  langpackArchive : String
  logLevel : String
  deriving DecidableEq, Repr

namespace Settings

inductive Key where
  | engineBinary
  | engineConfig
  | voiceDataRoot
  | systemLingwarePath
  | langpackArchive
  | logLevel
  deriving DecidableEq, Repr

def Key.all : List Key :=
  [.engineBinary, .engineConfig, .voiceDataRoot, .systemLingwarePath, .langpackArchive, .logLevel]

def Key.name : Key → String
  | .engineBinary => "engine_binary"
  | .engineConfig => "engine_config"
  | .voiceDataRoot => "voice_data_root"
  | .systemLingwarePath => "system_lingware_path"
  | .langpackArchive => "langpack_archive"
  | .logLevel => "log_level"

def Key.ofName? (name : String) : Option Key :=
  Key.all.find? (·.name == name)

def get (s : Settings) : Key → String
  | .engineBinary => s.engineBinary
  | .engineConfig => s.engineConfig
  | .voiceDataRoot => s.voiceDataRoot
  | .systemLingwarePath => s.systemLingwarePath
  | .langpackArchive => s.langpackArchive
  | .logLevel => s.logLevel

/-- The settings that have a text for each key. -/
def ofTexts (text : Key → String) : Settings where
  engineBinary := text .engineBinary
  engineConfig := text .engineConfig
  voiceDataRoot := text .voiceDataRoot
  systemLingwarePath := text .systemLingwarePath
  langpackArchive := text .langpackArchive
  logLevel := text .logLevel

@[simp] theorem get_ofTexts (text : Key → String) (k : Key) : (ofTexts text).get k = text k := by
  cases k <;> rfl

/-- The settings of a host that was told nothing. -/
def standard (u : User) : Settings where
  engineBinary := "pico2wave"
  engineConfig := ""
  voiceDataRoot := u.dataDirectory.toString ++ "/picotts-ng/"
  systemLingwarePath := Voice.systemDirectory
  langpackArchive :=
    ((u.cacheDirectory.join (.ofString "picotts-ng")).join (.ofString "svoxlangpack.zip")).toString
  logLevel := "info"

/-- What the engine is configured with, if anything. -/
def engineConfig? (s : Settings) : Option String :=
  if s.engineConfig.isEmpty then none else some s.engineConfig

/-! ## Usable settings -/

inductive Flaw where
  | noEngine
  /-- The voice data root does not end with a slash. -/
  | openRoot (root : String)
  deriving DecidableEq, Repr

def Flaw.message : Flaw → String
  | .noEngine => "engine_binary must not be empty"
  | .openRoot root => s!"Invalid voice_data_root: {root}. Must end with a path separator"

/-- Refuses settings that are of no use. -/
def check (s : Settings) : Except Flaw Unit :=
  if (trim s.engineBinary).isEmpty then .error .noEngine
  else if s.voiceDataRoot.toList.getLast? != some '/' then .error (.openRoot s.voiceDataRoot)
  else .ok ()

end Settings

end SpeechHost
