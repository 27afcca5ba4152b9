import SpeechHost.Storage.Path
/-!
# The environment of a process

The variables that a process was started with, and the places in the user's home that they name. Where
they name no home, that of the user's account counts.
-/

namespace SpeechHost

open SpeechHost.Storage

/-- The variables of a process, in the order of the system. -/
structure Environment where
  bindings : List (String × String)

def Environment.get? (e : Environment) (name : String) : Option String :=
  e.bindings.lookup name

/-- What a process knows about its user. -/
structure User extends Environment where
  /-- The home of the user's account, if there is such an account. -/
  accountHome? : Option String

/-- A user without an account. -/
instance : Coe Environment User := ⟨fun e => ⟨e, none⟩⟩

namespace User

/-- The user's home: the one that a variable names, or that of the account. -/
def home? (u : User) : Option Path :=
  (((u.get? "HOME").filter (· != "")).or (u.accountHome?.filter (· != ""))).map Path.ofString

/-- The directory that a variable names. A relative one does not count; then a place in the user's
home stands in, or the working directory. -/
def directory (u : User) (name inHome : String) : Path :=
  match ((u.get? name).map Path.ofString).filter (·.isAbsolute) with
  | some p => p
  | none => (u.home?.map (·.join (.ofString inHome))).getD (.ofString ".")

/-- Where programs keep the user's data. -/
def dataDirectory (u : User) : Path :=
  u.directory "XDG_DATA_HOME" ".local/share"

/-- Where programs keep what can be fetched again. -/
def cacheDirectory (u : User) : Path :=
  u.directory "XDG_CACHE_HOME" ".cache"

end User

end SpeechHost
