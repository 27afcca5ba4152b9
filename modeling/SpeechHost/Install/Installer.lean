import SpeechHost.Install.Extract
import SpeechHost.Install.Slot
import SpeechHost.Install.Source
/-!
# Installers

An installer waits for the directory to install into, extracts its archive when it gets the slot,
and reports to its host and to whoever waits for the data. After a failure it can be tried again,
unless the host is going away; then the failure is final.

An attempt is made of sections, between which other installers and other requests may come:
`Slot.tryBegin`, `markInstalling`, `run`, `Slot.finish` and `settle`.
-/

namespace SpeechHost.Install

open SpeechHost.Storage

inductive Phase where
  | awaitingRoot
  | installing
  | awaitingRetry
  | completed
  | failed
  deriving DecidableEq, Repr

/-- What those who wait for the data are told. -/
inductive Status where
  | success
  | error
  deriving DecidableEq, Repr

inductive Event where
  /-- To the host: extraction started. -/
  | showInstalling
  /-- To the host: extraction failed and can be tried again. -/
  | offerRetry
  /-- To the host: all is done. -/
  | close
  /-- To those who wait for the data. -/
  | dataInstalled (s : Status)
  deriving DecidableEq, Repr

structure Installer where
  phase : Phase
  closing : Bool
  /-- The directory to install into, once it is known. -/
  root : Option Path

namespace Installer

def fresh : Installer := ⟨.awaitingRoot, false, none⟩

def resolveRoot (i : Installer) (root : Path) : Installer :=
  { i with root := some root }

/-- Begins an attempt for which the slot was taken. -/
def markInstalling (i : Installer) : Installer × List Event :=
  ({ i with phase := .installing }, [.showInstalling])

/-- Extracts an archive that was opened, or could not be. -/
def run (opened : Except Fault Bytes) (root : Path) (d : Disk) : Outcome × Disk :=
  match opened with
  | .error _ => (.failure, d)
  | .ok bytes =>
    match extract bytes root d with
    | (.ok _, d) => (.success, d)
    | (.error _, d) => (.failure, d)

def settle (i : Installer) (o : Outcome) : Installer × List Event :=
  if o == .success then
    ({ i with phase := .completed, closing := true }, [.dataInstalled .success, .close])
  else if i.closing then ({ i with phase := .failed }, [.dataInstalled .error])
  else ({ i with phase := .awaitingRetry }, [.offerRetry])

/-- The host goes away. A failure that was offered for another try becomes final. -/
def close (i : Installer) : Installer × List Event :=
  if i.phase == .awaitingRetry then
    ({ i with closing := true, phase := .failed }, [.dataInstalled .error])
  else ({ i with closing := true }, [])

end Installer

end SpeechHost.Install
