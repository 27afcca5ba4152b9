import SpeechHost.Settings.Yaml.Document
import SpeechHost.Settings.Yaml.Tokens
/-!
# Settings in YAML
-/

namespace SpeechHost.Settings.Yaml

/-- Reads a text of at most one document. A text that says nothing is an empty table. -/
def read? (s : String) : Option Value := do
  let (n, _) ← Reader.document ⟨← tokens? s, [], [], []⟩
  match n with
  | none => return .table []
  | some n => n.toValue?

end SpeechHost.Settings.Yaml
