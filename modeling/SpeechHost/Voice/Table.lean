/-!
# The Pico voices

Which voices exist and which files each of them needs. The order counts: the first voice of a
language is the one that speaks it by default.
-/

namespace SpeechHost

/-- A voice. Language and country are three-letter codes. -/
structure Voice where
  language : String
  country : String
  /-- The name that the engine knows it by. -/
  locale : String
  /-- What it needs for text analysis and for signal generation. -/
  files : List String
  sample : String
  deriving DecidableEq, Repr

namespace Voice

/-- The name of a voice in requests and reports. -/
def name (v : Voice) : String :=
  s!"{v.language}-{v.country}"

/-- The voice that speaks when no other was chosen. -/
def american : Voice :=
  ⟨"eng", "USA", "en-US", ["en-US_ta.bin", "en-US_lh0_sg.bin"],
    "This is an example of speech synthesis in English."⟩

def voices : List Voice :=
  [american,
    ⟨"eng", "GBR", "en-GB", ["en-GB_ta.bin", "en-GB_kh0_sg.bin"],
      "This is an example of speech synthesis in English."⟩,
    ⟨"deu", "DEU", "de-DE", ["de-DE_ta.bin", "de-DE_gl0_sg.bin"],
      "Dies ist ein Beispiel für Sprachsynthese in Deutsch."⟩,
    ⟨"spa", "ESP", "es-ES", ["es-ES_ta.bin", "es-ES_zl0_sg.bin"],
      "Este es un ejemplo de síntesis de voz en español."⟩,
    ⟨"fra", "FRA", "fr-FR", ["fr-FR_ta.bin", "fr-FR_nk0_sg.bin"],
      "Ceci est un exemple de synthèse vocale en français."⟩,
    ⟨"ita", "ITA", "it-IT", ["it-IT_ta.bin", "it-IT_cm0_sg.bin"],
      "Questo è un esempio di sintesi vocale in italiano."⟩]

def voicesOf (language : String) : List Voice :=
  voices.filter (·.language == language)

/-- The voice for a language and a country, and whether the country was matched. The first voice of
the language stands in for a country that has none. -/
def choose? (language country : String) : Option (Voice × Bool) :=
  match voicesOf language with
  | [] => none
  | first :: rest =>
    match (first :: rest).find? (·.country == country) with
    | some v => some (v, true)
    | none => some (first, false)

def sampleText? (language country : String) : Option String :=
  (choose? language country).map (·.1.sample)

def systemDirectory : String := "/usr/share/pico/lang/"

end Voice

end SpeechHost
