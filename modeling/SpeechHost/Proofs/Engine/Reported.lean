import Mathlib.Data.List.Induction
import SpeechHost.Proofs.Engine.Options
/-!
# The locale that eSpeak reports

An engine with the command line of eSpeak keeps the locale that it was asked for beside the voice that it
speaks with. Both change when a language is set. The property `language` changes the voice alone, so the
locale that is reported then is one that was asked for before, or none (`Espeak.speaks_as_reported_iff`).
-/

namespace SpeechHost

open SpeechHost.Audio SpeechHost.Storage SpeechHost.Text

theorem lastOf_locale_of_voice (ts : List Told) :
    match lastOf Told.voice? ts with
    | none => lastOf Told.locale? ts = none
    | some (.byLocale l) => lastOf Told.locale? ts = some l
    | some (.byName _) => True := by
  -- From the end: what was said last decides, unless it was no voice.
  induction ts using List.reverseRecOn with
  | nil => rfl
  | append_singleton ts t ih =>
    rw [lastOf_concat, lastOf_concat]
    match t with
    | .voice (.byLocale l) => rfl
    | .voice (.byName name) => trivial
    | .level k n => exact ih

namespace Usage

variable {ε σ : Type}

/-- The voice that an engine with the command line of eSpeak speaks with. -/
def spokenVoice (u : Usage ε σ) : Option String :=
  u.lastVoice.map VoiceChoice.spoken

theorem spokenVoice_eq_iff {u : Usage ε σ} :
    u.spokenVoice = u.lastLocale.map Espeak.voiceFor ↔
      ∀ name, u.lastVoice = some (.byName name) →
        ∃ l, u.lastLocale = some l ∧ lowercase name = Espeak.voiceFor l := by
  have hlocale := lastOf_locale_of_voice u.told
  rw [spokenVoice]
  unfold lastVoice lastLocale
  cases hvoice : lastOf Told.voice? u.told with
  | none => simp_all
  | some c =>
    cases c with
    | byLocale l => simp_all [VoiceChoice.spoken]
    | byName name => simp [VoiceChoice.spoken, eq_comm]

end Usage

/-- The voice that is passed as an option, among the arguments that the program is started with. -/
def Espeak.voiceOption : List String → Option String
  | "--stdout" :: "-v" :: v :: _ => some v
  | _ => none

theorem Espeak.Kept.voiceOption_arguments {ε σ : Type} {u : Usage ε σ} {program : Path} {config : String}
    {e : Espeak} (h : e.Kept program config u.told) (text : String) :
    voiceOption (e.arguments text) = u.spokenVoice := by
  rw [h.arguments_eq, Usage.spokenVoice]
  cases u.lastVoice <;> rfl

variable {σ : Type} [AudioSink σ] [Bystander World.started σ]

/-- Whatever an engine with the command line of eSpeak was asked before, and whatever happened meanwhile: it
reports the locale that a voice was chosen by last, and passes the voice that was chosen last. So the voice is
the one of the locale that it reports, and none if it reports none, exactly if the voice was not chosen last by
the property `language`, or by a name that happens to be the voice of that locale. -/
theorem Espeak.speaks_as_reported_iff (program : Path) (config : String) (out : σ) (w : World)
    (es : List (Usage.Event σ)) (text : String) (arguments : List String) :
    let u := (Usage.fresh (CommandEngine.espeak (.new program config)) out w).run es
    u.Starts text arguments →
      (SpeechEngine.language u.engine u.world).1 = u.lastLocale ∧
      voiceOption arguments = u.spokenVoice ∧
      (voiceOption arguments = (SpeechEngine.language u.engine u.world).1.map voiceFor ↔
        ∀ name, u.lastVoice = some (.byName name) →
          ∃ l, u.lastLocale = some l ∧ lowercase name = voiceFor l) := by
  intro u hstarts
  obtain ⟨e, he, hkept⟩ := Usage.espeak_kept program config out w es
  have hreported : (SpeechEngine.language u.engine u.world).1 = u.lastLocale :=
    (congrArg (fun e => (SpeechEngine.language e u.world).1) he).trans hkept.locale
  have hspoken : voiceOption arguments = u.spokenVoice := by
    rw [(Usage.starts_iff.1 hstarts).1, ← hkept.voiceOption_arguments text]
    exact congrArg (fun e => voiceOption (e.arguments text)) he
  refine ⟨hreported, hspoken, ?_⟩
  rw [hspoken, hreported]
  exact Usage.spokenVoice_eq_iff

/-- An engine in a world with its program, after some calls. -/
def bareUsage (es : List (Usage.Event Rehearsal.Probe)) : Usage CommandEngine Rehearsal.Probe :=
  (Usage.fresh (CommandEngine.espeak (.new (.ofString "/bin/espeak-ng") "")) .quiet bareStudio).run es

theorem Espeak.speaks_as_reported_iff_german :
    let u := bareUsage [.ask (.setProperty "language" "fr"), .ask (.setLanguage ⟨"deu", "DEU", ""⟩),
      .ask (.setProperty "language" "DE")]
    let arguments := ["--stdout", "-v", "de", "-s", "175", "-p", "50", "-a", "100", "--", "Hallo"]
    u.Starts "Hallo" arguments ∧
      voiceOption arguments = (SpeechEngine.language u.engine u.world).1.map voiceFor := by
  intro u arguments
  have hstarts : u.Starts "Hallo" arguments :=
    Usage.starts_iff.2 ⟨by decide +kernel, by decide +kernel⟩
  have hvoice : u.lastVoice = some (.byName "DE") := by decide +kernel
  have hlocale : u.lastLocale = some ⟨"deu", "DEU", ""⟩ := by decide +kernel
  refine ⟨hstarts, (speaks_as_reported_iff _ _ _ _ _ "Hallo" arguments hstarts).2.2.2 fun name hname => ?_⟩
  obtain rfl : "DE" = name := VoiceChoice.byName.inj (Option.some.inj (hvoice.symm.trans hname))
  exact ⟨_, hlocale, by decide +kernel⟩

/-- A voice that is chosen by a name on its own is spoken with, and no locale is reported. -/
theorem Espeak.not_speaks_as_reported :
    let u := bareUsage [.ask (.setProperty "language" "de")]
    let arguments := ["--stdout", "-v", "de", "-s", "175", "-p", "50", "-a", "100", "--", "hi"]
    u.Starts "hi" arguments ∧ (SpeechEngine.language u.engine u.world).1 = none ∧
      voiceOption arguments ≠ (SpeechEngine.language u.engine u.world).1.map voiceFor := by
  intro u arguments
  have hstarts : u.Starts "hi" arguments :=
    Usage.starts_iff.2 ⟨by decide +kernel, by decide +kernel⟩
  exact ⟨hstarts, by decide +kernel, by decide +kernel⟩

end SpeechHost
