import SpeechHost.Proofs.Engine.Settings
import SpeechHost.Proofs.Voice.Choice
/-!
# Languages that are supported and languages that are chosen

An engine can be asked how well it supports a locale before the locale is chosen. It takes a locale if and
only if it says that it can be spoken (`CommandEngine.isAvailable_iff`), and from then on it reports what was
chosen (`CommandEngine.reports_setLanguage`): an engine with voices the voice that speaks for the locale,
another one the locale itself.
-/

namespace SpeechHost

open SpeechHost.Audio SpeechHost.Storage SpeechHost.Voice

theorem Availability.isAvailable_iff (a : Availability) :
    a.isAvailable = true ↔ a ≠ .notSupported ∧ a ≠ .missingData := by
  cases a <;> decide

namespace Pico

variable {p q : Pico} {d : Disk} {l : Locale} {v : Voice} {exact : Bool}

theorem availability_of_choose? (h : choose? l.language l.country = some (v, exact)) :
    p.availability d l =
      if p.hasData d v then if exact then .countryAvailable else .available else .missingData := by
  have hlanguage : l.language.isEmpty = false := by
    by_contra hempty
    have hnone : l.language = "" := by simpa using hempty
    rw [hnone, choose?_empty] at h
    contradiction
  simp only [availability, hlanguage, h]
  cases p.hasData d v <;> rfl

theorem setLanguage_of_choose? (h : choose? l.language l.country = some (v, exact)) :
    p.setLanguage d l = p.select d v := by
  rw [setLanguage, h]

theorem isAvailable_iff :
    (p.availability d l).isAvailable = true ↔ ∃ q, p.setLanguage d l = .ok q := by
  rw [Availability.isAvailable_iff]
  cases hchoice : choose? l.language l.country with
  | none => simp [availability, setLanguage, hchoice]
  | some choice =>
    obtain ⟨v, exact⟩ := choice
    rw [availability_of_choose? hchoice, setLanguage_of_choose? hchoice, select]
    cases p.hasData d v with
    | false => simp
    | true => cases exact <;> simp

theorem choice_of_setLanguage (h : p.setLanguage d l = .ok q) :
    ∃ v exact, choose? l.language l.country = some (v, exact) ∧ p.hasData d v = true ∧
      q.voice = some v := by
  cases hchoice : choose? l.language l.country with
  | none => simp [setLanguage, hchoice] at h
  | some choice =>
    obtain ⟨v, exact⟩ := choice
    rw [setLanguage_of_choose? hchoice, select] at h
    split_ifs at h with hdata
    refine ⟨v, exact, rfl, hdata, ?_⟩
    rw [← Except.ok.inj h]

/-- For the language and the country of a voice, everything depends on the data of that voice. -/
theorem countryAvailable_iff (h : v ∈ voices) (variant : String) :
    p.availability d ⟨v.language, v.country, variant⟩ = .countryAvailable ↔ p.hasData d v = true := by
  have hchoice := choose?_self h
  rw [availability_of_choose? (l := ⟨v.language, v.country, variant⟩) hchoice]
  cases p.hasData d v <;> simp

theorem selects_iff (h : v ∈ voices) (variant : String) :
    (∃ q, p.setLanguage d ⟨v.language, v.country, variant⟩ = .ok q ∧ q.voice = some v) ↔
      p.hasData d v = true := by
  have hchoice := choose?_self h
  rw [setLanguage_of_choose? (l := ⟨v.language, v.country, variant⟩) hchoice]
  cases hdata : p.hasData d v with
  | false => simp [select, hdata]
  | true => simp [select, hdata]

end Pico

theorem Espeak.isAvailable_iff {e : Espeak} {l : Locale} :
    (Espeak.availability l).isAvailable = true ↔ ∃ f, e.setLanguage l = .ok f := by
  rw [Availability.isAvailable_iff, Espeak.availability, Espeak.setLanguage]
  by_cases hlanguage : l.language.isEmpty = true
  · simp [hlanguage]
  · simp only [hlanguage]
    split_ifs <;> simp

namespace CommandEngine

variable {e f : CommandEngine} {d : Disk} {l : Locale}

/-- What may be reported as the language after a locale was chosen that is supported so well. -/
def Reports (e : CommandEngine) (level : Availability) (l reported : Locale) : Prop :=
  reported.language = l.language ∧
    match e with
    | .pico _ =>
      (reported.country = l.country ↔ level = .countryAvailable) ∧
        (level ≠ .countryAvailable →
          ∃ v, (voicesOf l.language).head? = some v ∧ reported.country = v.country)
    | .espeak _ => reported = l

theorem isAvailable_iff :
    (e.availability d l).isAvailable = true ↔ ∃ f, e.setLanguage d l = .ok f := by
  cases e with
  | pico p =>
    rw [availability, Pico.isAvailable_iff]
    constructor
    · rintro ⟨q, hq⟩
      exact ⟨.pico q, by simp [setLanguage, hq]⟩
    · rintro ⟨f, hf⟩
      obtain ⟨q, hq, -⟩ := map_ok hf
      exact ⟨q, hq⟩
  | espeak e =>
    rw [availability, Espeak.isAvailable_iff (e := e)]
    constructor
    · rintro ⟨f, hf⟩
      exact ⟨.espeak f, by simp [setLanguage, hf]⟩
    · rintro ⟨f, hf⟩
      obtain ⟨f', hf', -⟩ := map_ok hf
      exact ⟨f', hf'⟩

theorem reports_setLanguage (h : e.setLanguage d l = .ok f) :
    ∃ reported, f.language = some reported ∧ e.Reports (e.availability d l) l reported := by
  cases e with
  | pico p =>
    obtain ⟨q, hq, rfl⟩ := map_ok h
    obtain ⟨v, exact, hchoice, hdata, hvoice⟩ := Pico.choice_of_setLanguage hq
    refine ⟨⟨v.language, v.country, ""⟩, by simp [language, Pico.language, hvoice],
      language_of_choose? hchoice, ?_⟩
    simp only [availability, Pico.availability_of_choose? hchoice, hdata, if_true]
    rw [← exact_iff hchoice]
    cases exact with
    | true => simp
    | false => exact ⟨by simp, fun _ => ⟨v, head?_of_choose? hchoice, rfl⟩⟩
  | espeak e =>
    obtain ⟨f', hf, rfl⟩ := map_ok h
    obtain rfl := Espeak.setLanguage_ok hf
    exact ⟨l, rfl, rfl, rfl⟩

end CommandEngine

end SpeechHost
