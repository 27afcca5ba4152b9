import SpeechHost.Engine.Pico
import SpeechHost.Proofs.Engine.Language
import SpeechHost.Voice.Check
/-!
# Voices that are listed and voices that can be spoken

A check looks for each file of a voice in two directories. An engine has one directory, and wants all the
files there. So a voice that an engine on one of the two directories can speak is listed as available, but
a voice may be listed that no such engine can speak: one whose files are split between the two
(`Places.check_agrees_iff`).
-/

namespace SpeechHost.Voice

open SpeechHost.Storage

variable {places : Places} {d : Disk} {requested : List String} {v : Voice} {p : Pico}

theorem exists?_of_isFile {path : Path} (h : d.isFile path = true) : d.exists? path = true := by
  rw [Disk.exists?]
  cases hnode : d.get? path with
  | none => simp [Disk.isFile, hnode] at h
  | some node => rfl

theorem mem_voices_of_selected (h : v ∈ selected requested) : v ∈ voices :=
  (List.mem_filter.1 h).1

namespace Places

/-- What has the name of a file that a voice needs, in one of the two places, is a file. -/
def Plain (places : Places) (d : Disk) (v : Voice) : Prop :=
  ∀ name ∈ v.files, ∀ place ∈ [places.user, places.system],
    d.exists? (place.join (.ofString name)) = true → d.isFile (place.join (.ofString name)) = true

/-- All that a voice needs is there in one place or the other, but in neither of them it is all there. -/
def Split (places : Places) (d : Disk) (v : Voice) : Prop :=
  (∀ name ∈ v.files, d.exists? (places.user.join (.ofString name)) = true ∨
      d.exists? (places.system.join (.ofString name)) = true) ∧
    ∀ place ∈ [places.user, places.system],
      ∃ name ∈ v.files, d.exists? (place.join (.ofString name)) = false

instance : Decidable (places.Plain d v) :=
  inferInstanceAs (Decidable (∀ _ ∈ _, ∀ _ ∈ _, _ → _))

instance : Decidable (places.Split d v) :=
  inferInstanceAs (Decidable (_ ∧ _))

theorem installed_iff :
    places.installed d v = true ↔
      ∀ name ∈ v.files, d.exists? (places.user.join (.ofString name)) = true ∨
        d.exists? (places.system.join (.ofString name)) = true := by
  simp [installed, holds]

theorem available_check : (places.check d requested).available =
    ((selected requested).filter (places.installed d)).map Voice.name := by
  simp [check, List.partition_eq_filter_filter]

theorem unavailable_check : (places.check d requested).unavailable =
    ((selected requested).filter fun v => !places.installed d v).map Voice.name := by
  simp only [check, List.partition_eq_filter_filter]
  rfl

theorem mem_available_iff (h : v ∈ selected requested) :
    v.name ∈ (places.check d requested).available ↔ places.installed d v = true := by
  rw [available_check, List.mem_map]
  constructor
  · rintro ⟨u, hu, hname⟩
    obtain ⟨huselected, hinstalled⟩ := List.mem_filter.1 hu
    obtain rfl := eq_of_name_eq (mem_voices_of_selected huselected) (mem_voices_of_selected h) hname
    exact hinstalled
  · intro hinstalled
    exact ⟨v, List.mem_filter.2 ⟨h, hinstalled⟩, rfl⟩

/-- An engine on one of the two directories that has the data of a voice shows that it is installed. -/
theorem installed_of_hasData (hp : p.directory = places.user ∨ p.directory = places.system)
    (h : p.hasData d v = true) : places.installed d v = true := by
  rw [installed_iff]
  intro name hname
  have hfile := exists?_of_isFile (List.all_eq_true.1 h name hname)
  rcases hp with hp | hp
  · rw [hp] at hfile
    exact .inl hfile
  · rw [hp] at hfile
    exact .inr hfile

theorem hasData_eq_false_iff (hplain : places.Plain d v)
    (hp : p.directory ∈ [places.user, places.system]) :
    p.hasData d v = false ↔
      ∃ name ∈ v.files, d.exists? (p.directory.join (.ofString name)) = false := by
  rw [Pico.hasData, List.all_eq_false]
  refine exists_congr fun name => and_congr_right fun hname => ?_
  have hsame : d.isFile (p.directory.join (.ofString name)) = true ↔
      d.exists? (p.directory.join (.ofString name)) = true :=
    ⟨exists?_of_isFile, hplain name hname _ hp⟩
  rw [hsame, Bool.not_eq_true]

theorem split_iff {user system : Pico} (hplain : places.Plain d v)
    (huser : user.directory = places.user) (hsystem : system.directory = places.system) :
    places.Split d v ↔
      places.installed d v = true ∧ user.hasData d v = false ∧ system.hasData d v = false := by
  rw [hasData_eq_false_iff hplain (by simp [huser]), hasData_eq_false_iff hplain (by simp [hsystem]),
    installed_iff, huser, hsystem]
  simp [Split]

/-- A check lists every voice that an engine on one of the two directories can be told to speak. It lists no
others, if and only if the voice is not split. -/
theorem check_agrees_iff (h : v ∈ selected requested) {user system : Pico}
    (huser : user.directory = places.user) (hsystem : system.directory = places.system)
    (variant : String) :
    let listed := v.name ∈ (places.check d requested).available
    let offered := user.availability d ⟨v.language, v.country, variant⟩ = .countryAvailable ∨
      system.availability d ⟨v.language, v.country, variant⟩ = .countryAvailable
    (offered → listed) ∧ (places.Plain d v → ((listed ↔ offered) ↔ ¬ places.Split d v)) ∧
      ∀ p ∈ [user, system],
        p.availability d ⟨v.language, v.country, variant⟩ = .countryAvailable ↔
          ∃ q, p.setLanguage d ⟨v.language, v.country, variant⟩ = .ok q ∧ q.voice = some v := by
  intro listed offered
  have hv := mem_voices_of_selected h
  have hlisted : listed ↔ places.installed d v = true := mem_available_iff h
  have hoffered : offered ↔ user.hasData d v = true ∨ system.hasData d v = true :=
    or_congr (Pico.countryAvailable_iff hv variant) (Pico.countryAvailable_iff hv variant)
  have hlists : offered → listed := by
    rw [hoffered, hlisted]
    rintro (hdata | hdata)
    · exact installed_of_hasData (.inl huser) hdata
    · exact installed_of_hasData (.inr hsystem) hdata
  refine ⟨hlists, fun hplain => ?_, fun p _ => ?_⟩
  · rw [split_iff hplain huser hsystem, ← hlisted, ← Bool.not_eq_true, ← Bool.not_eq_true,
      ← not_or, ← hoffered]
    constructor
    · rintro hagrees ⟨hthere, hnone⟩
      exact hnone (hagrees.1 hthere)
    · intro hnot
      refine ⟨fun hthere => ?_, hlists⟩
      by_contra hnone
      exact hnot ⟨hthere, hnone⟩
  · rw [Pico.countryAvailable_iff hv, Pico.selects_iff hv]

def twoPlaces : Places := ⟨.ofString "/user", .ofString "/system"⟩

/-- A tree with all the data of the French voice in one directory, and that of the American voice in both. -/
def splitData : Disk :=
  ⟨[], [(["user"], .directory), (["system"], .directory),
    (["system", "fr-FR_ta.bin"], .file [1]), (["system", "fr-FR_nk0_sg.bin"], .file [2]),
    (["user", "en-US_ta.bin"], .file [3]), (["system", "en-US_lh0_sg.bin"], .file [4])]⟩

def engineOn (directory : String) : Pico := .new (.ofString "/bin/pico2wave") directory

theorem check_agrees_iff_french :
    voices[4] ∈ selected ["", "fra-FRA", "jpn-JPN"] ∧
      twoPlaces.Plain splitData voices[4] ∧ ¬ twoPlaces.Split splitData voices[4] ∧
      "fra-FRA" ∈ (twoPlaces.check splitData ["", "fra-FRA", "jpn-JPN"]).available ∧
      ∃ q, (engineOn "/system").setLanguage splitData ⟨"fra", "FRA", ""⟩ = .ok q ∧
        q.voice = some voices[4] := by
  have hselected : voices[4] ∈ selected ["", "fra-FRA", "jpn-JPN"] := by decide +kernel
  have hplain : twoPlaces.Plain splitData voices[4] := by decide +kernel
  have hwhole : ¬ twoPlaces.Split splitData voices[4] := by decide +kernel
  have huser : (engineOn "/user").directory = twoPlaces.user := by decide +kernel
  have hsystem : (engineOn "/system").directory = twoPlaces.system := by decide +kernel
  obtain ⟨-, hagrees, hselects⟩ := check_agrees_iff (d := splitData) hselected huser hsystem ""
  have hoffered : (engineOn "/system").availability splitData ⟨"fra", "FRA", ""⟩ =
      .countryAvailable := by decide +kernel
  exact ⟨hselected, hplain, hwhole, ((hagrees hplain).2 hwhole).2 (.inr hoffered),
    (hselects _ (List.mem_cons_of_mem _ List.mem_cons_self)).1 hoffered⟩

/-- A voice with split data is listed, and no engine on one of the directories can speak it. -/
theorem check_lists_split :
    voices[0] ∈ selected ["eng-USA"] ∧ twoPlaces.Plain splitData voices[0] ∧
      (twoPlaces.check splitData ["eng-USA"]).available = ["eng-USA"] ∧
      ∀ directory ∈ ["/user", "/system"],
        (engineOn directory).availability splitData ⟨"eng", "USA", ""⟩ = .missingData := by
  decide +kernel

end Places

end SpeechHost.Voice
