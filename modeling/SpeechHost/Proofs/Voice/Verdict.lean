import SpeechHost.CommandLine.Run
import SpeechHost.Proofs.Voice.Check
/-!
# The verdict of a check

A check goes through the table of voices and looks which of them were asked for. A name that no voice has
is never looked at. So the verdict is what the request deserves, unless names that mean nothing stand beside
names of voices that are all installed: such a request passes (`Places.verdict_promised_iff`).
-/

namespace SpeechHost.Voice

open SpeechHost.Storage SpeechHost.CommandLine

variable {p : Places} {d : Disk} {requested : List String} {v : Voice} {name : String}

def directoriesOf (settings : Settings) : Places :=
  ⟨.ofString settings.voiceDataRoot, .ofString settings.systemLingwarePath⟩

/-- The names a request stands for: those that are not empty, and the names of all voices when there are
none. -/
def asked (requested : List String) : List String :=
  let wanted := requested.filter (· != "")
  if wanted.isEmpty then voices.map Voice.name else wanted

namespace Places

/-- A name of a voice that has each of its files in one directory or the other. -/
def Serves (p : Places) (d : Disk) (name : String) : Prop :=
  ∃ v ∈ voices, v.name = name ∧
    ∀ file ∈ v.files, d.exists? (p.user.join (.ofString file)) = true ∨
      d.exists? (p.system.join (.ofString file)) = true

/-- The verdict that a request deserves. -/
def Promised (p : Places) (d : Disk) (requested : List String) : Verdict → Prop
  | .pass => ∀ name ∈ asked requested, p.Serves d name
  | .fail => (∃ name ∈ requested, name ≠ "") ∧ ∀ name ∈ requested, ¬ p.Serves d name
  | .missingData =>
    ¬ (∀ name ∈ asked requested, p.Serves d name) ∧
      ¬ ((∃ name ∈ requested, name ≠ "") ∧ ∀ name ∈ requested, ¬ p.Serves d name)

/-- A request with a name that no voice has, beside names of voices of which none is missing. -/
def Overlooks (p : Places) (d : Disk) (requested : List String) : Prop :=
  (∃ name ∈ requested, name ≠ "" ∧ ∀ v ∈ voices, v.name ≠ name) ∧
    (∃ name ∈ requested, p.Serves d name) ∧
    ∀ v ∈ voices, v.name ∈ requested → p.Serves d v.name

end Places

/-! ## The voices of a request -/

theorem name_ne_empty (h : v ∈ voices) : v.name ≠ "" := by
  have hall : ∀ v ∈ voices, v.name ≠ "" := by decide +kernel
  exact hall v h

theorem asked_cases (requested : List String) :
    ((∀ name ∈ requested, name = "") ∧ asked requested = voices.map Voice.name ∧
        selected requested = voices) ∨
      ((∃ name ∈ requested, name ≠ "") ∧
        (∀ name, name ∈ asked requested ↔ name ∈ requested ∧ name ≠ "") ∧
        ∀ v, v ∈ selected requested ↔ v ∈ voices ∧ v.name ∈ requested) := by
  by_cases hnone : requested.filter (· != "") = []
  · have hempty : ∀ name ∈ requested, name = "" := by simpa using hnone
    exact .inl ⟨hempty, by simp [asked, hnone], by simp [selected, hnone]⟩
  · have hsome : ∃ name ∈ requested, name ≠ "" := by simpa using hnone
    refine .inr ⟨hsome, fun name => by simp [asked, hnone], fun v => ?_⟩
    have hmem : v ∈ selected requested ↔ v ∈ voices ∧ v.name ∈ requested ∧ v.name ≠ "" := by
      simp [selected, hnone]
    rw [hmem]
    exact and_congr_right fun hv => and_iff_left (name_ne_empty hv)

namespace Places

theorem serves_name_iff (h : v ∈ voices) : p.Serves d v.name ↔ p.installed d v = true := by
  rw [installed_iff]
  constructor
  · rintro ⟨u, hu, hname, hfiles⟩
    rwa [← eq_of_name_eq hu h hname]
  · exact fun hfiles => ⟨v, h, rfl, hfiles⟩

theorem name_of_serves (h : p.Serves d name) : ∃ v ∈ voices, v.name = name := by
  obtain ⟨v, hv, hname, -⟩ := h
  exact ⟨v, hv, hname⟩

/-! ## What each verdict says -/

theorem verdict_eq_fail_iff :
    (p.check d requested).verdict = .fail ↔
      (∃ name ∈ requested, name ≠ "") ∧ ∀ v ∈ selected requested, p.installed d v = false := by
  have hverdict : (p.check d requested).verdict = .fail ↔
      (requested.any (· != "") && ((selected requested).filter (p.installed d)).isEmpty) = true := by
    simp only [check, List.partition_eq_filter_filter]
    split
    · exact iff_of_true rfl ‹_›
    · split
      all_goals exact iff_of_false (by simp) ‹_›
  rw [hverdict]
  simp

theorem verdict_eq_pass_iff :
    (p.check d requested).verdict = .pass ↔
      (p.check d requested).verdict ≠ .fail ∧ ∀ v ∈ selected requested, p.installed d v = true := by
  simp only [check, List.partition_eq_filter_filter]
  split
  · simp
  · split
    · next hnone => simpa using hnone
    · next hsome => simpa using hsome

theorem fail_iff : (p.check d requested).verdict = .fail ↔ p.Promised d requested .fail := by
  rw [verdict_eq_fail_iff]
  refine and_congr_right fun hsome => ?_
  obtain ⟨hempty, -, -⟩ | ⟨-, -, hselected⟩ := asked_cases requested
  · obtain ⟨name, hname, hne⟩ := hsome
    exact absurd (hempty name hname) hne
  constructor
  · intro hmissing name hname hserves
    obtain ⟨v, hv, rfl⟩ := name_of_serves hserves
    have hthere := (serves_name_iff hv).1 hserves
    rw [hmissing v ((hselected v).2 ⟨hv, hname⟩)] at hthere
    contradiction
  · intro hnone v hmem
    obtain ⟨hv, hname⟩ := (hselected v).1 hmem
    rw [← Bool.not_eq_true, ← serves_name_iff hv]
    exact hnone v.name hname

/-- A check passes when all that was asked for is there, and when it overlooks a name. -/
theorem pass_iff :
    (p.check d requested).verdict = .pass ↔
      p.Promised d requested .pass ∨ p.Overlooks d requested := by
  rw [verdict_eq_pass_iff, Ne, fail_iff]
  obtain ⟨hempty, hasked, hselected⟩ | ⟨hsome, hasked, hselected⟩ := asked_cases requested
  · have hnames : ¬ ∃ name ∈ requested, name ≠ "" := by simpa using hempty
    have hunknown : ¬ p.Overlooks d requested := fun ⟨⟨name, hname, hne, _⟩, _⟩ =>
      hne (hempty name hname)
    simp only [Promised, hasked, hselected, hnames, hunknown, false_and, not_false_eq_true, true_and,
      or_false, List.forall_mem_map]
    exact forall₂_congr fun v hv => (serves_name_iff hv).symm
  · have hinstalled : (∀ v ∈ selected requested, p.installed d v = true) ↔
        ∀ v ∈ voices, v.name ∈ requested → p.Serves d v.name := by
      constructor
      · intro hall v hv hname
        exact (serves_name_iff hv).2 (hall v ((hselected v).2 ⟨hv, hname⟩))
      · intro hall v hmem
        obtain ⟨hv, hname⟩ := (hselected v).1 hmem
        exact (serves_name_iff hv).1 (hall v hv hname)
    have hserved : ¬ p.Promised d requested .fail ↔ ∃ name ∈ requested, p.Serves d name := by
      simp [Promised, hsome]
    rw [hinstalled, hserved]
    constructor
    · rintro ⟨hone, hall⟩
      -- the loop asks about voices only: it answers for a name if there is a voice of this name
      by_cases hknown : ∀ name ∈ requested, name ≠ "" → ∃ v ∈ voices, v.name = name
      · refine .inl fun name hname => ?_
        obtain ⟨hmem, hne⟩ := (hasked name).1 hname
        obtain ⟨v, hv, rfl⟩ := hknown name hmem hne
        exact hall v hv hmem
      · push Not at hknown
        exact .inr ⟨hknown, hone, hall⟩
    · rintro (hall | ⟨-, hone, hall⟩)
      · obtain ⟨name, hname, hne⟩ := hsome
        refine ⟨⟨name, hname, hall name ((hasked name).2 ⟨hname, hne⟩)⟩, fun v hv hmem => ?_⟩
        exact hall v.name ((hasked v.name).2 ⟨hmem, name_ne_empty hv⟩)
      · exact ⟨hone, hall⟩

theorem not_promised_pass_of_overlooks (h : p.Overlooks d requested) :
    ¬ p.Promised d requested .pass := by
  obtain ⟨⟨name, hname, hne, hunknown⟩, -, -⟩ := h
  intro hall
  obtain ⟨hempty, -, -⟩ | ⟨-, hasked, -⟩ := asked_cases requested
  · exact hne (hempty name hname)
  · obtain ⟨v, hv, heq⟩ := name_of_serves (hall name ((hasked name).2 ⟨hname, hne⟩))
    exact hunknown v hv heq

theorem overlooks_iff :
    p.Overlooks d requested ↔
      (p.check d requested).verdict = .pass ∧ ¬ p.Promised d requested .pass := by
  rw [pass_iff]
  constructor
  · exact fun h => ⟨.inr h, not_promised_pass_of_overlooks h⟩
  · rintro ⟨hpromised | hoverlooks, hnot⟩
    · contradiction
    · exact hoverlooks

theorem promised_iff :
    p.Promised d requested (p.check d requested).verdict ↔ ¬ p.Overlooks d requested := by
  rw [overlooks_iff]
  have hfail : (p.check d requested).verdict = .fail ↔ p.Promised d requested .fail := fail_iff
  have hpass : (p.check d requested).verdict = .pass ↔
      p.Promised d requested .pass ∨ p.Overlooks d requested := pass_iff
  cases hverdict : (p.check d requested).verdict with
  | pass => simp
  | fail => simpa using hfail.1 hverdict
  | missingData =>
    have hnotFail : ¬ p.Promised d requested .fail := by simp [← hfail, hverdict]
    have hnotPass : ¬ p.Promised d requested .pass := fun h => by simp [hpass.2 (.inl h)] at hverdict
    simpa using ⟨hnotPass, hnotFail⟩

theorem checkVoices_status_eq_zero_iff (settings : Settings) (json : Bool) :
    (checkVoices settings requested json d).status = 0 ↔
      ((directoriesOf settings).check d requested).verdict = .pass := by
  change verdictStatus ((directoriesOf settings).check d requested).verdict = 0 ↔ _
  cases ((directoriesOf settings).check d requested).verdict <;> simp [verdictStatus]

/-- The verdict is the one that the request deserves, if and only if no name is overlooked. An overlooked
name makes a check pass that should not; a check fails only when it should. The command ends well exactly
when all that was asked for is there or a name is overlooked. -/
theorem verdict_promised_iff (p : Places) (d : Disk) (requested : List String) :
    (p.Promised d requested (p.check d requested).verdict ↔ ¬ p.Overlooks d requested) ∧
      (p.Overlooks d requested ↔
        (p.check d requested).verdict = .pass ∧ ¬ p.Promised d requested .pass) ∧
      ((p.check d requested).verdict = .fail ↔ p.Promised d requested .fail) ∧
      ∀ settings json input w,
        ((Command.check requested json).run settings input w).1.status = 0 ↔
          (directoriesOf settings).Promised w.disk requested .pass ∨
            (directoriesOf settings).Overlooks w.disk requested := by
  refine ⟨promised_iff, overlooks_iff, fail_iff, fun settings json input w => ?_⟩
  rw [← pass_iff]
  exact checkVoices_status_eq_zero_iff settings json

/-- A tree with the data of the American voice, and of no other. -/
def americanData : Disk :=
  ⟨[], [(["user"], .directory), (["system"], .directory),
    (["user", "en-US_ta.bin"], .file [1]), (["user", "en-US_lh0_sg.bin"], .file [2])]⟩

/-- A request for an installed voice and for one that does not exist passes. -/
theorem overlooked_passes :
    (twoPlaces.check americanData ["eng-USA", "jpn-JPN"]).verdict = .pass ∧
      "jpn-JPN" ∈ asked ["eng-USA", "jpn-JPN"] ∧ ¬ twoPlaces.Serves americanData "jpn-JPN" ∧
      ¬ twoPlaces.Promised americanData ["eng-USA", "jpn-JPN"] .pass := by
  have hasked : "jpn-JPN" ∈ asked ["eng-USA", "jpn-JPN"] := by decide +kernel
  have hunknown : ∀ v ∈ voices, v.name ≠ "jpn-JPN" := by decide +kernel
  have hmissing : ¬ twoPlaces.Serves americanData "jpn-JPN" := by
    intro hserves
    obtain ⟨v, hv, hname⟩ := name_of_serves hserves
    exact hunknown v hv hname
  exact ⟨by decide +kernel, hasked, hmissing, fun hall => hmissing (hall _ hasked)⟩

end Places

end SpeechHost.Voice
