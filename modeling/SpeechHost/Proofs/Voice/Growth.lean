import SpeechHost.Proofs.Storage.Walk
import SpeechHost.Proofs.Voice.Verdict
/-!
# Checks of more data

What a check finds depends on the set of names that were asked for, not on their order, nor on how often
each was given. It sorts the voices that are asked for into two lists, and where more files are there, no
voice that was available is lost and the verdict is no worse (`Places.check_grows`).
-/

namespace SpeechHost.Voice

open SpeechHost.Storage

variable {p : Places} {d d' : Disk} {requested requested' : List String} {v : Voice}

/-- How good a verdict is. -/
def Verdict.rank : Verdict → Nat
  | .fail => 0
  | .missingData => 1
  | .pass => 2

/-- A request is for a voice when it names it, or when it names nothing. -/
def IsFor (requested : List String) (v : Voice) : Prop :=
  v.name ∈ requested ∨ ∀ name ∈ requested, name = ""

instance (requested : List String) (v : Voice) : Decidable (IsFor requested v) :=
  inferInstanceAs (Decidable (_ ∨ _))

/-- The names of the voices that a request is for, in the order of the table. -/
def namesFor (requested : List String) : List String :=
  (voices.filter fun v => IsFor requested v).map Voice.name

/-- A report sorts names when each of them is listed once, either as available or as unavailable, and
both lists are in the order of the names. -/
structure Report.Sorts (r : Report) (names : List String) : Prop where
  nodup : names.Nodup
  available : r.available.Sublist names
  unavailable : r.unavailable.Sublist names
  once : (r.available ++ r.unavailable).Perm names

/-- Two requests for the same names, but perhaps for the empty one. -/
def SameNames (requested requested' : List String) : Prop :=
  ∀ name, name ≠ "" → (name ∈ requested ↔ name ∈ requested')

theorem Verdict.rank_le_iff {a b : Verdict} :
    a.rank ≤ b.rank ↔ (a = .pass → b = .pass) ∧ (b = .fail → a = .fail) := by
  cases a <;> cases b <;> decide

/-! ## The voices of a request -/

theorem mem_selected_iff : v ∈ selected requested ↔ v ∈ voices ∧ IsFor requested v := by
  obtain ⟨hempty, -, hall⟩ | ⟨⟨name, hname, hne⟩, -, hselected⟩ := asked_cases requested
  · rw [hall]
    exact ⟨fun hv => ⟨hv, .inr hempty⟩, And.left⟩
  · rw [hselected]
    refine and_congr_right fun _ => ⟨.inl, ?_⟩
    rintro (hmem | hempty)
    · exact hmem
    · exact absurd (hempty name hname) hne

theorem selected_eq (requested : List String) :
    selected requested = voices.filter fun v => IsFor requested v := by
  refine List.filter_congr fun v hv => ?_
  have hmem : v ∈ selected requested ↔ IsFor requested v :=
    mem_selected_iff.trans (and_iff_right hv)
  rw [selected, List.mem_filter, and_iff_right hv] at hmem
  rw [Bool.eq_iff_iff, hmem, decide_eq_true_iff]

theorem nodup_namesFor (requested : List String) : (namesFor requested).Nodup := by
  have hnames : (voices.map Voice.name).Nodup := by decide +kernel
  exact hnames.sublist (List.filter_sublist.map Voice.name)

theorem SameNames.symm (h : SameNames requested requested') : SameNames requested' requested :=
  fun name hne => (h name hne).symm

theorem SameNames.isFor (h : SameNames requested requested') (hv : v ∈ voices)
    (hfor : IsFor requested v) : IsFor requested' v := by
  rcases hfor with hmem | hempty
  · exact .inl ((h v.name (name_ne_empty hv)).1 hmem)
  · right
    intro name hname
    by_contra hne
    exact hne (hempty name ((h name hne).2 hname))

theorem SameNames.selected (h : SameNames requested requested') :
    selected requested = selected requested' := by
  rw [selected_eq, selected_eq]
  refine List.filter_congr fun v hv => ?_
  rw [Bool.eq_iff_iff, decide_eq_true_iff, decide_eq_true_iff]
  exact ⟨h.isFor hv, h.symm.isFor hv⟩

theorem SameNames.exists_name (h : SameNames requested requested')
    (hname : ∃ name ∈ requested, name ≠ "") : ∃ name ∈ requested', name ≠ "" := by
  obtain ⟨name, hmem, hne⟩ := hname
  exact ⟨name, (h name hne).1 hmem, hne⟩

namespace Places

/-! ## One check -/

theorem sorts_check (p : Places) (d : Disk) (requested : List String) :
    (p.check d requested).Sorts (namesFor requested) := by
  have hnames : namesFor requested = (selected requested).map Voice.name := by
    rw [selected_eq, namesFor]
  refine ⟨nodup_namesFor requested, ?_, ?_, ?_⟩
  · rw [available_check, hnames]
    exact List.filter_sublist.map Voice.name
  · rw [unavailable_check, hnames]
    exact List.filter_sublist.map Voice.name
  · rw [available_check, unavailable_check, hnames, ← List.map_append]
    exact (List.filter_append_perm _ _).map Voice.name

theorem check_congr (h : SameNames requested requested') :
    p.check d requested = p.check d requested' := by
  have hany : requested.any (· != "") = requested'.any (· != "") := by
    rw [Bool.eq_iff_iff]
    simpa using Iff.intro h.exists_name h.symm.exists_name
  simp only [check, h.selected, hany]

/-! ## More data -/

section More

variable (hmore : ∀ path, d.exists? path = true → d'.exists? path = true)

include hmore

theorem installed_grows (h : p.installed d v = true) : p.installed d' v = true := by
  rw [installed_iff] at h ⊢
  intro name hname
  exact (h name hname).imp (hmore _) (hmore _)

theorem available_grows :
    (p.check d requested).available ⊆ (p.check d' requested).available := by
  rw [available_check, available_check]
  refine List.map_subset _ fun v hv => ?_
  obtain ⟨hselected, hinstalled⟩ := List.mem_filter.1 hv
  exact List.mem_filter.2 ⟨hselected, installed_grows hmore hinstalled⟩

theorem fail_of_fail (h : (p.check d' requested).verdict = .fail) :
    (p.check d requested).verdict = .fail := by
  rw [verdict_eq_fail_iff] at h ⊢
  obtain ⟨hnamed, hmissing⟩ := h
  refine ⟨hnamed, fun v hv => ?_⟩
  by_contra hinstalled
  rw [Bool.not_eq_false] at hinstalled
  have hthere := installed_grows hmore hinstalled
  rw [hmissing v hv] at hthere
  contradiction

theorem pass_of_pass (h : (p.check d requested).verdict = .pass) :
    (p.check d' requested).verdict = .pass := by
  rw [verdict_eq_pass_iff] at h ⊢
  obtain ⟨hnot, hinstalled⟩ := h
  exact ⟨fun hfail => hnot (fail_of_fail hmore hfail),
    fun v hv => installed_grows hmore (hinstalled v hv)⟩

end More

/-- Two requests for the same names are answered alike where the same files are. Each lists the voices that
it is for, once, in the order of the table. Where more is there, all that was available still is, and the
verdict is at least as good. -/
theorem check_grows (p : Places) (hsame : SameNames requested requested')
    (hmore : ∀ path, d.exists? path = true → d'.exists? path = true) :
    p.check d requested = p.check d requested' ∧
      (p.check d requested).Sorts (namesFor requested) ∧
      (p.check d' requested').Sorts (namesFor requested') ∧
      (p.check d requested).available ⊆ (p.check d' requested').available ∧
      (p.check d requested).verdict.rank ≤ (p.check d' requested').verdict.rank := by
  have hlike : p.check d' requested' = p.check d' requested := check_congr hsame.symm
  refine ⟨check_congr hsame, sorts_check p d requested, sorts_check p d' requested', ?_, ?_⟩
  · rw [hlike]
    exact available_grows hmore
  · rw [hlike, Verdict.rank_le_iff]
    exact ⟨pass_of_pass hmore, fail_of_fail hmore⟩

/-- A tree with half of the data of the American voice. -/
def halfData : Disk :=
  ⟨[], [(["user"], .directory), (["system"], .directory), (["user", "en-US_ta.bin"], .file [3])]⟩

/-- The tree with the other half as well, in the other directory. -/
def wholeData : Disk :=
  halfData.put ["system", "en-US_lh0_sg.bin"] (.file [4])

theorem check_grows_wholeData :
    SameNames ["eng-USA", "deu-DEU"] ["deu-DEU", "", "eng-USA", "deu-DEU"] ∧
      (∀ path, halfData.exists? path = true → wholeData.exists? path = true) ∧
      (twoPlaces.check halfData ["eng-USA", "deu-DEU"]).verdict = .fail ∧
      (twoPlaces.check wholeData ["deu-DEU", "", "eng-USA", "deu-DEU"]).verdict = .missingData ∧
      (twoPlaces.check wholeData ["deu-DEU", "", "eng-USA", "deu-DEU"]).Sorts
        ["eng-USA", "deu-DEU"] := by
  have hsame : SameNames ["eng-USA", "deu-DEU"] ["deu-DEU", "", "eng-USA", "deu-DEU"] := by
    intro name hne
    simp [hne, or_comm]
  have hmore : ∀ path, halfData.exists? path = true → wholeData.exists? path = true := by
    intro path
    refine Disk.exists?_keeps rfl fun x n hx => ?_
    rw [wholeData, Disk.find?_put (by simp)]
    split_ifs with hnew
    · subst hnew
      have hfree : halfData.find? ["system", "en-US_lh0_sg.bin"] = none := rfl
      rw [hfree] at hx
      contradiction
    · exact hx
  obtain ⟨-, -, hsorts, -, -⟩ := check_grows twoPlaces hsame hmore
  have hnames : namesFor ["deu-DEU", "", "eng-USA", "deu-DEU"] = ["eng-USA", "deu-DEU"] := by
    decide +kernel
  rw [hnames] at hsorts
  exact ⟨hsame, hmore, by decide +kernel, by decide +kernel, hsorts⟩

end Places

end SpeechHost.Voice
