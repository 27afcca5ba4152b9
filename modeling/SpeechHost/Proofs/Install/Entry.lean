import SpeechHost.Proofs.Install.File
import SpeechHost.Proofs.Storage.Growth
/-!
# What one entry does to the tree

An entry makes directories on its way, and nothing else where it is a directory
(`installEntry_directory_ok`); a file is then put in its place (`installEntry_file_ok`). When an entry
fails, the directories that were made stay, and no incomplete file does (`installEntry_error`).
-/

namespace SpeechHost.Install

open SpeechHost.Storage SpeechHost.Storage.Path SpeechHost.Zip

variable {d d' : Disk} {target : Path} {v : Delivery}

/-! ## Directories above a file -/

theorem makeDirectories_eq (p : Path) (d : Disk) :
    makeDirectories p d =
      ((d.makeDirectories p).1.mapError fun f => .entry p (.storage f), (d.makeDirectories p).2) := by
  unfold makeDirectories
  rw [Disk.storage_makeDirectories]
  rcases h : d.makeDirectories p with ⟨_ | _, d₁⟩ <;> rfl

theorem makeDirectories_ok {p : Path} (h : makeDirectories p d = (.ok (), d')) :
    d.makeDirectories p = (.ok (), d') := by
  rw [makeDirectories_eq] at h
  rcases hmade : d.makeDirectories p with ⟨_ | _, d₁⟩
  · simp [hmade, Except.mapError] at h
  · simpa [hmade, Except.mapError] using h

theorem grows_makeDirectories (p : Path) (d : Disk) :
    Disk.Grows (· ∈ d.way p) d (makeDirectories p d).2 := by
  rw [makeDirectories_eq]
  exact Disk.grows_makeDirectories d p

/-- What is left when the directories above a path were made, if it has any above it. -/
def MadeAbove (target : Path) (d mid : Disk) : Prop :=
  match target.parent? with
  | some above => d.makeDirectories above = (.ok (), mid)
  | none => d = mid

theorem placeFile_ok_iff : placeFile v target d = (.ok (), d') ↔
    ∃ mid, MadeAbove target d mid ∧ writeEntry v target mid = (.ok (), d') := by
  unfold placeFile MadeAbove
  cases target.parent? with
  | none =>
    rcases hwrite : writeEntry v target d with ⟨cause | u, d₁⟩ <;> simp [hwrite]
  | some above =>
    rcases hmade : d.makeDirectories above with ⟨f | u, mid⟩
    · simp [makeDirectories, hmade]
    · rcases hwrite : writeEntry v target mid with ⟨cause | u, d₁⟩ <;>
        simp [makeDirectories, hmade, hwrite]

theorem MadeAbove.grows {mid : Disk} (h : MadeAbove target d mid) :
    Disk.Grows (fun l => ∃ above, target.parent? = some above ∧ l ∈ d.way above) d mid := by
  unfold MadeAbove at h
  cases hparent : target.parent? with
  | none =>
    simp only [hparent] at h
    exact h ▸ Disk.Grows.refl _ d
  | some above =>
    simp only [hparent] at h
    have hgrows := Disk.grows_makeDirectories d above
    rw [h] at hgrows
    exact hgrows.mono fun l hl => ⟨above, rfl, hl⟩

theorem placeFile_error {error : InstallError} (h : placeFile v target d = (.error error, d')) :
    ∃ mid, Disk.Grows (fun l => ∃ above, target.parent? = some above ∧ l ∈ d.way above) d mid ∧
      (d' = mid ∨ ∃ cause, writeEntry v target mid = (.error cause, d')) := by
  unfold placeFile at h
  cases hparent : target.parent? with
  | none =>
    refine ⟨d, Disk.Grows.refl _ d, .inr ?_⟩
    rcases hwrite : writeEntry v target d with ⟨cause | u, d₁⟩ <;> simp_all
  | some above =>
    have hgrows := grows_makeDirectories above d
    rcases hmade : makeDirectories above d with ⟨f | u, mid⟩
    · rw [hmade] at hgrows
      exact ⟨mid, hgrows.mono fun l hl => ⟨above, rfl, hl⟩, .inl (by simp_all)⟩
    · rw [hmade] at hgrows
      refine ⟨mid, hgrows.mono fun l hl => ⟨above, rfl, hl⟩, .inr ?_⟩
      rcases hwrite : writeEntry v target mid with ⟨cause | u, d₁⟩ <;> simp_all

/-! ## An entry -/

variable {decoder : Decoder} {bytes : Bytes} {root : Path} {e : Entry}

/-- The places at which directories are made for an entry: those that the path of a directory passes,
or of what is above a file. -/
def madeWay (d : Disk) (root : Path) (e : Entry) : List Location :=
  if e.isDirectory then entryWay d root e
  else match (entryPath root e).parent? with
    | some above => d.way above
    | none => []

theorem entryPlace_congr (h : d'.cwd = d.cwd) (root : Path) (e : Entry) :
    entryPlace d' root e = entryPlace d root e :=
  Disk.destination_congr h _

theorem partialPlace_congr (h : d'.cwd = d.cwd) (root : Path) (e : Entry) :
    partialPlace d' root e = partialPlace d root e :=
  Disk.destination_congr h _

theorem entryWay_congr (h : d'.cwd = d.cwd) (root : Path) (e : Entry) :
    entryWay d' root e = entryWay d root e :=
  Disk.way_congr h _

theorem madeWay_congr (h : d'.cwd = d.cwd) (root : Path) (e : Entry) :
    madeWay d' root e = madeWay d root e := by
  simp only [madeWay, entryWay_congr h, Disk.way_congr h]

theorem openEntry_ok {data : Bytes} (h : openEntry bytes root e = .ok (target, data)) :
    e.locate bytes = .ok data ∧ target = entryPath root e ∧ ∃ p, e.path? = some p := by
  unfold openEntry at h
  obtain ⟨data', hdata, h⟩ := bind_ok h
  cases hp : e.path? with
  | none => simp [hp] at h
  | some p =>
    obtain ⟨rfl, -, -⟩ := of_path? hp
    obtain ⟨rfl, rfl⟩ : entryPath root e = target ∧ data' = data := by
      simpa [hp, entryPath] using h
    refine ⟨?_, rfl, _, rfl⟩
    cases hl : e.locate bytes with
    | ok data'' => simpa [hl, Except.mapError] using hdata
    | error error => simp [hl, Except.mapError] at hdata

theorem mem_madeWay_file (hfile : e.isDirectory = false) {l : Location}
    (h : ∃ above, (entryPath root e).parent? = some above ∧ l ∈ d.way above) :
    l ∈ madeWay d root e := by
  obtain ⟨above, hparent, hl⟩ := h
  simpa [madeWay, hfile, hparent] using hl

/-- A file that was installed: its data arrived whole and was put in its place, below directories that
were made for it. -/
theorem installEntry_file_ok (hfile : e.isDirectory = false)
    (h : installEntry decoder bytes root e d = (.ok (), d')) :
    ∃ content mid, payload? decoder bytes e = some content ∧
      Disk.Grows (· ∈ madeWay d root e) d mid ∧
      Placed content (entryPlace d root e) (partialPlace d root e) mid d' ∧
      (∀ x ∈ entryWay d root e, x = entryPlace d root e ∨ mid.find? x = some .directory) ∧
      (∃ p, e.path? = some p) ∧
      ∃ l s, s ∈ (Path.ofString e.name).pieces ∧ entryPlace d root e = l ++ [s] := by
  unfold installEntry at h
  cases hopen : openEntry bytes root e with
  | error error => simp [hopen] at h
  | ok r =>
    obtain ⟨target, data⟩ := r
    obtain ⟨hdata, rfl, p, hpath⟩ := openEntry_ok hopen
    simp only [hopen, hfile, Bool.false_eq_true, if_false] at h
    obtain ⟨mid, hmade, hwrite⟩ := placeFile_ok_iff.1 h
    have hgrows := hmade.grows
    obtain ⟨content, hcontent, hplaced, hway, l, s, hlast, hl⟩ := writeEntry_ok hwrite
    have hcwd := hgrows.cwd
    rw [Disk.destination_congr hcwd, Disk.destination_congr hcwd] at hplaced
    rw [Disk.destination_congr hcwd, Disk.way_congr hcwd] at hway
    rw [Disk.destination_congr hcwd] at hl
    refine ⟨content, mid, by rw [payload?, hdata, ← hcontent],
      hgrows.mono fun x hx => mem_madeWay_file hfile hx, hplaced, hway, ⟨p, hpath⟩, l, s, ?_, hl⟩
    obtain ⟨b, -, -, hjoin⟩ := root.join_pieces
    obtain ⟨rfl, habs, -⟩ := of_path? hpath
    rw [entryPath, hjoin _ habs, List.getLast?_append_of_ne_nil _ (ofString_ne_nil _)] at hlast
    exact List.mem_of_getLast? hlast

theorem not_isEmpty_entryPath (hdir : e.isDirectory) {p : Path} (hpath : e.path? = some p) :
    (entryPath root e).isEmpty = false := by
  obtain ⟨rfl, habs, -⟩ := of_path? hpath
  refine isEmpty_join habs ?_
  by_contra hempty
  have hname := eq_nil_of_isEmpty_ofString (by simpa using hempty)
  simp [Entry.isDirectory, hname] at hdir

theorem installEntry_directory_ok (hdir : e.isDirectory)
    (h : installEntry decoder bytes root e d = (.ok (), d')) :
    Disk.Grows (· ∈ madeWay d root e) d d' ∧
      ∀ x ∈ entryWay d root e, d'.find? x = some .directory := by
  unfold installEntry at h
  cases hopen : openEntry bytes root e with
  | error error => simp [hopen] at h
  | ok r =>
    obtain ⟨target, data⟩ := r
    obtain ⟨-, rfl, p, hpath⟩ := openEntry_ok hopen
    simp only [hopen, hdir, if_true] at h
    have hmade := makeDirectories_ok h
    have hgrows := Disk.grows_makeDirectories d (entryPath root e)
    rw [hmade] at hgrows
    refine ⟨hgrows.mono fun l hl => by rwa [madeWay, if_pos hdir], ?_⟩
    exact Disk.makeDirectories_ok hmade (not_isEmpty_entryPath hdir hpath)

/-- An entry that failed left directories that were made for it, and no incomplete file. -/
theorem installEntry_error {error : InstallError}
    (h : installEntry decoder bytes root e d = (.error error, d')) :
    ∃ mid, Disk.Grows (· ∈ madeWay d root e) d mid ∧
      (d' = mid ∨ ((∃ p, e.path? = some p) ∧ Undone (partialPlace d root e) mid d')) := by
  unfold installEntry at h
  cases hopen : openEntry bytes root e with
  | error error' =>
    simp only [hopen, Prod.mk.injEq] at h
    exact ⟨d, Disk.Grows.refl _ d, .inl h.2.symm⟩
  | ok r =>
    obtain ⟨target, data⟩ := r
    obtain ⟨-, rfl, p, hpath⟩ := openEntry_ok hopen
    by_cases hdir : e.isDirectory
    · simp only [hopen, hdir, if_true] at h
      have hgrows := grows_makeDirectories (entryPath root e) d
      rw [h] at hgrows
      exact ⟨d', hgrows.mono fun l hl => by rwa [madeWay, if_pos hdir], .inl rfl⟩
    · simp only [hopen, if_neg hdir] at h
      obtain ⟨mid, hgrows, hleft⟩ := placeFile_error h
      refine ⟨mid, hgrows.mono fun x hx => mem_madeWay_file (by simpa using hdir) hx, ?_⟩
      refine hleft.imp_right fun ⟨cause, hwrite⟩ => ⟨⟨p, hpath⟩, ?_⟩
      have hundone := writeEntry_error hwrite
      rwa [Disk.destination_congr hgrows.cwd] at hundone

/-! ## Entries in order -/

variable {s s' : Summary} {es as bs : List Entry}

theorem installEntries_cons_ok
    (h : installEntries decoder bytes root s d (e :: es) = (.ok s', d')) :
    ∃ mid, installEntry decoder bytes root e d = (.ok (), mid) ∧
      installEntries decoder bytes root (s.add e) mid es = (.ok s', d') := by
  rw [installEntries] at h
  rcases hstep : installEntry decoder bytes root e d with ⟨error | _, mid⟩
  · simp [hstep] at h
  · rw [hstep] at h
    exact ⟨mid, rfl, h⟩

theorem installEntries_append_ok
    (h : installEntries decoder bytes root s d (as ++ bs) = (.ok s', d')) :
    ∃ r mid, installEntries decoder bytes root s d as = (.ok r, mid) ∧
      installEntries decoder bytes root r mid bs = (.ok s', d') := by
  induction as generalizing s d with
  | nil => exact ⟨s, d, rfl, h⟩
  | cons e as ih =>
    obtain ⟨mid, hstep, hrest⟩ := installEntries_cons_ok h
    rw [installEntries, hstep]
    exact ih hrest

theorem cwd_installEntry (h : installEntry decoder bytes root e d = (.ok (), d')) :
    d'.cwd = d.cwd := by
  cases hdir : e.isDirectory with
  | false =>
    obtain ⟨content, mid, -, hgrows, hplaced, -⟩ := installEntry_file_ok hdir h
    rw [hplaced.cwd, hgrows.cwd]
  | true => exact (installEntry_directory_ok hdir h).1.cwd

theorem cwd_installEntries (h : installEntries decoder bytes root s d es = (.ok s', d')) :
    d'.cwd = d.cwd := by
  induction es generalizing s d with
  | nil => exact (congrArg (·.2.cwd) h).symm
  | cons e es ih =>
    obtain ⟨mid, hstep, hrest⟩ := installEntries_cons_ok h
    rw [ih hrest, cwd_installEntry hstep]

end SpeechHost.Install
