import SpeechHost.Proofs.Storage.Growth
/-!
# Requests that are made again

A request that was granted on a tree is granted on another one as well, when that one has all the directories
of the first and nothing else in the way. For directories that are made upwards the other tree may hold some
of them already: they are refused one by one, and found (`makeDirectories_repeat`).
-/

namespace SpeechHost.Storage.Disk

open SpeechHost.Storage.Path

variable {d d' e : Disk} {p : Path}

/-- A tree that has the directories of another one. -/
structure Keeps (d d' : Disk) : Prop where
  cwd : d'.cwd = d.cwd
  dirs : ∀ l, d.find? l = some .directory → d'.find? l = some .directory

/-! ## Directories that are made upwards -/

theorem isDirectory_of_ensureDirectory (h : ensureDirectory d p = (.ok (), d')) :
    d'.isDirectory p := by
  unfold ensureDirectory at h
  simp only [fileTree_makeDirectory, fileTree_isDirectory] at h
  cases hmade : d.makeDirectory p with
  | ok d₁ =>
    obtain rfl : d₁ = d' := by simpa [hmade] using h
    exact isDirectory_of_makeDirectory hmade
  | error f =>
    by_cases hdir : d.isDirectory p
    · obtain rfl : d = d' := by simpa [hmade, hdir] using h
      exact hdir
    · simp [hmade, hdir] at h

theorem makeDirectoriesWithin_ok {depth : Nat} (hp : p.isEmpty = false)
    (h : makeDirectoriesWithin d p (depth + 1) = (.ok (), d')) :
    d.makeDirectory p = .ok d' ∨ (d.isDirectory p ∧ d' = d) ∨
      (d.makeDirectory p = .error .missing ∧ ∃ above mid, p.parent? = some above ∧
        makeDirectoriesWithin d above depth = (.ok (), mid) ∧
        ensureDirectory mid p = (.ok (), d')) := by
  unfold makeDirectoriesWithin at h
  simp only [fileTree_makeDirectory, fileTree_isDirectory] at h
  rw [if_neg (by simp [hp])] at h
  cases hmade : d.makeDirectory p with
  | ok d₁ =>
    obtain rfl : d₁ = d' := by simpa [hmade] using h
    exact .inl rfl
  | error f =>
    rw [hmade] at h
    cases f with
    | missing =>
      refine .inr (.inr ⟨rfl, ?_⟩)
      cases hparent : p.parent? with
      | none => simp [hparent] at h
      | some above =>
        rcases hrec : makeDirectoriesWithin d above depth with ⟨f | u, mid⟩
        · simp [hparent, hrec] at h
        · exact ⟨above, mid, rfl, hrec, by simpa [hparent, hrec] using h⟩
    | _ =>
      by_cases hdir : d.isDirectory p
      · exact .inr (.inl ⟨hdir, by simpa [hdir, eq_comm] using h⟩)
      · simp [hdir] at h

theorem isDirectory_of_makeDirectoriesWithin {depth : Nat} (hp : p.isEmpty = false)
    (h : makeDirectoriesWithin d p depth = (.ok (), d')) : d'.isDirectory p := by
  cases depth with
  | zero => simp [makeDirectoriesWithin] at h
  | succ depth =>
    rcases makeDirectoriesWithin_ok hp h with hmade | ⟨hdir, rfl⟩ | ⟨-, above, mid, -, -, hlast⟩
    · exact isDirectory_of_makeDirectory hmade
    · exact hdir
    · exact isDirectory_of_ensureDirectory hlast

/-! ## A path where nothing is in the way -/

theorem walk_clear {pieces : List String} {l l' : Location} (h : e.walk l pieces = .ok l')
    (hdirs : ∀ x ∈ Path.way l pieces, e.find? x = some .directory)
    (hclear : ∀ x ∈ Path.way l pieces, NoFileAt d x)
    (hstart : ∀ x, x <+: l → e.find? x = some .directory → d.find? x = some .directory) :
    (d.walk l pieces = .ok l' ∧ d.find? l' = some .directory) ∨ d.walk l pieces = .error .missing := by
  induction pieces generalizing l with
  | nil =>
    obtain rfl : l = l' := by simpa [walk] using h
    exact .inl ⟨rfl, hstart l List.prefix_rfl (hdirs l (start_mem_way ..))⟩
  | cons piece rest ih =>
    have he := hdirs l (start_mem_way ..)
    have hd := hstart l List.prefix_rfl he
    have hrest : ∀ x ∈ Path.way (step l piece) rest, x ∈ Path.way l (piece :: rest) :=
      fun x hx => mem_way_cons.2 (.inr hx)
    simp only [walk, isDirectoryAt_iff.2 he, isDirectoryAt_iff.2 hd, Bool.not_true,
      Bool.false_eq_true, if_false] at h ⊢
    unfold step at hrest
    split_ifs at h hrest ⊢ with hstay hup hlong
    · exact ih h (fun x hx => hdirs x (hrest x hx)) (fun x hx => hclear x (hrest x hx)) hstart
    · exact ih h (fun x hx => hdirs x (hrest x hx)) (fun x hx => hclear x (hrest x hx))
        fun x hx => hstart x (hx.trans (List.dropLast_prefix l))
    · have hnext := hrest _ (start_mem_way (l ++ [piece]) rest)
      rw [hdirs _ hnext] at h
      cases hfind : d.find? (l ++ [piece]) with
      | none => exact .inr rfl
      | some n =>
        obtain rfl := hclear _ hnext n hfind
        refine ih h (fun x hx => hdirs x (hrest x hx)) (fun x hx => hclear x (hrest x hx)) fun x hx hx' => ?_
        rcases List.prefix_concat_iff.1 hx with rfl | hx
        · exact hfind
        · exact hstart x hx hx'

/-- A directory of one tree can be made in another one, or it is there, or something above it is missing,
and nothing else can happen, when no file is in the way. -/
theorem makeDirectory_clear (hcwd : e.cwd = d.cwd) (he : e.isDirectory p)
    (hclear : ∀ x ∈ d.way p, NoFileAt d x)
    (hstart : ∀ x, x <+: d.start p → e.find? x = some .directory → d.find? x = some .directory) :
    (∃ d', d.makeDirectory p = .ok d') ∨ d.makeDirectory p = .error .missing ∨
      (d.makeDirectory p = .error .alreadyExists ∧ d.isDirectory p) := by
  obtain ⟨hcheck, l, hwalk, -⟩ := isDirectory_iff.1 he
  have hdirs := isDirectory_ok he
  rw [start_congr hcwd] at hwalk
  rw [way_congr hcwd] at hdirs
  rcases walk_clear hwalk hdirs hclear hstart with ⟨hok, hl⟩ | hmissing
  · have hdir : d.isDirectory p := isDirectory_iff.2 ⟨hcheck, l, hok, hl⟩
    exact .inr (.inr ⟨makeDirectory_of_isDirectory hdir, hdir⟩)
  · rcases makeDirectory_of_missing hcheck hmissing with h | h
    · exact .inr (.inl h)
    · exact .inl h

theorem makeDirectory_not_missing (hkeeps : Keeps d d')
    (h : (∃ d₁, d.makeDirectory p = .ok d₁) ∨ d.isDirectory p) :
    d'.makeDirectory p ≠ .error .missing := by
  rcases h with ⟨d₁, h⟩ | h
  · obtain ⟨l, s, slash, hspot, -⟩ := makeDirectory_iff.1 h
    exact makeDirectory_ne_missing (spot_keeps hkeeps.cwd hkeeps.dirs hspot)
  · rw [makeDirectory_of_isDirectory (isDirectory_keeps hkeeps.cwd hkeeps.dirs h)]
    simp

theorem makeDirectory_repeat {mid : Disk} (hkeeps : Keeps d d') (hgrows : Grows (d.Ahead p) d mid)
    (hthere : mid.isDirectory p) (hclear : ∀ x ∈ d'.way p, NoFileAt d' x) :
    (∃ d₁, d'.makeDirectory p = .ok d₁) ∨ d'.makeDirectory p = .error .missing ∨
      (d'.makeDirectory p = .error .alreadyExists ∧ d'.isDirectory p) := by
  refine makeDirectory_clear (hgrows.cwd.trans hkeeps.cwd.symm) hthere hclear fun x hx hmid => ?_
  rw [start_congr hkeeps.cwd] at hx
  rcases hgrows.find? x with heq | ⟨⟨-, hahead⟩, -⟩
  · exact hkeeps.dirs x (heq ▸ hmid)
  · exact absurd hx hahead

theorem ensureDirectory_repeat {mid : Disk} (hkeeps : Keeps d d')
    (hclear : ∀ x ∈ d'.way p, NoFileAt d' x) (h : ensureDirectory d p = (.ok (), mid)) :
    ∃ mid', ensureDirectory d' p = (.ok (), mid') := by
  have hgrows := (ensureDirectory_spec d p).1
  rw [h] at hgrows
  have hmade : (∃ d₁, d.makeDirectory p = .ok d₁) ∨ d.isDirectory p := by
    unfold ensureDirectory at h
    simp only [fileTree_makeDirectory, fileTree_isDirectory] at h
    cases hmade : d.makeDirectory p with
    | ok d₁ => exact .inl ⟨d₁, rfl⟩
    | error f =>
      right
      by_contra hdir
      simp [hmade, hdir] at h
  unfold ensureDirectory
  simp only [fileTree_makeDirectory, fileTree_isDirectory]
  rcases makeDirectory_repeat hkeeps hgrows (isDirectory_of_ensureDirectory h) hclear with
    ⟨d₁, hok⟩ | hmissing | ⟨herror, hdir⟩
  · exact ⟨d₁, by rw [hok]⟩
  · exact absurd hmissing (makeDirectory_not_missing hkeeps hmade)
  · exact ⟨d', by simp [herror, hdir]⟩

theorem keeps_makeDirectoriesWithin {depth : Nat} {mid mid' : Disk} (hkeeps : Keeps d d')
    (h : makeDirectoriesWithin d p depth = (.ok (), mid))
    (h' : makeDirectoriesWithin d' p depth = (.ok (), mid')) : Keeps mid mid' := by
  obtain ⟨hgrows, -⟩ := makeDirectoriesWithin_spec p depth d
  obtain ⟨hgrows', hway⟩ := makeDirectoriesWithin_spec p depth d'
  rw [h] at hgrows
  rw [h'] at hgrows' hway
  refine ⟨by rw [hgrows'.cwd, hkeeps.cwd, hgrows.cwd], fun l hl => ?_⟩
  rcases hgrows.find? l with heq | ⟨⟨hmem, -⟩, hnone, -⟩
  · exact hgrows'.keeps (hkeeps.dirs l (heq ▸ hl))
  · cases hp : p.isEmpty with
    | false => exact hway hp rfl l (by rwa [way_congr hkeeps.cwd])
    | true =>
      -- nothing is made for an empty path
      cases depth with
      | zero => simp [makeDirectoriesWithin] at h
      | succ depth =>
        obtain rfl : d = mid := by simpa [makeDirectoriesWithin, hp] using h
        simp [hnone] at hl

theorem makeDirectoriesWithin_repeat (p : Path) (depth : Nat) :
    ∀ {d d' mid : Disk}, Keeps d d' → (∀ x ∈ d'.way p, NoFileAt d' x) →
      makeDirectoriesWithin d p depth = (.ok (), mid) →
      ∃ mid', makeDirectoriesWithin d' p depth = (.ok (), mid') := by
  induction depth generalizing p with
  | zero =>
    intro d d' mid _ _ h
    simp [makeDirectoriesWithin] at h
  | succ depth ih =>
    intro d d' mid hkeeps hclear h
    cases hp : p.isEmpty with
    | true => exact ⟨d', by simp [makeDirectoriesWithin, hp]⟩
    | false =>
      have hgrows := (makeDirectoriesWithin_spec p (depth + 1) d).1
      rw [h] at hgrows
      rcases makeDirectory_repeat hkeeps hgrows (isDirectory_of_makeDirectoriesWithin hp h) hclear with
        ⟨d₁, hok⟩ | hmissing | ⟨herror, hdir⟩
      · exact ⟨d₁, by simp [makeDirectoriesWithin, hp, hok]⟩
      · -- what is missing in the other tree was missing in the first
        rcases makeDirectoriesWithin_ok hp h with hmade | ⟨hdir, -⟩ |
            ⟨-, above, d₁, hparent, habove, hlast⟩
        · exact absurd hmissing (makeDirectory_not_missing hkeeps (.inl ⟨mid, hmade⟩))
        · exact absurd hmissing (makeDirectory_not_missing hkeeps (.inr hdir))
        · obtain ⟨d₁', habove'⟩ :=
            ih above hkeeps (fun x hx => hclear x (way_parent? hparent d' hx)) habove
          have hgrows' := (makeDirectoriesWithin_spec above depth d').1
          rw [habove'] at hgrows'
          have hclear' : ∀ x ∈ d₁'.way p, NoFileAt d₁' x := fun x hx =>
            (hclear x (by rwa [way_congr hgrows'.cwd] at hx)).grows hgrows'
          obtain ⟨mid', hlast'⟩ := ensureDirectory_repeat
            (keeps_makeDirectoriesWithin hkeeps habove habove') hclear' hlast
          exact ⟨mid', by simp [makeDirectoriesWithin, hp, hmissing, hparent, habove', hlast']⟩
      · exact ⟨d', by simp [makeDirectoriesWithin, hp, herror, hdir]⟩

/-- Directories that were made upwards can be made upwards where some of them are there already. -/
theorem makeDirectories_repeat {mid : Disk} (hkeeps : Keeps d d')
    (hclear : ∀ x ∈ d'.way p, NoFileAt d' x) (h : d.makeDirectories p = (.ok (), mid)) :
    ∃ mid', d'.makeDirectories p = (.ok (), mid') ∧ Keeps mid mid' := by
  obtain ⟨mid', h'⟩ := makeDirectoriesWithin_repeat p (p.pieces.length + 1) hkeeps hclear h
  exact ⟨mid', h', keeps_makeDirectoriesWithin hkeeps h h'⟩

/-! ## Files -/

theorem writeFileAt_repeat {content content' : Bytes} {l : Location} {d₁ : Disk}
    (hkeeps : Keeps d d') (hfree : d'.find? (d.destination p) ≠ some .directory)
    (h : d.writeFileAt p content = .ok (l, d₁)) :
    d'.writeFileAt p content' = .ok (l, d'.put l (.file content')) := by
  obtain ⟨v, s, hspot, hname, -, rfl, -⟩ := writeFileAt_iff.1 h
  obtain ⟨hdest, -⟩ := spot_name hspot
  rw [← hdest] at hfree
  exact writeFileAt_iff.2 ⟨v, s, spot_keeps hkeeps.cwd hkeeps.dirs hspot, hname, hfree, rfl, rfl⟩

end SpeechHost.Storage.Disk
