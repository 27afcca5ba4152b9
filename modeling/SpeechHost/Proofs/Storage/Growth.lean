import SpeechHost.Proofs.Storage.Request
/-!
# Directories that are made upwards

Making a directory and those above it adds directories on the way of the path and does nothing else,
also when it stops half way (`grows_makeDirectories`); when it does not stop, the whole way consists of
directories (`makeDirectories_ok`).
-/

namespace SpeechHost.Storage.Disk

open SpeechHost.Storage.Path

variable {d d' d'' : Disk} {p : Path}

/-- The tree with directories added at some of the places `W`, where nothing stood. -/
structure Grows (W : Location → Prop) (d d' : Disk) : Prop where
  cwd : d'.cwd = d.cwd
  find? : ∀ l, d'.find? l = d.find? l ∨
    (W l ∧ d.find? l = none ∧ d'.find? l = some .directory)

namespace Grows

variable {W V : Location → Prop}

theorem refl (W : Location → Prop) (d : Disk) : Grows W d d :=
  ⟨rfl, fun _ => .inl rfl⟩

theorem mono (h : Grows W d d') (hW : ∀ l, W l → V l) : Grows V d d' :=
  ⟨h.cwd, fun l => (h.find? l).imp_right fun ⟨hl, hrest⟩ => ⟨hW l hl, hrest⟩⟩

theorem trans (h : Grows W d d') (h' : Grows W d' d'') : Grows W d d'' := by
  refine ⟨h'.cwd.trans h.cwd, fun l => ?_⟩
  rcases h'.find? l with hl' | ⟨hW, hnone, hdir⟩
  · rw [hl']
    exact h.find? l
  · rcases h.find? l with hl | ⟨-, -, hd⟩
    · exact .inr ⟨hW, by rw [← hl, hnone], hdir⟩
    · rw [hnone] at hd
      contradiction

theorem keeps (h : Grows W d d') {l : Location} {n : Node} (hl : d.find? l = some n) :
    d'.find? l = some n := by
  rcases h.find? l with heq | ⟨-, hnone, -⟩
  · rw [heq, hl]
  · rw [hl] at hnone
    contradiction

end Grows

/-- At most a directory stands at a place. -/
def NoFileAt (d : Disk) (l : Location) : Prop :=
  ∀ n, d.find? l = some n → n = .directory

theorem NoFileAt.grows {W : Location → Prop} {l : Location} (h : NoFileAt d l) (hgrows : Grows W d d') :
    NoFileAt d' l := by
  intro n hn
  rcases hgrows.find? l with hl | ⟨-, -, hdir⟩
  · exact h n (by rw [← hl, hn])
  · exact Option.some.inj (hn.symm.trans hdir)

theorem NoFileAt.eq_none {l : Location} (h : NoFileAt d l) (hdir : d.find? l ≠ some .directory) :
    d.find? l = none := by
  cases hl : d.find? l with
  | none => rfl
  | some n => exact absurd (hl.trans (congrArg some (h n hl))) hdir

/-- The places where directories can be made for a path: those that it passes, but none on the way to
where it starts. -/
def Ahead (d : Disk) (p : Path) (l : Location) : Prop :=
  l ∈ d.way p ∧ ¬ l <+: d.start p

theorem ahead_congr (h : d'.cwd = d.cwd) (p : Path) : d'.Ahead p = d.Ahead p := by
  funext l
  rw [Ahead, way_congr h, start_congr h, Ahead]

theorem grows_makeDirectory (h : d.makeDirectory p = .ok d') : Grows (d.Ahead p) d d' := by
  have hahead := makeDirectory_ahead h
  obtain ⟨hnil, hfree, rfl, -⟩ := makeDirectory_ok h
  refine ⟨rfl, fun l => ?_⟩
  rw [find?_put hnil]
  by_cases hl : l = d.destination p
  · subst hl
    exact .inr ⟨⟨destination_mem_way d p, hahead⟩, hfree, if_pos rfl⟩
  · exact .inl (if_neg hl)

theorem makeDirectory_way (h : d.makeDirectory p = .ok d') :
    ∀ x ∈ d.way p, d'.find? x = some .directory := by
  obtain ⟨hnil, -, rfl, hdirs⟩ := makeDirectory_ok h
  intro x hx
  rw [find?_put hnil]
  split_ifs with hxl
  · rfl
  · exact (hdirs x hx).resolve_left hxl

theorem ensureDirectory_spec (d : Disk) (p : Path) :
    Grows (d.Ahead p) d (ensureDirectory d p).2 ∧
      ((ensureDirectory d p).1 = .ok () →
        ∀ x ∈ d.way p, (ensureDirectory d p).2.find? x = some .directory) := by
  unfold ensureDirectory
  simp only [fileTree_makeDirectory, fileTree_isDirectory]
  cases hmade : d.makeDirectory p with
  | ok d' => exact ⟨grows_makeDirectory hmade, fun _ => makeDirectory_way hmade⟩
  | error e =>
    refine ⟨Grows.refl _ _, fun h => ?_⟩
    by_cases hdir : d.isDirectory p
    · exact isDirectory_ok hdir
    · simp [hdir] at h

theorem start_parent? {a : Path} (h : p.parent? = some a) (d : Disk) : d.start a = d.start p := by
  obtain ⟨habs, -⟩ := Path.way_parent h
  simp [start, habs]

theorem way_parent? {a : Path} (h : p.parent? = some a) (d : Disk) : d.way a ⊆ d.way p := by
  obtain ⟨-, hway⟩ := Path.way_parent h
  rw [way, way, start_parent? h]
  exact hway _

theorem ahead_parent? {a : Path} (h : p.parent? = some a) {l : Location} (hl : d.Ahead a l) :
    d.Ahead p l := by
  obtain ⟨hway, hnot⟩ := hl
  rw [start_parent? h] at hnot
  exact ⟨way_parent? h d hway, hnot⟩

theorem makeDirectoriesWithin_spec (p : Path) (depth : Nat) :
    ∀ d : Disk, Grows (d.Ahead p) d (makeDirectoriesWithin d p depth).2 ∧
      (p.isEmpty = false → (makeDirectoriesWithin d p depth).1 = .ok () →
        ∀ x ∈ d.way p, (makeDirectoriesWithin d p depth).2.find? x = some .directory) := by
  induction depth generalizing p with
  | zero => exact fun d => ⟨Grows.refl _ _, fun _ h => by simp [makeDirectoriesWithin] at h⟩
  | succ depth ih =>
    intro d
    unfold makeDirectoriesWithin
    simp only [fileTree_makeDirectory, fileTree_isDirectory]
    by_cases hempty : p.isEmpty
    · exact ⟨by simpa [hempty] using Grows.refl _ _, fun h => by simp [hempty] at h⟩
    rw [if_neg hempty]
    cases hmade : d.makeDirectory p with
    | ok d' => exact ⟨grows_makeDirectory hmade, fun _ _ => makeDirectory_way hmade⟩
    | error e =>
      cases e with
      | missing =>
        cases hparent : p.parent? with
        | none => exact ⟨Grows.refl _ _, fun _ h => by simp at h⟩
        | some above =>
          -- what is made above the path lies on its way
          obtain ⟨hgrows, -⟩ := ih above d
          have habove := hgrows.mono fun l hl => ahead_parent? hparent hl
          cases hrec : makeDirectoriesWithin d above depth with
          | mk r d₁ =>
            rw [hrec] at habove
            simp only [hrec]
            cases r with
            | error e => exact ⟨habove, fun _ h => by simp at h⟩
            | ok u =>
              obtain ⟨hlast, hdirs⟩ := ensureDirectory_spec d₁ p
              rw [ahead_congr habove.cwd] at hlast
              rw [way_congr habove.cwd] at hdirs
              exact ⟨habove.trans hlast, fun _ => hdirs⟩
      | _ =>
        refine ⟨Grows.refl _ _, fun _ h => ?_⟩
        by_cases hdir : d.isDirectory p
        · exact isDirectory_ok hdir
        · simp [hdir] at h

/-- Making directories adds directories on the way of the path, also when it fails. -/
theorem grows_makeDirectories (d : Disk) (p : Path) :
    Grows (· ∈ d.way p) d (d.makeDirectories p).2 :=
  (makeDirectoriesWithin_spec p _ d).1.mono fun _ hl => hl.1

theorem makeDirectories_ok (h : d.makeDirectories p = (.ok (), d')) (hp : p.isEmpty = false) :
    ∀ x ∈ d.way p, d'.find? x = some .directory := by
  have hspec := (makeDirectoriesWithin_spec p (p.pieces.length + 1) d).2 hp
  rw [show makeDirectoriesWithin d p (p.pieces.length + 1) = (.ok (), d') from h] at hspec
  exact hspec rfl

end SpeechHost.Storage.Disk
