import SpeechHost.Proofs.Install.Survival
/-!
# What an extraction leaves behind

Where no name ends like that of an incomplete file, an extraction puts the entries before the first
that fails over what was there, and does nothing else (`extract_overlays`): the entry that fails adds
directories on its way at most, whatever went wrong with it and after however many blocks.

`Overlaid` says how the disk is then. Each step keeps it: directories that are made for an entry
(`Overlaid.grow`), a file that is put in its place (`Overlaid.place`), a file that could not be
(`Overlaid.undo`).
-/

namespace SpeechHost.Install

open SpeechHost.Storage SpeechHost.Storage.Disk SpeechHost.Zip

variable {decoder : Decoder} {bytes : Bytes} {root : Path} {before mid after : Disk} {e : Entry}
  {done es : List Entry} {s : Summary}

/-- Whether no piece of the name of an entry ends like that of an incomplete file. -/
def PlainName (e : Entry) : Prop :=
  ∀ piece ∈ (Path.ofString e.name).pieces, ¬ EndsPartial piece

instance (e : Entry) : Decidable (PlainName e) :=
  inferInstanceAs (Decidable (∀ piece ∈ (Path.ofString e.name).pieces, ¬ EndsPartial piece))

/-- How many entries are installed before the first that fails. -/
def completed (decoder : Decoder) (bytes : Bytes) (root : Path) (d : Disk) : List Entry → Nat
  | [] => 0
  | e :: es =>
    match installEntry decoder bytes root e d with
    | (.ok (), d) => completed decoder bytes root d es + 1
    | (.error _, _) => 0

/-- A disk on which the entries `done` were put over what stood there before, when nothing else was
done but for directories on the way of an entry that failed. -/
structure Overlaid (decoder : Decoder) (bytes : Bytes) (root : Path) (before : Disk)
    (done : List Entry) (failing : Option Entry) (after : Disk) : Prop where
  cwd : after.cwd = before.cwd
  /-- The last file that was put at a place is there, and it is complete. -/
  files : ∀ as e bs, done = as ++ e :: bs → e.isDirectory = false →
    (∀ f ∈ bs, f.isDirectory = false → entryPlace before root f ≠ entryPlace before root e) →
    ∃ content, payload? decoder bytes e = some content ∧
      after.find? (entryPlace before root e) = some (.file content)
  /-- Directories are there, and those on the way of any entry. -/
  ways : ∀ e ∈ done, ∀ l ∈ entryWay before root e,
    (e.isDirectory = false ∧ l = entryPlace before root e) ∨ after.find? l = some .directory
  /-- What else there is stood there before, or is a directory that was made on the way. -/
  others : ∀ l, (∀ e ∈ done, e.isDirectory = false → entryPlace before root e ≠ l) →
    after.find? l = before.find? l ∨
      (before.find? l = none ∧ after.find? l = some .directory ∧
        ∃ e ∈ done ++ failing.toList, l ∈ madeWay before root e)
  /-- No incomplete file is left. -/
  noPartial : ∀ l s, before.destination root <+: l → EndsPartial s → NoFileAt after (l ++ [s])

theorem append_singleton_eq_append_cons {f : Entry} {as bs : List Entry}
    (h : done ++ [e] = as ++ f :: bs) :
    (f = e ∧ bs = []) ∨ ∃ cs, bs = cs ++ [e] ∧ done = as ++ f :: cs := by
  rcases bs.eq_nil_or_concat with rfl | ⟨cs, g, rfl⟩
  · obtain ⟨-, heq⟩ := List.append_inj' h rfl
    exact .inl ⟨(List.singleton_inj.1 heq).symm, rfl⟩
  · rw [List.concat_eq_append, ← List.cons_append, ← List.append_assoc] at h
    obtain ⟨hdone, heq⟩ := List.append_inj' h rfl
    obtain rfl : e = g := List.singleton_inj.1 heq
    exact .inr ⟨cs, List.concat_eq_append, hdone⟩

namespace Overlaid

theorem unchanged (hfree : ∀ l s, before.destination root <+: l → EndsPartial s →
    NoFileAt before (l ++ [s])) : Overlaid decoder bytes root before [] none before := by
  refine ⟨rfl, ?_, by simp, fun l _ => .inl rfl, hfree⟩
  intro as e bs h
  simp at h

theorem start (hfree : ∀ l s, before.destination root <+: l → EndsPartial s →
    before.find? (l ++ [s]) = none) : Overlaid decoder bytes root before [] none before := by
  apply unchanged
  intro l s hl hs n hn
  rw [hfree l s hl hs] at hn
  contradiction

theorem congr {failing : Option Entry} (h : Overlaid decoder bytes root before done failing mid)
    (hcwd : after.cwd = mid.cwd) (hfind : ∀ l, after.find? l = mid.find? l) :
    Overlaid decoder bytes root before done failing after := by
  refine ⟨hcwd.trans h.cwd, ?_, ?_, ?_, ?_⟩
  · simpa only [hfind] using h.files
  · simpa only [hfind] using h.ways
  · simpa only [hfind] using h.others
  · simpa only [NoFileAt, hfind] using h.noPartial

theorem grow (h : Overlaid decoder bytes root before done none mid)
    (hgrows : Grows (· ∈ madeWay before root e) mid after) :
    Overlaid decoder bytes root before done (some e) after := by
  refine ⟨hgrows.cwd.trans h.cwd, ?_, ?_, ?_, ?_⟩
  · intro as f bs hdone hfile hlast
    obtain ⟨content, hpayload, hfind⟩ := h.files as f bs hdone hfile hlast
    exact ⟨content, hpayload, hgrows.keeps hfind⟩
  · intro f hf l hl
    exact (h.ways f hf l hl).imp_right hgrows.keeps
  · intro l hl
    rcases hgrows.find? l with heq | ⟨hmade, hnone, hdir⟩
    · rw [heq]
      refine (h.others l hl).imp_right fun ⟨hb, ha, f, hf, hway⟩ => ⟨hb, ha, f, ?_, hway⟩
      simp only [Option.toList_none, List.append_nil] at hf
      exact List.mem_append_left _ hf
    · rcases h.others l hl with hsame | ⟨-, hd, -⟩
      · exact .inr ⟨by rw [← hsame, hnone], hdir, e, by simp, hmade⟩
      · rw [hnone] at hd
        contradiction
  · intro l s hl hs
    exact (h.noPartial l s hl hs).grows hgrows

theorem partial_free {failing : Option Entry} {p : Path}
    (h : Overlaid decoder bytes root before done failing mid) (hpath : e.path? = some p)
    (hdir : mid.find? (partialPlace before root e) ≠ some .directory) :
    mid.find? (partialPlace before root e) = none := by
  obtain ⟨l, s, hplace, hl⟩ := partialPlace_eq hpath before root
  rw [hplace] at hdir ⊢
  exact (h.noPartial l _ hl (endsPartial_append s)).eq_none hdir

theorem undo {failing : Option Entry} {p : Path}
    (h : Overlaid decoder bytes root before done failing mid) (hpath : e.path? = some p)
    (hundone : Undone (partialPlace before root e) mid after) :
    Overlaid decoder bytes root before done failing after := by
  refine h.congr hundone.cwd fun l => ?_
  rcases hundone.find? l with heq | ⟨rfl, hdir, hnone⟩
  · exact heq
  · rw [hnone, h.partial_free hpath hdir]

theorem place {content : Bytes} {p : Path}
    (h : Overlaid decoder bytes root before done (some e) mid) (hfile : e.isDirectory = false)
    (hpayload : payload? decoder bytes e = some content) (hpath : e.path? = some p)
    (hplain : PlainName e) (hname : ∃ l s, s ∈ (Path.ofString e.name).pieces ∧
      entryPlace before root e = l ++ [s])
    (hway : ∀ l ∈ entryWay before root e,
      l = entryPlace before root e ∨ mid.find? l = some .directory)
    (hplaced : Placed content (entryPlace before root e) (partialPlace before root e) mid after) :
    Overlaid decoder bytes root before (done ++ [e]) none after := by
  have hfind : ∀ l, after.find? l =
      if l = entryPlace before root e then some (.file content) else mid.find? l := by
    intro l
    rw [hplaced.find?]
    split_ifs with _ hpartial
    · rfl
    · rw [hpartial, h.partial_free hpath hplaced.otherFree]
    · rfl
  refine ⟨hplaced.cwd.trans h.cwd, ?_, ?_, ?_, ?_⟩
  · intro as f bs hdone hf hlast
    rcases append_singleton_eq_append_cons hdone with ⟨rfl, rfl⟩ | ⟨cs, rfl, rfl⟩
    · exact ⟨content, hpayload, by rw [hfind, if_pos rfl]⟩
    · obtain ⟨content', hpayload', hthere⟩ := h.files as f cs rfl hf fun g hg => hlast g (by simp [hg])
      refine ⟨content', hpayload', ?_⟩
      rw [hfind, if_neg (Ne.symm (hlast e (by simp) hfile)), hthere]
  · have hdirs : ∀ l, mid.find? l = some .directory → after.find? l = some .directory := fun l hl =>
      hplaced.keeps hl
    intro f hf l hl
    rcases List.mem_append.1 hf with hf | hf
    · exact (h.ways f hf l hl).imp_right (hdirs l)
    · obtain rfl := List.mem_singleton.1 hf
      exact (hway l hl).imp (fun heq => ⟨hfile, heq⟩) (hdirs l)
  · intro l hl
    have hne : l ≠ entryPlace before root e := Ne.symm (hl e (by simp) hfile)
    rw [hfind, if_neg hne]
    simpa using h.others l fun f hf => hl f (by simp [hf])
  · intro l s hl hs n hn
    obtain ⟨l', s', hs', hplace⟩ := hname
    have hne : l ++ [s] ≠ entryPlace before root e := by
      rw [hplace]
      intro heq
      obtain ⟨-, heq⟩ := List.append_inj' heq rfl
      obtain rfl : s = s' := List.singleton_inj.1 heq
      exact hplain s hs' hs
    rw [hfind, if_neg hne] at hn
    exact h.noPartial l s hl hs n hn

theorem settle (h : Overlaid decoder bytes root before done (some e) mid) (hdir : e.isDirectory)
    (hway : ∀ l ∈ entryWay before root e, mid.find? l = some .directory) :
    Overlaid decoder bytes root before (done ++ [e]) none mid := by
  refine ⟨h.cwd, ?_, ?_, ?_, h.noPartial⟩
  · intro as f bs hdone hf hlast
    rcases append_singleton_eq_append_cons hdone with ⟨rfl, -⟩ | ⟨cs, rfl, rfl⟩
    · rw [hdir] at hf
      contradiction
    · exact h.files as f cs rfl hf fun g hg => hlast g (by simp [hg])
  · intro f hf l hl
    rcases List.mem_append.1 hf with hf | hf
    · exact h.ways f hf l hl
    · obtain rfl := List.mem_singleton.1 hf
      exact .inr (hway l hl)
  · intro l hl
    simpa using h.others l fun f hf => hl f (by simp [hf])

/-! ## Entries -/

theorem step (h : Overlaid decoder bytes root before done none mid) (hplain : PlainName e)
    (hstep : installEntry decoder bytes root e mid = (.ok (), after)) :
    Overlaid decoder bytes root before (done ++ [e]) none after := by
  have hcwd := h.cwd
  cases hdir : e.isDirectory with
  | false =>
    obtain ⟨content, made, hpayload, hgrows, hplaced, hway, ⟨p, hpath⟩, hname⟩ :=
      installEntry_file_ok hdir hstep
    simp only [madeWay_congr hcwd, entryPlace_congr hcwd, partialPlace_congr hcwd,
      entryWay_congr hcwd] at hgrows hplaced hway hname
    exact (h.grow hgrows).place hdir hpayload hpath hplain hname hway hplaced
  | true =>
    obtain ⟨hgrows, hway⟩ := installEntry_directory_ok hdir hstep
    rw [madeWay_congr hcwd] at hgrows
    rw [entryWay_congr hcwd] at hway
    exact (h.grow hgrows).settle hdir hway

theorem fail (h : Overlaid decoder bytes root before done none mid) {error : InstallError}
    (hstep : installEntry decoder bytes root e mid = (.error error, after)) :
    Overlaid decoder bytes root before done (some e) after := by
  have hcwd := h.cwd
  obtain ⟨made, hgrows, rfl | ⟨⟨p, hpath⟩, hundone⟩⟩ := installEntry_error hstep
  · rw [madeWay_congr hcwd] at hgrows
    exact h.grow hgrows
  · rw [madeWay_congr hcwd] at hgrows
    rw [partialPlace_congr hcwd] at hundone
    exact (h.grow hgrows).undo hpath hundone

/-- Entries in order are put over what was there, up to the first that fails. -/
theorem run (h : Overlaid decoder bytes root before done none mid)
    (hplain : ∀ e ∈ es, PlainName e) (s : Summary) :
    Overlaid decoder bytes root before (done ++ es.take (completed decoder bytes root mid es))
      es[completed decoder bytes root mid es]? (installEntries decoder bytes root s mid es).2 := by
  induction es generalizing done mid s with
  | nil => simpa [completed, installEntries] using h
  | cons e es ih =>
    rcases hstep : installEntry decoder bytes root e mid with ⟨error | _, next⟩
    · simpa [completed, installEntries, hstep] using h.fail hstep
    · have hnext := h.step (hplain e (by simp)) hstep
      simpa [completed, installEntries, hstep] using
        ih hnext (fun f hf => hplain f (by simp [hf])) (s.add e)

end Overlaid

/-! ## An archive -/

end SpeechHost.Install
