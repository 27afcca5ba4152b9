import SpeechHost.Proofs.Install.Entry
import SpeechHost.Proofs.Storage.Journal
import SpeechHost.Proofs.Zip.Stored
/-!
# Extractions stay inside their directory

The extraction of an archive runs on a journal as it runs on a tree. It answers alike and leaves the same
tree, and the journal holds all that it did, also when it failed. Every file that was written, renamed or
removed stood strictly inside the directory, and directories were made there, above it, or where the path of
the directory goes up again (`extract_contained`).
-/

namespace SpeechHost.Install

open SpeechHost.Storage SpeechHost.Storage.Path SpeechHost.Zip

variable {before : Disk}

/-! ## Where the changes are -/

/-- What may be done for a file: the incomplete one is written or removed, or takes the place of the file,
which has a name. -/
def Puts (d : Disk) (target : Path) : Change → Prop
  | .write l _ | .remove l => l = d.destination (target.append partialEnding)
  | .rename l l' => l = d.destination (target.append partialEnding) ∧ l' = d.destination target ∧
      ∃ a s, target.pieces = a ++ [s] ∧ isStay s = false ∧ (s == "..") = false
  | .make _ => False

theorem mirrors_copyBlocks {V : Change → Prop} {l : Location} (hV : ∀ content, V (.write l content))
    (bs : List Bytes) (w : Bytes) (j : Journal before) :
    Journal.Mirrors V j ((), copyBlocks l w j.disk bs) ((), copyBlocks l w j bs) := by
  induction bs generalizing w j with
  | nil => exact Journal.Mirrors.refl V j ()
  | cons b bs ih =>
    have hfirst := Journal.mirrors_note (j := j) (hV (w ++ b)) rfl ()
    exact hfirst.trans (ih (w ++ b) _)

theorem mirrors_discard {V : Change → Prop} (j : Journal before) (p : Path)
    (hV : V (.remove (j.disk.destination p))) :
    Journal.Mirrors V j ((), discard j.disk p) ((), discard j p) := by
  simp only [discard, Disk.fileTree_removeFile, Journal.fileTree_removeFile]
  rcases j.removeFile_cases p with ⟨e, hplain, hnoted⟩ | ⟨d, hplain, hd, hnoted⟩
  · rw [hplain, hnoted]
    exact Journal.Mirrors.refl V j ()
  · rw [hplain, hnoted]
    exact Journal.mirrors_note hV hd ()

theorem mirrors_writeAndRename (v : Delivery) (target : Path) (j : Journal before) :
    Journal.Mirrors (Puts before target) j
      (writeAndRename v target (target.append partialEnding) j.disk)
      (writeAndRename v target (target.append partialEnding) j) := by
  simp only [writeAndRename, Disk.fileTree_writeFileAt, Disk.fileTree_renameFile,
    Journal.fileTree_writeFileAt, Journal.fileTree_renameFile]
  rcases j.writeFileAt_cases (target.append partialEnding) [] with
    ⟨e, hplain, hnoted⟩ | ⟨d, hplain, hd, hnoted⟩
  · rw [hplain, hnoted]
    exact Journal.Mirrors.refl _ j _
  rw [hplain, hnoted]
  have hwrites : ∀ content, Puts before target
      (.write (j.disk.destination (target.append partialEnding)) content) := fun _ =>
    Disk.destination_congr j.cwd _
  generalize j.disk.destination (target.append partialEnding) = l at hd hwrites
  have hopened := Journal.mirrors_note (hwrites []) hd ()
  have hcopied := mirrors_copyBlocks hwrites v.blocks [] (j.note (.write l []))
  obtain ⟨_, written, hcopy, hcopy'⟩ := hcopied.exists_eq
  have hwritten := hopened.trans hcopied
  rw [hcopy, hcopy'] at hwritten
  obtain rfl : (j.note (.write l [])).disk = d := hd
  simp only [(Prod.mk.inj hcopy).2, (Prod.mk.inj hcopy').2]
  cases v.failure with
  | some e => exact hwritten.answering _
  | none =>
    rcases written.renameFile_cases (target.append partialEnding) target with
      ⟨e, hplain, hnoted⟩ | ⟨d, hplain, hd, hnoted⟩
    · simp only [hplain, hnoted]
      exact hwritten.answering _
    · simp only [hplain, hnoted]
      obtain ⟨node, a, s, -, -, -, -, -, -, hpieces, hstay, hup, -⟩ := Disk.renameFile_ok hplain
      refine hwritten.trans (Journal.mirrors_note ?_ hd _)
      exact ⟨Disk.destination_congr written.cwd _, Disk.destination_congr written.cwd _, a, s,
        hpieces, hstay, hup⟩

theorem mirrors_writeEntry (v : Delivery) (target : Path) (j : Journal before) :
    Journal.Mirrors (Puts before target) j (writeEntry v target j.disk)
      (writeEntry v target j) := by
  have hwrite := mirrors_writeAndRename v target j
  obtain ⟨r, j', hplain, hnoted⟩ := hwrite.exists_eq
  rw [hplain, hnoted] at hwrite
  simp only [writeEntry, hplain, hnoted]
  rcases r with cause | ⟨⟩
  · have hdiscard := mirrors_discard (V := Puts before target) j' (target.append partialEnding)
      (Disk.destination_congr j'.cwd _)
    exact (hwrite.trans hdiscard).answering _
  · exact hwrite

/-! ## Entries -/

theorem mirrors_makeDirectories (p : Path) (j : Journal before) :
    Journal.Mirrors (Journal.MakesAt (before.way p)) j (makeDirectories p j.disk)
      (makeDirectories p j) := by
  have hmade := j.mirrors_makeDirectories p
  obtain ⟨r, j', hplain, hnoted⟩ := hmade.exists_eq
  rw [hplain, hnoted] at hmade
  simp only [makeDirectories, Disk.storage_makeDirectories, hplain, hnoted]
  rcases r with f | ⟨⟩
  · exact hmade.answering _
  · exact hmade.answering _

theorem mirrors_placeFile (v : Delivery) (target : Path) (j : Journal before) :
    Journal.Mirrors (fun c => Journal.MakesAt (before.way target) c ∨ Puts before target c) j
      (placeFile v target j.disk) (placeFile v target j) := by
  unfold placeFile
  cases hparent : target.parent? with
  | none =>
    have hwrite := (mirrors_writeEntry v target j).mono fun c hc =>
      Or.inr (a := Journal.MakesAt (before.way target) c) hc
    obtain ⟨r, j', hplain, hnoted⟩ := hwrite.exists_eq
    rw [hplain, hnoted] at hwrite
    simp only [hplain, hnoted]
    rcases r with cause | ⟨⟩
    · exact hwrite.answering _
    · exact hwrite.answering _
  | some above =>
    have hmade := (mirrors_makeDirectories above j).mono fun c hc =>
      Or.inl (b := Puts before target c) (hc.mono (Disk.way_parent? hparent before))
    obtain ⟨r, j₁, hplain, hnoted⟩ := hmade.exists_eq
    rw [hplain, hnoted] at hmade
    simp only [hplain, hnoted]
    rcases r with error | ⟨⟩
    · exact hmade
    · have hwrite := (mirrors_writeEntry v target j₁).mono fun c hc =>
        Or.inr (a := Journal.MakesAt (before.way target) c) hc
      obtain ⟨r, j₂, hplain, hnoted⟩ := hwrite.exists_eq
      rw [hplain, hnoted] at hwrite
      simp only [hplain, hnoted]
      rcases r with cause | ⟨⟩
      · exact (hmade.trans hwrite).answering _
      · exact (hmade.trans hwrite).answering _

/-- The path passes the place and goes up again from there. -/
def GoesUpFrom (d : Disk) (p : Path) (l : Location) : Prop :=
  ∃ a b, p.pieces = a ++ ".." :: b ∧ follow (d.start p) a = l

/-- What may be done for an archive: files are written, renamed and removed strictly inside the directory,
and directories are made inside it, above it, or where its path goes up again. -/
def Contained (d : Disk) (root : Path) : Change → Prop
  | .make l => d.destination root <+: l ∨ l <+: d.destination root ∨ GoesUpFrom d root l
  | .write l _ | .remove l => ∃ k s, d.destination root <+: k ∧ l = k ++ [s]
  | .rename l l' =>
    (∃ k s, d.destination root <+: k ∧ l = k ++ [s]) ∧ ∃ k s, d.destination root <+: k ∧ l' = k ++ [s]

variable {root : Path} {e : Entry} {c : Change} {p : Path}

theorem contained_of_makesAt (h : e.path? = some p)
    (hc : Journal.MakesAt (entryWay before root e) c) :
    Contained before root c := by
  obtain ⟨l, hl, rfl⟩ := hc
  rcases mem_entryWay h hl with hinside | hway
  · exact .inl hinside
  · exact .inr (mem_way_cases hway)

theorem contained_of_puts (h : e.path? = some p) (hc : Puts before (entryPath root e) c) :
    Contained before root c := by
  obtain ⟨k, s, hpartial, hk⟩ := partialPlace_eq h before root
  have hother : ∃ k s, before.destination root <+: k ∧
      before.destination ((entryPath root e).append partialEnding) = k ++ [s] :=
    ⟨k, _, hk, hpartial⟩
  cases c with
  | make l => exact hc.elim
  | write l content =>
    obtain rfl : l = _ := hc
    exact hother
  | remove l =>
    obtain rfl : l = _ := hc
    exact hother
  | rename l l' =>
    obtain ⟨rfl, rfl, a, s, hpieces, hstay, hup⟩ := hc
    obtain ⟨k, hk, hplace⟩ := entryPlace_name h hpieces hstay hup before
    exact ⟨hother, k, s, hk, hplace⟩

theorem mirrors_installEntry (decoder : Decoder) (bytes : Bytes) (root : Path) (e : Entry)
    (j : Journal before) :
    Journal.Mirrors (Contained before root) j
      (installEntry decoder bytes root e j.disk) (installEntry decoder bytes root e j) := by
  unfold installEntry
  cases hopen : openEntry bytes root e with
  | error error => exact Journal.Mirrors.refl _ j _
  | ok r =>
    obtain ⟨target, data⟩ := r
    obtain ⟨-, rfl, p, hpath⟩ := openEntry_ok hopen
    by_cases hdir : e.isDirectory
    · simp only [hdir, if_true]
      exact (mirrors_makeDirectories _ j).mono fun c hc => contained_of_makesAt hpath hc
    · simp only [if_neg hdir]
      refine (mirrors_placeFile _ _ j).mono fun c hc => ?_
      rcases hc with hc | hc
      · exact contained_of_makesAt hpath hc
      · exact contained_of_puts hpath hc

theorem mirrors_installEntries (decoder : Decoder) (bytes : Bytes) (root : Path) (es : List Entry)
    (s : Summary) (j : Journal before) :
    Journal.Mirrors (Contained before root) j
      (installEntries decoder bytes root s j.disk es)
      (installEntries decoder bytes root s j es) := by
  induction es generalizing s j with
  | nil => exact Journal.Mirrors.refl _ j _
  | cons e es ih =>
    have hstep := mirrors_installEntry decoder bytes root e j
    obtain ⟨r, j', hplain, hnoted⟩ := hstep.exists_eq
    rw [hplain, hnoted] at hstep
    rw [installEntries, installEntries, hplain, hnoted]
    rcases r with error | ⟨⟩
    · exact hstep.answering _
    · exact hstep.trans (ih (s.add e) j')

/-- Whatever an extraction did, and however it ended: all files that were written, renamed or removed, the
incomplete ones included, stood strictly inside the directory. Directories were made there, above the
directory where some were missing, and where the path of the directory passes and goes up again. -/
theorem extract_contained (decoder : Decoder) (bytes : Bytes) (root : Path) (before : Disk) :
    let r := extractWith decoder bytes root (Journal.start before)
    (r.1, r.2.disk) = extractWith decoder bytes root before ∧
      ∀ c ∈ r.2.changes, Contained before root c := by
  have hmirrors : Journal.Mirrors (Contained before root) (.start before)
      (extractWith decoder bytes root before)
      (extractWith decoder bytes root (Journal.start before)) := by
    unfold extractWith
    cases entries bytes with
    | error error => exact Journal.Mirrors.refl _ (.start before) _
    | ok es => exact mirrors_installEntries decoder bytes root es ⟨0, 0⟩ (.start before)
  obtain ⟨cs, hcs, hall⟩ := hmirrors.changes
  refine ⟨Prod.ext hmirrors.answer hmirrors.disk, fun c hc => ?_⟩
  rw [hcs] at hc
  exact hall c hc

/-- Below `x/../y` a file is put in `y`. Where `x` is missing it is made on the way, and it is neither inside
`y` nor above it. -/
theorem extract_makes_beside :
    let before := Disk.fresh ["w"]
    let root : Path := ⟨["x", "..", "y"]⟩
    let r := extractWith decode (StoredFile.archive [.ofContent "a" [120]]) root (Journal.start before)
    r.1 = .ok ⟨1, 0⟩ ∧ .make ["w", "x"] ∈ r.2.changes ∧ before.destination root = ["w", "y"] ∧
      ¬ ["w", "y"] <+: ["w", "x"] ∧ ¬ ["w", "x"] <+: ["w", "y"] := by
  decide +kernel

/-- Two files, the second of which does not match its checksum, below a directory that is not there. -/
example :
    (extractWith decode
      (StoredFile.archive [.ofContent "a/b" [120], ⟨"c", [121], 0⟩]) ⟨["d"]⟩
      (Journal.start (.fresh ["w"]))).2.changes =
        [.make ["w", "d"], .make ["w", "d", "a"], .write ["w", "d", "a", "b.part"] [],
          .write ["w", "d", "a", "b.part"] [120], .rename ["w", "d", "a", "b.part"] ["w", "d", "a", "b"],
          .write ["w", "d", "c.part"] [], .remove ["w", "d", "c.part"]] := by
  decide +kernel

end SpeechHost.Install
