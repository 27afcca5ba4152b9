import SpeechHost.Proofs.Install.Names
import SpeechHost.Proofs.Install.Retry
/-!
# Archives that can be extracted

Let the entries of an archive have ordinary names, none of them the name of a file on the way to another.
In an empty directory they meet nothing but each other: what stands there are the directories and files of
the entries before (`Built`). So an entry is installed unless its incomplete file is in trouble, which has a
name of its own: because this name is too long, or because an earlier entry made a directory there
(`extract_succeeds_iff`).
-/

namespace SpeechHost.Install

open SpeechHost.Storage SpeechHost.Storage.Path SpeechHost.Storage.Disk SpeechHost.Zip

variable {decoder : Decoder} {bytes : Bytes} {root : Path} {before d d' mid : Disk} {e f : Entry}
  {done es : List Entry} {s s' : Summary} {target : Path} {v : Delivery} {r q : Location}

/-- A directory with nothing in it. -/
structure EmptyDirectory (d : Disk) (root : Path) : Prop where
  there : d.isDirectory root
  empty : ∀ r, r ≠ [] → d.find? (d.destination root ++ r) = none

/-- Neither entry is a file on the way to the other or in its place. -/
def Apart (f e : Entry) : Prop :=
  (f.isDirectory = false → ¬ parts f <+: parts e) ∧ (e.isDirectory = false → ¬ parts e <+: parts f)

/-- An entry with a name that the system takes, also with the ending of an incomplete file. -/
structure Writable (e : Entry) : Prop where
  nul : '\x00' ∉ e.name.toList
  short : e.isDirectory = false → ∀ s ∈ partialParts e, s.utf8ByteSize ≤ maxNameBytes

/-- An entry makes a directory where the incomplete file of another one goes. -/
def Blocks (f e : Entry) : Prop :=
  e.isDirectory = false ∧ partialParts e <+: folders f

instance (f e : Entry) : Decidable (Apart f e) :=
  inferInstanceAs (Decidable (_ ∧ _))

/-! ## A file -/

/-- A file is put in its place when no directory is there, nor where the incomplete file goes. -/
theorem writeEntry_of_spots {l : Location} {z o : String}
    (hother : d.spot (target.append partialEnding) = .ok (l, .name o false)) (ho : checkName o = .ok ())
    (hotherFree : d.find? (l ++ [o]) ≠ some .directory)
    (htarget : d.spot target = .ok (l, .name z false)) (hz : checkName z = .ok ())
    (htargetFree : d.find? (l ++ [z]) ≠ some .directory) (hv : v.failure = none) :
    ∃ d', writeEntry v target d = (.ok (), d') := by
  have hopen : d.writeFileAt (target.append partialEnding) [] =
      .ok (l ++ [o], d.put (l ++ [o]) (.file [])) :=
    writeFileAt_iff.2 ⟨l, o, hother, ho, hotherFree, rfl, rfl⟩
  obtain ⟨hcwd, hfind⟩ := written_spec hopen v.blocks
  have hdirs : ∀ x, d.find? x = some .directory →
      (copyBlocks (l ++ [o]) [] (d.put (l ++ [o]) (.file [])) v.blocks).find? x = some .directory := by
    intro x hx
    rw [hfind, if_neg, hx]
    rintro rfl
    exact hotherFree hx
  have hfree : (copyBlocks (l ++ [o]) [] (d.put (l ++ [o]) (.file [])) v.blocks).find? (l ++ [z]) ≠
      some .directory := by
    rw [hfind]
    split_ifs
    · simp
    · exact htargetFree
  obtain ⟨d', hrename⟩ : ∃ d', (copyBlocks (l ++ [o]) [] (d.put (l ++ [o]) (.file [])) v.blocks).renameFile
      (target.append partialEnding) target = .ok d' :=
    ⟨_, renameFile_iff.2 ⟨l, o, l, z, .file v.blocks.flatten, spot_keeps hcwd hdirs hother,
      spot_keeps hcwd hdirs htarget, ho, hz, (hfind _).trans (if_pos rfl), by simp, hfree, rfl⟩⟩
  exact ⟨d', writeEntry_ok_iff.2 (by simp [writeAndRename, hopen, hv, hrename])⟩

theorem checkName_ok_iff {z : String} : checkName z = .ok () ↔ z.utf8ByteSize ≤ maxNameBytes := by
  unfold checkName
  split_ifs with hlong
  · simpa using hlong
  · simpa using hlong

theorem partial_short_of_ok {a : List String} {z : String} (hfile : e.isDirectory = false)
    (hsplit : (entryPath root e).pieces = a ++ [z])
    (h : installEntry decoder bytes root e d = (.ok (), d')) :
    (z ++ partialEnding).utf8ByteSize ≤ maxNameBytes := by
  unfold installEntry at h
  cases hopen : openEntry bytes root e with
  | error error => simp [hopen] at h
  | ok r =>
    obtain ⟨target, data⟩ := r
    obtain ⟨-, rfl, -⟩ := openEntry_ok hopen
    simp only [hopen, hfile, Bool.false_eq_true, if_false] at h
    obtain ⟨mid, -, hwrite⟩ := placeFile_ok_iff.1 h
    obtain ⟨l, opened, hopened, -⟩ := writeAndRename_ok (writeEntry_ok_iff.1 hwrite)
    obtain ⟨x, o, hspot, ho, -⟩ := writeFileAt_iff.1 hopened
    obtain ⟨-, -, -, -, hpieces⟩ := spot_name hspot
    obtain ⟨a', ha', -⟩ := hpieces rfl
    rw [append_of_pieces hsplit] at ha'
    obtain ⟨-, hlast⟩ := List.append_inj' ha' rfl
    obtain rfl : z ++ partialEnding = o := by simpa using hlast
    exact checkName_ok_iff.1 ho

theorem readable_of_isSome (h : (payload? decoder bytes e).isSome) :
    ∃ data, e.locate bytes = .ok data ∧ (decoder e data).failure = none := by
  unfold payload? at h
  cases hlocate : e.locate bytes with
  | error error => simp [hlocate] at h
  | ok data =>
    refine ⟨data, rfl, ?_⟩
    cases hfailure : (decoder e data).failure with
    | none => rfl
    | some error => simp [hlocate, Delivery.content?, hfailure] at h

/-! ## What stands in the directory -/

/-- A tree in which some entries were installed in an empty directory. -/
structure Built (before : Disk) (root : Path) (done : List Entry) (d : Disk) : Prop where
  keeps : Keeps before d
  made : ∀ f ∈ done, ∀ r, r <+: folders f → d.find? (before.destination root ++ r) = some .directory
  only : ∀ r n, r ≠ [] → d.find? (before.destination root ++ r) = some n →
    (n = .directory ∧ ∃ f ∈ done, r <+: folders f) ∨
      (n ≠ .directory ∧ ∃ f ∈ done, f.isDirectory = false ∧ r = parts f)

theorem built_nil (hroot : EmptyDirectory before root) : Built before root [] before := by
  refine ⟨⟨rfl, fun l hl => hl⟩, by simp, fun r n hr hn => ?_⟩
  rw [hroot.empty r hr] at hn
  contradiction

theorem folders_isPrefix (e : Entry) : folders e <+: parts e := by
  unfold folders
  split_ifs
  · exact List.prefix_rfl
  · exact List.dropLast_prefix _

theorem NormalName.not_isPrefix_folders (h : NormalName e) (hfile : e.isDirectory = false) :
    ¬ parts e <+: folders e ∧ ¬ partialParts e <+: folders e := by
  obtain ⟨u, s, -, -, -, hparts, hpartial⟩ := h.file_pieces hfile
  have hfolders : folders e = u.filter (· != "") := by simp [folders, hfile, hparts]
  rw [hparts, hpartial, hfolders]
  constructor <;>
  · intro hpre
    have hlength := hpre.length_le
    rw [List.length_append, List.length_singleton] at hlength
    omega

namespace Built

variable (hb : Built before root done d) (hroot : EmptyDirectory before root)

include hb

theorem destination : d.destination root = before.destination root :=
  destination_congr hb.keeps.cwd root

theorem way : d.way root = before.way root :=
  way_congr hb.keeps.cwd root

include hroot

theorem isDirectory : d.isDirectory root :=
  isDirectory_keeps hb.keeps.cwd hb.keeps.dirs hroot.there

theorem mem_folders (he : NormalName e) (hq : q ≠ [])
    (hmade : before.destination root ++ q ∈ madeWay d root e) : q <+: folders e := by
  rcases he.mem_madeWay hmade with hway | ⟨r, hr, heq⟩
  · have hdir := isDirectory_ok hroot.there _ (hb.way ▸ hway)
    rw [hroot.empty q hq] at hdir
    contradiction
  · rw [hb.destination] at heq
    rwa [List.append_cancel_left heq]

/-- Where no directory is needed for an entry there is none after directories were made for it, if there was
none before. -/
theorem free_of_grows (he : NormalName e) (hgrows : Grows (· ∈ madeWay d root e) d mid) (hq : q ≠ [])
    (hfree : d.find? (before.destination root ++ q) ≠ some .directory) (hnot : ¬ q <+: folders e) :
    mid.find? (before.destination root ++ q) ≠ some .directory := by
  rcases hgrows.find? (before.destination root ++ q) with heq | ⟨hmade, -⟩
  · rwa [heq]
  · exact absurd (hb.mem_folders hroot he hq hmade) hnot

theorem only_grown (he : NormalName e) (hgrows : Grows (· ∈ madeWay d root e) d mid) (hq : q ≠ []) {n : Node}
    (hn : mid.find? (before.destination root ++ q) = some n) :
    (n = .directory ∧ ∃ f ∈ done ++ [e], q <+: folders f) ∨
      (n ≠ .directory ∧ ∃ f ∈ done ++ [e], f.isDirectory = false ∧ q = parts f) := by
  rcases hgrows.find? (before.destination root ++ q) with heq | ⟨hmade, -, hdir⟩
  · rw [heq] at hn
    refine (hb.only q n hq hn).imp ?_ ?_
    · rintro ⟨hdir, f, hf, hpre⟩
      exact ⟨hdir, f, by simp [hf], hpre⟩
    · rintro ⟨hdir, f, hf, hfile⟩
      exact ⟨hdir, f, by simp [hf], hfile⟩
  · left
    exact ⟨Option.some.inj (hn.symm.trans hdir), e, by simp, hb.mem_folders hroot he hq hmade⟩

theorem step (he : NormalName e) (h : installEntry decoder bytes root e d = (.ok (), d')) :
    Built before root (done ++ [e]) d' := by
  obtain ⟨p, hpath⟩ := exists_path? h
  have hkeeps := keeps_installEntry h
  have hway : ∀ r, r <+: folders e → before.destination root ++ r ∈ entryWay d root e := by
    intro r hr
    rw [← hb.destination]
    exact he.mem_entryWay (nul_of_path? hpath) (hr.trans (folders_isPrefix e))
  have hmade : (∀ r, r <+: folders e → d'.find? (before.destination root ++ r) = some .directory) →
      ∀ f ∈ done ++ [e], ∀ r, r <+: folders f →
        d'.find? (before.destination root ++ r) = some .directory := by
    intro hlast f hf
    rcases List.mem_append.1 hf with hf | hf
    · exact fun r hr => hkeeps.dirs _ (hb.made f hf r hr)
    · obtain rfl := List.mem_singleton.1 hf
      exact hlast
  have hkept : Keeps before d' := ⟨hkeeps.cwd.trans hb.keeps.cwd, fun l hl =>
    hkeeps.dirs l (hb.keeps.dirs l hl)⟩
  cases hdir : e.isDirectory with
  | true =>
    obtain ⟨hgrows, hdirs⟩ := installEntry_directory_ok hdir h
    refine ⟨hkept, hmade fun r hr => hdirs _ (hway r hr), ?_⟩
    exact fun r n hr hn => hb.only_grown hroot he hgrows hr hn
  | false =>
    obtain ⟨content, mid, -, hgrows, hplaced, hdirs, -⟩ := installEntry_file_ok hdir h
    rw [he.entryPlace_eq, hb.destination] at hplaced hdirs
    refine ⟨hkept, hmade fun r hr => ?_, fun r n hr hn => ?_⟩
    · refine hplaced.keeps ((hdirs _ (hway r hr)).resolve_left fun heq => ?_)
      obtain rfl := List.append_cancel_left heq
      exact (he.not_isPrefix_folders hdir).1 hr
    · rw [hplaced.find?] at hn
      split_ifs at hn with hplace
      · obtain rfl := Option.some.inj hn
        exact .inr ⟨by simp, e, by simp, hdir, List.append_cancel_left hplace⟩
      · exact hb.only_grown hroot he hgrows hr hn

theorem clear (hapart : ∀ f ∈ done, Apart f e) (hr : r <+: parts e) :
    NoFileAt d (d.destination root ++ r) := by
  intro n hn
  by_cases hnil : r = []
  · rw [hnil, List.append_nil, hb.destination] at hn
    have hdir := hb.keeps.dirs _ (isDirectory_ok hroot.there _ (destination_mem_way before root))
    exact Option.some.inj (hn.symm.trans hdir)
  · rw [hb.destination] at hn
    rcases hb.only r n hnil hn with ⟨hdir, -⟩ | ⟨-, f, hf, hfile, rfl⟩
    · exact hdir
    · exact absurd hr ((hapart f hf).1 hfile)

omit hroot in
theorem file_free (hapart : ∀ f ∈ done, Apart f e) (he : NormalName e) (hfile : e.isDirectory = false)
    (hblocks : ∀ f ∈ done, ¬ Blocks f e) :
    d.find? (before.destination root ++ parts e) ≠ some .directory ∧
      d.find? (before.destination root ++ partialParts e) ≠ some .directory := by
  obtain ⟨u, z, -, -, -, hparts, hpartial⟩ := he.file_pieces hfile
  refine ⟨fun hdir => ?_, fun hdir => ?_⟩
  · rcases hb.only _ _ (by simp [hparts]) hdir with ⟨-, f, hf, hpre⟩ | ⟨hne, -⟩
    · exact (hapart f hf).2 hfile (hpre.trans (folders_isPrefix f))
    · exact hne rfl
  · rcases hb.only _ _ (by simp [hpartial]) hdir with ⟨-, f, hf, hpre⟩ | ⟨hne, -⟩
    · exact hblocks f hf ⟨hfile, hpre⟩
    · exact hne rfl

theorem placeFile_ok (he : NormalName e) (hfile : e.isDirectory = false)
    (hapart : ∀ f ∈ done, Apart f e) (hblocks : ∀ f ∈ done, ¬ Blocks f e)
    (hshort : ∀ s ∈ partialParts e, s.utf8ByteSize ≤ maxNameBytes)
    (hpassable : Passable d (entryPath root e))
    (hcheck : check ((entryPath root e).append partialEnding) = .ok ()) (hv : v.failure = none) :
    ∃ d', placeFile v (entryPath root e) d = (.ok (), d') := by
  obtain ⟨w, u, z, hsplit, hstay, hup, hparts, hpartial⟩ := he.file_path hfile root
  obtain ⟨a, mid, l, hparent, hmade, hwalk, hl⟩ := makeDirectories_above hpassable hsplit hstay
  have habove : MadeAbove (entryPath root e) d mid := by simpa [MadeAbove, hparent] using hmade
  have hgrows := habove.grows.mono fun x hx => mem_madeWay_file hfile hx
  -- where both files go
  have hcwd := hgrows.cwd.trans hb.keeps.cwd
  have hdest : l ++ [z] = before.destination root ++ parts e := by
    rw [← he.entryPlace_eq, ← entryPlace_congr hcwd, entryPlace, Disk.destination, hsplit, follow_append,
      ← (walk_ok hwalk).1, follow_name l hstay hup]
  have hother : l ++ [z ++ partialEnding] = before.destination root ++ partialParts e := by
    rw [hparts, ← List.append_assoc] at hdest
    rw [hpartial, ← List.append_assoc, (List.append_inj' hdest rfl).1]
  obtain ⟨hplaceFree, hotherFree⟩ := hb.file_free hapart he hfile hblocks
  obtain ⟨hnot, hnot'⟩ := he.not_isPrefix_folders hfile
  have hplaceFree' := hb.free_of_grows hroot he hgrows (by simp [hparts]) hplaceFree hnot
  have hotherFree' := hb.free_of_grows hroot he hgrows (by simp [hpartial]) hotherFree hnot'
  rw [← hdest] at hplaceFree'
  rw [← hother] at hotherFree'
  -- the way to the directory that holds both has been made
  have hne : (entryPath root e).pieces ≠ [] := by simp [hsplit]
  have htargetSpot := (spot_of_walk (n := 0) hpassable.1 hsplit (ne_empty_of_not_isStay hstay) hwalk).trans
    (endAt_name (isDirectoryAt_iff.2 hl) hstay hup _)
  have hotherSpot := (spot_of_walk (d := mid) (n := 0) hcheck (append_of_pieces hsplit partialEnding)
    (ne_empty_of_not_isStay (isStay_partial z)) (by rwa [start_append hne])).trans
    (endAt_name (isDirectoryAt_iff.2 hl) (isStay_partial z) (partial_ne_up z) _)
  obtain ⟨d', hwrite⟩ := writeEntry_of_spots hotherSpot
    (checkName_ok_iff.2 (hshort _ (by simp [hpartial]))) hotherFree' htargetSpot
    (checkName_ok_iff.2 (he.short _ (by simp [hparts]))) hplaceFree' hv
  exact ⟨d', placeFile_ok_iff.2 ⟨mid, habove, hwrite⟩⟩

omit hroot in
theorem of_installEntry (he : NormalName e)
    (h : installEntry decoder bytes root e d = (.ok (), d')) :
    Writable e ∧ ∀ f ∈ done, ¬ Blocks f e := by
  obtain ⟨p, hpath⟩ := exists_path? h
  refine ⟨⟨nul_of_path? hpath, fun hfile z hz => ?_⟩, fun f hf ⟨hfile, hpre⟩ => ?_⟩
  · obtain ⟨w, u, y, hsplit, -, -, hparts, hpartial⟩ := he.file_path hfile root
    rw [hpartial] at hz
    rcases List.mem_append.1 hz with hz | hz
    · exact he.short z (by simp [hparts, hz])
    · obtain rfl := List.mem_singleton.1 hz
      exact partial_short_of_ok hfile hsplit h
  · obtain ⟨content, mid, -, hgrows, hplaced, -⟩ := installEntry_file_ok hfile h
    have hdir := hgrows.keeps (hb.made f hf _ hpre)
    rw [he.partialPlace_eq hfile, hb.destination] at hplaced
    exact hplaced.otherFree hdir

/-- An entry is installed if and only if the system takes its name, and that of its incomplete file if it is
a file, and no earlier entry has made a directory where the incomplete file goes. -/
theorem installEntry_iff (he : NormalName e) (hdata : (payload? decoder bytes e).isSome)
    (hapart : ∀ f ∈ done, Apart f e)
    (hlength : ((entryPath root e).append partialEnding).toString.utf8ByteSize < maxPathBytes) :
    (∃ d', installEntry decoder bytes root e d = (.ok (), d')) ↔
      Writable e ∧ ∀ f ∈ done, ¬ Blocks f e := by
  refine ⟨fun ⟨d', h⟩ => hb.of_installEntry he h, ?_⟩
  rintro ⟨⟨hnul, hshort⟩, hblocks⟩
  obtain ⟨data, hlocate, hv⟩ := readable_of_isSome hdata
  have hrootDir := hb.isDirectory hroot
  obtain ⟨hcheck, hcheck'⟩ := he.check_entryPath (isDirectory_iff.1 hrootDir).1 hnul hlength
  have hpassable := he.passable_entryPath hrootDir hcheck fun r hr => hb.clear hroot hapart hr
  have hopen : openEntry bytes root e = .ok (entryPath root e, data) := by
    simp [openEntry, hlocate, path?_of_ordinary he.ordinary hnul, Except.mapError, entryPath]
  simp only [installEntry, hopen]
  cases hdir : e.isDirectory with
  | true =>
    obtain ⟨mid, hmade⟩ := makeDirectories_passable hpassable
      (he.ordinary.named_join (ofString_ne_nil e.name) root)
    exact ⟨mid, by simp [makeDirectories, hmade]⟩
  | false =>
    simpa using hb.placeFile_ok hroot he hdir hapart hblocks (hshort hdir) hpassable hcheck' hv

end Built

/-! ## Whole archives -/

/-- The rest of the entries is installed if and only if none of them is in trouble, be it with its own name,
with an entry from before or with one another. -/
theorem Built.run (hb : Built before root done d) (hroot : EmptyDirectory before root)
    (hnormal : ∀ e ∈ es, NormalName e) (hdata : ∀ e ∈ es, (payload? decoder bytes e).isSome)
    (hdone : ∀ f ∈ done, ∀ e ∈ es, Apart f e) (hapart : es.Pairwise Apart)
    (hlength : ∀ e ∈ es,
      ((entryPath root e).append partialEnding).toString.utf8ByteSize < maxPathBytes) (s : Summary) :
    (∃ s' d', installEntries decoder bytes root s d es = (.ok s', d')) ↔
      (∀ e ∈ es, Writable e ∧ ∀ f ∈ done, ¬ Blocks f e) ∧ es.Pairwise fun f e => ¬ Blocks f e := by
  -- the entry that is installed next joins those that the others have to get along with
  induction es generalizing done d s with
  | nil => simp [installEntries]
  | cons e es ih =>
    have he := hnormal e (by simp)
    obtain ⟨hfirst, hrest⟩ := List.pairwise_cons.1 hapart
    have hiff := hb.installEntry_iff hroot he (hdata e (by simp)) (fun f hf => hdone f hf e (by simp))
      (hlength e (by simp))
    have hnext : ∀ mid, installEntry decoder bytes root e d = (.ok (), mid) →
        ((∃ s' d', installEntries decoder bytes root (s.add e) mid es = (.ok s', d')) ↔
          (∀ g ∈ es, Writable g ∧ ∀ f ∈ done ++ [e], ¬ Blocks f g) ∧
            es.Pairwise fun f e => ¬ Blocks f e) := by
      intro mid hstep
      refine ih (hb.step hroot he hstep) (fun g hg => hnormal g (by simp [hg]))
        (fun g hg => hdata g (by simp [hg])) (fun f hf g hg => ?_) hrest
        (fun g hg => hlength g (by simp [hg])) (s.add e)
      rcases List.mem_append.1 hf with hf | hf
      · exact hdone f hf g (by simp [hg])
      · obtain rfl := List.mem_singleton.1 hf
        exact hfirst g hg
    rw [List.pairwise_cons]
    constructor
    · rintro ⟨s', d', h⟩
      obtain ⟨mid, hstep, hlater⟩ := installEntries_cons_ok h
      obtain ⟨hall, hpairs⟩ := (hnext mid hstep).1 ⟨s', d', hlater⟩
      refine ⟨fun g hg => ?_, fun g hg => (hall g hg).2 e (by simp), hpairs⟩
      rcases List.mem_cons.1 hg with rfl | hg
      · exact hiff.1 ⟨mid, hstep⟩
      · exact ⟨(hall g hg).1, fun f hf => (hall g hg).2 f (by simp [hf])⟩
    · rintro ⟨hall, hown, hpairs⟩
      obtain ⟨mid, hstep⟩ := hiff.2 (hall e (by simp))
      have hlater : ∀ g ∈ es, Writable g ∧ ∀ f ∈ done ++ [e], ¬ Blocks f g := by
        intro g hg
        obtain ⟨hwritable, hbefore⟩ := hall g (by simp [hg])
        refine ⟨hwritable, fun f hf => ?_⟩
        rcases List.mem_append.1 hf with hf | hf
        · exact hbefore f hf
        · obtain rfl := List.mem_singleton.1 hf
          exact hown g hg
      obtain ⟨s', d', h⟩ := (hnext mid hstep).2 ⟨hlater, hpairs⟩
      exact ⟨s', d', by rw [installEntries, hstep]; exact h⟩

theorem summary_of_ok (h : installEntries decoder bytes root s d es = (.ok s', d')) :
    s' = ⟨s.files + es.countP (!·.isDirectory), s.directories + es.countP (·.isDirectory)⟩ := by
  induction es generalizing s d with
  | nil =>
    obtain rfl : s = s' := by simpa [installEntries] using congrArg Prod.fst h
    rfl
  | cons e es ih =>
    obtain ⟨mid, -, hrest⟩ := installEntries_cons_ok h
    rw [ih hrest]
    cases hdir : e.isDirectory with
    | true =>
      simp only [Summary.add, hdir, if_true, Bool.not_true, Bool.false_eq_true, not_false_eq_true,
        List.countP_cons_of_neg, List.countP_cons_of_pos, Summary.mk.injEq, true_and]
      omega
    | false =>
      simp only [Summary.add, hdir, Bool.false_eq_true, if_false, Bool.not_false, not_false_eq_true,
        List.countP_cons_of_neg, List.countP_cons_of_pos, Summary.mk.injEq, and_true]
      omega

/-- An archive of readable entries with ordinary names, of which none is a file on the way to another or in
its place, is extracted into an empty directory, and its files and directories are counted, if and only if
the system takes all names, those of the incomplete files included, and no entry makes a directory where the
incomplete file of a later one goes. -/
theorem extract_succeeds_iff (hentries : entries bytes = .ok es) (hnormal : ∀ e ∈ es, NormalName e)
    (hdata : ∀ e ∈ es, (payload? decoder bytes e).isSome) (hapart : es.Pairwise Apart)
    (hlength : ∀ e ∈ es,
      ((entryPath root e).append partialEnding).toString.utf8ByteSize < maxPathBytes)
    (hroot : EmptyDirectory d root) :
    (extractWith decoder bytes root d).1 =
        .ok ⟨es.countP (!·.isDirectory), es.countP (·.isDirectory)⟩ ↔
      (∀ e ∈ es, Writable e) ∧ es.Pairwise fun f e => ¬ Blocks f e := by
  have hrun := (built_nil hroot).run hroot hnormal hdata (by simp) hapart hlength ⟨0, 0⟩
  have hnone : (∀ e ∈ es, Writable e ∧ ∀ f ∈ ([] : List Entry), ¬ Blocks f e) ↔
      ∀ e ∈ es, Writable e := by simp
  rw [hnone] at hrun
  rw [← hrun]
  simp only [extractWith, hentries]
  constructor
  · exact fun h => ⟨_, _, Prod.ext h rfl⟩
  · rintro ⟨s', d', h⟩
    have hcount := summary_of_ok h
    simp only [Nat.zero_add] at hcount
    rw [h, hcount]

def emptyTree : Disk :=
  ⟨["w"], [(["w"], .directory), (["w", "d"], .directory)]⟩

theorem emptyDirectory_emptyTree : EmptyDirectory emptyTree ⟨["d"]⟩ := by
  refine ⟨by decide +kernel, fun r hr => ?_⟩
  have hdest : emptyTree.destination ⟨["d"]⟩ = ["w", "d"] := by decide +kernel
  rw [hdest, find?_of_ne_nil _ (by simp), List.lookup_eq_none_iff]
  intro k hk
  rw [bne_iff_ne]
  rintro heq
  simp only [emptyTree, List.mem_cons, List.not_mem_nil, or_false] at hk
  rcases hk with rfl | rfl
  · simp at heq
  · simp [hr] at heq

/-- Two files, one of them in a directory, and a directory. -/
def fewEntries : Bytes :=
  StoredFile.archive [.ofContent "a/b" [120], .ofContent "a.b" [121], .ofContent "a.b.part/" []]

theorem extract_succeeds_iff_few :
    ∃ es, entries fewEntries = .ok es ∧ (extract fewEntries ⟨["d"]⟩ emptyTree).1 = .ok ⟨2, 1⟩ ∧
      (∀ e ∈ es, Writable e) ∧ es.Pairwise fun f e => ¬ Blocks f e := by
  have hcheck : (entries fewEntries).toOption.any fun es =>
      decide (∀ e ∈ es, NormalName e) && decide (∀ e ∈ es, (payload? decode fewEntries e).isSome) &&
        decide (es.Pairwise Apart) && decide (∀ e ∈ es,
          ((entryPath ⟨["d"]⟩ e).append partialEnding).toString.utf8ByteSize < maxPathBytes) &&
        es.countP (!·.isDirectory) == 2 && es.countP (·.isDirectory) == 1 := by decide +kernel
  obtain ⟨es, hentries, hes⟩ := exists_ok_of_any hcheck
  simp only [Bool.and_eq_true, decide_eq_true_eq, beq_iff_eq] at hes
  obtain ⟨⟨⟨⟨⟨hnormal, hdata⟩, hapart⟩, hlength⟩, hfiles⟩, hdirs⟩ := hes
  have hiff := extract_succeeds_iff hentries hnormal hdata hapart hlength emptyDirectory_emptyTree
  rw [hfiles, hdirs] at hiff
  have hrun : (extract fewEntries ⟨["d"]⟩ emptyTree).1 = .ok ⟨2, 1⟩ := by
    have hok : (extract fewEntries ⟨["d"]⟩ emptyTree).1.toOption.any (· == ⟨2, 1⟩) := by decide +kernel
    obtain ⟨s, hs, heq⟩ := exists_ok_of_any hok
    rw [hs, eq_of_beq heq]
  exact ⟨es, hentries, hrun, hiff.1 hrun⟩

/-- A directory with the name of an incomplete file, and the file. -/
def blocked : Bytes :=
  StoredFile.archive [.ofContent "a.part/" [], .ofContent "a" [121]]

/-- The file is not extracted, though nothing is wrong with the archive. -/
theorem extract_fails_blocked :
    (∃ es, entries blocked = .ok es ∧ (∀ e ∈ es, NormalName e) ∧
        (∀ e ∈ es, (payload? decode blocked e).isSome) ∧ es.Pairwise Apart) ∧
      EmptyDirectory emptyTree ⟨["d"]⟩ ∧ (extract blocked ⟨["d"]⟩ emptyTree).1.isOk = false := by
  have hcheck : (entries blocked).toOption.any fun es =>
      decide (∀ e ∈ es, NormalName e) && decide (∀ e ∈ es, (payload? decode blocked e).isSome) &&
        decide (es.Pairwise Apart) := by decide +kernel
  obtain ⟨es, hentries, hes⟩ := exists_ok_of_any hcheck
  simp only [Bool.and_eq_true, decide_eq_true_eq] at hes
  exact ⟨⟨es, hentries, hes.1.1, hes.1.2, hes.2⟩, emptyDirectory_emptyTree, by decide +kernel⟩

end SpeechHost.Install
