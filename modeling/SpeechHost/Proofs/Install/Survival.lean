import SpeechHost.Proofs.Install.Entry
import SpeechHost.Proofs.Zip.Stored
/-!
# Which files survive an extraction

The incomplete file of an entry stands among the other files, and an extraction that succeeds takes
away what it finds there. A file that no entry of its own replaces is therefore kept if and only if no
entry puts its incomplete file in the same place (`installEntries_survives_iff`), be it a file that was
there before or the file of an earlier entry (`extract_keeps_iff`).
-/

namespace SpeechHost.Install

open SpeechHost.Storage SpeechHost.Storage.Disk SpeechHost.Zip

variable {decoder : Decoder} {bytes : Bytes} {root : Path} {d d' : Disk} {e : Entry}
  {es : List Entry} {s s' : Summary} {l : Location}

/-! ## One entry -/

theorem installEntry_keeps (h : installEntry decoder bytes root e d = (.ok (), d')) {n : Node}
    (hl : d.find? l = some n) (hplace : e.isDirectory = false → entryPlace d root e ≠ l)
    (hpartial : e.isDirectory = false → partialPlace d root e ≠ l) : d'.find? l = some n := by
  cases hdir : e.isDirectory with
  | false =>
    obtain ⟨content, mid, -, hgrows, hplaced, -⟩ := installEntry_file_ok hdir h
    rw [hplaced.find?, if_neg (Ne.symm (hplace hdir)), if_neg (Ne.symm (hpartial hdir))]
    exact hgrows.keeps hl
  | true => exact (installEntry_directory_ok hdir h).1.keeps hl

theorem installEntry_noFileAt (h : installEntry decoder bytes root e d = (.ok (), d'))
    (hl : NoFileAt d l) (hplace : e.isDirectory = false → entryPlace d root e ≠ l) :
    NoFileAt d' l := by
  cases hdir : e.isDirectory with
  | false =>
    obtain ⟨content, mid, -, hgrows, hplaced, -⟩ := installEntry_file_ok hdir h
    intro n hn
    rw [hplaced.find?, if_neg (Ne.symm (hplace hdir))] at hn
    split_ifs at hn
    exact hl.grows hgrows n hn
  | true => exact hl.grows (installEntry_directory_ok hdir h).1

theorem installEntry_clears (hfile : e.isDirectory = false)
    (h : installEntry decoder bytes root e d = (.ok (), d')) :
    NoFileAt d' (partialPlace d root e) := by
  obtain ⟨content, mid, -, -, hplaced, -⟩ := installEntry_file_ok hfile h
  intro n hn
  rw [hplaced.find?, if_neg hplaced.apart, if_pos rfl] at hn
  contradiction

/-! ## Entries in order -/

theorem installEntries_noFileAt (h : installEntries decoder bytes root s d es = (.ok s', d'))
    (hl : NoFileAt d l)
    (hplace : ∀ f ∈ es, f.isDirectory = false → entryPlace d root f ≠ l) : NoFileAt d' l := by
  induction es generalizing s d with
  | nil =>
    obtain rfl : d = d' := congrArg Prod.snd h
    exact hl
  | cons e es ih =>
    obtain ⟨mid, hstep, hrest⟩ := installEntries_cons_ok h
    have hcwd := cwd_installEntry hstep
    refine ih hrest (installEntry_noFileAt hstep hl (hplace e (by simp))) fun f hf => ?_
    rw [entryPlace_congr hcwd]
    exact hplace f (by simp [hf])

/-- A file that no entry replaces is kept if and only if no entry puts its incomplete file there. -/
theorem installEntries_survives_iff (h : installEntries decoder bytes root s d es = (.ok s', d'))
    {n : Node} (hl : d.find? l = some n) (hn : n ≠ .directory)
    (hplace : ∀ f ∈ es, f.isDirectory = false → entryPlace d root f ≠ l) :
    d'.find? l = some n ↔ ∀ f ∈ es, f.isDirectory = false → partialPlace d root f ≠ l := by
  induction es generalizing s d with
  | nil =>
    obtain rfl : d = d' := congrArg Prod.snd h
    simp [hl]
  | cons e es ih =>
    obtain ⟨mid, hstep, hrest⟩ := installEntries_cons_ok h
    have hcwd := cwd_installEntry hstep
    have hlater : ∀ f ∈ es, f.isDirectory = false → entryPlace mid root f ≠ l := by
      intro f hf
      rw [entryPlace_congr hcwd]
      exact hplace f (by simp [hf])
    by_cases hclash : e.isDirectory = false ∧ partialPlace d root e = l
    · -- the file gives way to the incomplete one and never comes back
      obtain ⟨hfile, rfl⟩ := hclash
      have hgone := installEntries_noFileAt hrest (installEntry_clears hfile hstep) hlater
      constructor
      · intro hkept
        exact absurd (hgone n hkept) hn
      · intro hfree
        exact absurd rfl (hfree e (by simp) hfile)
    · have hfree : e.isDirectory = false → partialPlace d root e ≠ l := fun hfile heq =>
        hclash ⟨hfile, heq⟩
      have hkept := installEntry_keeps hstep hl (hplace e (by simp)) hfree
      rw [ih hrest hkept hlater]
      simp only [partialPlace_congr hcwd, List.forall_mem_cons]
      exact ⟨fun hall => ⟨hfree, hall⟩, fun hall => hall.2⟩

/-! ## An archive -/

/-- An extraction that succeeds holds the files of its entries and the files that were there before,
where no later entry is put in the same place, if and only if none of them stands where an entry
leaves its incomplete file. -/
theorem extract_keeps_iff (hentries : entries bytes = .ok es)
    (h : extractWith decoder bytes root d = (.ok s, d')) :
    (∀ as e bs, es = as ++ e :: bs → e.isDirectory = false →
      (∀ f ∈ bs, entryPlace d root f ≠ entryPlace d root e) →
      ∃ content, payload? decoder bytes e = some content ∧
        (d'.find? (entryPlace d root e) = some (.file content) ↔
          ∀ f ∈ bs, f.isDirectory = false → partialPlace d root f ≠ entryPlace d root e)) ∧
    ∀ l n, d.find? l = some n → n ≠ .directory → (∀ f ∈ es, entryPlace d root f ≠ l) →
      (d'.find? l = some n ↔ ∀ f ∈ es, f.isDirectory = false → partialPlace d root f ≠ l) := by
  simp only [extractWith, hentries] at h
  constructor
  · rintro as e bs rfl hfile hlast
    obtain ⟨r, before, hearlier, hrest⟩ := installEntries_append_ok h
    obtain ⟨mid, hstep, hlater⟩ := installEntries_cons_ok hrest
    obtain ⟨content, made, hpayload, -, hplaced, -⟩ := installEntry_file_ok hfile hstep
    have hstart := cwd_installEntries hearlier
    have hcwd := (cwd_installEntry hstep).trans hstart
    rw [entryPlace_congr hstart] at hplaced
    have hthere : mid.find? (entryPlace d root e) = some (.file content) := by
      rw [hplaced.find?, if_pos rfl]
    refine ⟨content, hpayload, ?_⟩
    have hiff := installEntries_survives_iff hlater hthere (by simp) fun f hf _ => by
      rw [entryPlace_congr hcwd]
      exact hlast f hf
    simpa only [partialPlace_congr hcwd] using hiff
  · intro l n hl hn hplace
    exact installEntries_survives_iff h hl hn fun f hf _ => hplace f hf

/-! ## A clash -/

/-- A file, and one that is written under the name of the first. -/
def clashing : Bytes :=
  StoredFile.archive [.ofContent "a.part" [120], .ofContent "a" [121]]

def oneFile : Disk :=
  ⟨["w"], [(["w"], .directory), (["w", "d"], .directory), (["w", "d", "b"], .file [122])]⟩

theorem entries_clashing :
    ∃ e f, entries clashing = .ok [e, f] ∧
      (e.isDirectory = false ∧ entryPlace oneFile ⟨["d"]⟩ e = ["w", "d", "a.part"] ∧
        partialPlace oneFile ⟨["d"]⟩ e = ["w", "d", "a.part.part"]) ∧
      f.isDirectory = false ∧ entryPlace oneFile ⟨["d"]⟩ f = ["w", "d", "a"] ∧
        partialPlace oneFile ⟨["d"]⟩ f = ["w", "d", "a.part"] := by
  have hcheck : (entries clashing).toOption.any fun es =>
      es.map (fun e => (e.isDirectory, entryPlace oneFile ⟨["d"]⟩ e,
        partialPlace oneFile ⟨["d"]⟩ e)) ==
      [(false, ["w", "d", "a.part"], ["w", "d", "a.part.part"]),
        (false, ["w", "d", "a"], ["w", "d", "a.part"])] := by decide +kernel
  obtain ⟨es, hentries, hes⟩ := exists_ok_of_any hcheck
  simp only [beq_iff_eq, List.map_eq_cons_iff, List.map_eq_nil_iff, Prod.mk.injEq] at hes
  obtain ⟨e, _, rfl, he, f, _, rfl, hf, rfl⟩ := hes
  exact ⟨e, f, hentries, he, hf⟩

theorem extract_clashing :
    ∃ s, extract clashing ⟨["d"]⟩ oneFile = (.ok s, (extract clashing ⟨["d"]⟩ oneFile).2) := by
  have hcheck : (extract clashing ⟨["d"]⟩ oneFile).1.toOption.any fun _ => true := by
    decide +kernel
  obtain ⟨s, hs, -⟩ := exists_ok_of_any hcheck
  exact ⟨s, by rw [← hs]⟩

theorem extract_keeps_iff_clashing :
    ∃ e f s d', entries clashing = .ok [e, f] ∧ extract clashing ⟨["d"]⟩ oneFile = (.ok s, d') ∧
      d'.find? ["w", "d", "b"] = some (.file [122]) ∧
      ∀ content, payload? decode clashing e = some content →
        d'.find? (entryPlace oneFile ⟨["d"]⟩ e) ≠ some (.file content) := by
  obtain ⟨e, f, hentries, ⟨he, hplace, hpartial⟩, hf, hplace', hpartial'⟩ := entries_clashing
  obtain ⟨s, hrun⟩ := extract_clashing
  obtain ⟨hentry, hthere⟩ := extract_keeps_iff hentries hrun
  refine ⟨e, f, s, _, hentries, hrun, ?_, fun content hcontent hkept => ?_⟩
  · refine (hthere _ _ rfl (by simp) ?_).2 ?_
    · simp [hplace, hplace']
    · simp [hpartial, hpartial']
  · obtain ⟨content', hcontent', hiff⟩ :=
      hentry [] e [f] rfl he (by simp [hplace, hplace'])
    obtain rfl := Option.some.inj (hcontent.symm.trans hcontent')
    exact hiff.1 hkept f (by simp) hf (by rw [hpartial', hplace])

/-- A file of an archive can be gone when its extraction has succeeded, though no later entry is put in
its place. -/
theorem extract_loses_file :
    ∃ e f s d', entries clashing = .ok [e, f] ∧ e.isDirectory = false ∧
      entryPlace oneFile ⟨["d"]⟩ f ≠ entryPlace oneFile ⟨["d"]⟩ e ∧
      extract clashing ⟨["d"]⟩ oneFile = (.ok s, d') ∧
      d'.find? (entryPlace oneFile ⟨["d"]⟩ e) = none := by
  obtain ⟨e, f, hentries, ⟨he, hplace, -⟩, -, hplace', -⟩ := entries_clashing
  obtain ⟨s, hrun⟩ := extract_clashing
  refine ⟨e, f, s, _, hentries, he, by simp [hplace, hplace'], hrun, ?_⟩
  have hnone : ((extract clashing ⟨["d"]⟩ oneFile).2.find? ["w", "d", "a.part"]).isNone := by
    decide +kernel
  rw [hplace]
  exact Option.isNone_iff_eq_none.1 hnone

end SpeechHost.Install
