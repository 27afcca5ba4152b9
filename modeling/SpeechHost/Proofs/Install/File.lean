import SpeechHost.Proofs.Install.Placement
/-!
# What putting a file in its place does to the tree

A file that is put in its place changes two places: its own, and that of the incomplete file, where
nothing is left (`writeEntry_ok`). An attempt that fails at any point, be it after any number of copied
blocks, changes at most the place of the incomplete file (`writeEntry_error`).
-/

namespace SpeechHost.Install

open SpeechHost.Storage SpeechHost.Storage.Path SpeechHost.Zip

/-! ## Copying -/

/-- The content of data that arrives whole. -/
def Delivery.content? (v : Delivery) : Option Bytes :=
  match v.failure with
  | none => some v.blocks.flatten
  | some _ => none

/-- The content of an entry, if it can be read to its end. -/
def payload? (decoder : Decoder) (bytes : Bytes) (e : Entry) : Option Bytes :=
  match e.locate bytes with
  | .ok data => (decoder e data).content?
  | .error _ => none

theorem content?_ofContent (r : Except DataError Bytes) :
    (Delivery.ofContent r).content? = r.toOption := by
  cases r with
  | ok content => simp [Delivery.ofContent, Delivery.content?, flatten_blocks, Except.toOption]
  | error e => rfl

theorem payload?_decode (bytes : Bytes) (e : Entry) :
    payload? decode bytes e =
      match e.locate bytes with
      | .ok data => (e.content data).toOption
      | .error _ => none := by
  unfold payload?
  cases e.locate bytes with
  | ok data => exact content?_ofContent _
  | error error => rfl

theorem cwd_copyBlocks (l : Location) (bs : List Bytes) (w : Bytes) (d : Disk) :
    (copyBlocks l w d bs).cwd = d.cwd := by
  induction bs generalizing w d with
  | nil => rfl
  | cons b bs ih => rw [copyBlocks, ih, Disk.fileTree_rewriteFile, Disk.cwd_put]

theorem find?_copyBlocks {l : Location} (hl : l ≠ []) (bs : List Bytes) {w : Bytes} {d : Disk}
    (h : d.find? l = some (.file w)) (x : Location) :
    (copyBlocks l w d bs).find? x =
      if x = l then some (.file (w ++ bs.flatten)) else d.find? x := by
  induction bs generalizing w d with
  | nil =>
    rw [copyBlocks, List.flatten_nil, List.append_nil]
    split_ifs with hx
    · rw [hx, h]
    · rfl
  | cons b bs ih =>
    rw [copyBlocks, Disk.fileTree_rewriteFile, ih (d.find?_put_self l _ hl), Disk.find?_put hl]
    split_ifs with hx
    · rw [List.flatten_cons, List.append_assoc]
    · rfl

/-! ## A file -/

variable {d d' : Disk} {target : Path} {v : Delivery}

/-- A file stands at `t`, and what stood at `o` has gone. -/
structure Placed (content : Bytes) (t o : Location) (d d' : Disk) : Prop where
  cwd : d'.cwd = d.cwd
  apart : o ≠ t
  targetFree : d.find? t ≠ some .directory
  otherFree : d.find? o ≠ some .directory
  find? : ∀ l, d'.find? l =
    if l = t then some (.file content) else if l = o then none else d.find? l

/-- Nothing has changed, but that a file may have gone from `o`. -/
structure Undone (o : Location) (d d' : Disk) : Prop where
  cwd : d'.cwd = d.cwd
  find? : ∀ l, d'.find? l = d.find? l ∨
    (l = o ∧ d.find? o ≠ some .directory ∧ d'.find? o = none)

theorem Placed.keeps {content : Bytes} {t o : Location} (h : Placed content t o d d') {l : Location}
    (hl : d.find? l = some .directory) : d'.find? l = some .directory := by
  rw [h.find? l, if_neg, if_neg, hl]
  · rintro rfl
    exact h.otherFree hl
  · rintro rfl
    exact h.targetFree hl

theorem Undone.refl (o : Location) (d : Disk) : Undone o d d :=
  ⟨rfl, fun _ => .inl rfl⟩

theorem undone_discard (d : Disk) (p : Path) : Undone (d.destination p) d (discard d p) := by
  unfold discard
  rw [Disk.fileTree_removeFile]
  cases h : d.removeFile p with
  | error e => exact Undone.refl _ d
  | ok d' =>
    obtain ⟨hnil, hfree, rfl⟩ := Disk.removeFile_ok h
    refine ⟨rfl, fun l => ?_⟩
    rw [Disk.find?_erase hnil, Disk.find?_erase hnil]
    by_cases hl : l = d.destination p
    · exact .inr ⟨hl, hfree, if_pos rfl⟩
    · exact .inl (if_neg hl)

theorem written_spec {other : Path} {l : Location} {opened : Disk}
    (h : d.writeFileAt other [] = .ok (l, opened)) (bs : List Bytes) :
    (copyBlocks l [] opened bs).cwd = d.cwd ∧
      ∀ x, (copyBlocks l [] opened bs).find? x =
        if x = l then some (.file bs.flatten) else d.find? x := by
  obtain ⟨-, hnil, -, rfl, -⟩ := Disk.writeFileAt_ok h
  refine ⟨by rw [cwd_copyBlocks, Disk.cwd_put], fun x => ?_⟩
  rw [find?_copyBlocks hnil bs (d.find?_put_self l _ hnil), Disk.find?_put hnil, List.nil_append]
  split_ifs <;> rfl

theorem writeAndRename_ok {other : Path} (h : writeAndRename v target other d = (.ok (), d')) :
    ∃ l opened, d.writeFileAt other [] = .ok (l, opened) ∧ v.failure = none ∧
      (copyBlocks l [] opened v.blocks).renameFile other target = .ok d' := by
  unfold writeAndRename at h
  simp only [Disk.fileTree_writeFileAt, Disk.fileTree_renameFile] at h
  cases hopen : d.writeFileAt other [] with
  | error f => simp [hopen] at h
  | ok r =>
    obtain ⟨l, opened⟩ := r
    cases hv : v.failure with
    | some e => simp [hopen, hv] at h
    | none =>
      cases hren : (copyBlocks l [] opened v.blocks).renameFile other target with
      | error f => simp [hopen, hv, hren] at h
      | ok d₁ =>
        obtain rfl : d₁ = d' := by simpa [hopen, hv, hren] using h
        exact ⟨l, opened, rfl, rfl, hren⟩

theorem writeAndRename_error {other : Path} {cause : EntryCause}
    (h : writeAndRename v target other d = (.error cause, d')) :
    d' = d ∨ ∃ l opened, d.writeFileAt other [] = .ok (l, opened) ∧
      d' = copyBlocks l [] opened v.blocks := by
  unfold writeAndRename at h
  simp only [Disk.fileTree_writeFileAt, Disk.fileTree_renameFile] at h
  cases hopen : d.writeFileAt other [] with
  | error f =>
    rw [hopen] at h
    exact .inl (congrArg Prod.snd h).symm
  | ok r =>
    obtain ⟨l, opened⟩ := r
    refine .inr ⟨l, opened, rfl, ?_⟩
    cases hv : v.failure with
    | some e =>
      simp only [hopen, hv, Prod.mk.injEq] at h
      exact h.2.symm
    | none =>
      cases hren : (copyBlocks l [] opened v.blocks).renameFile other target with
      | error f =>
        simp only [hopen, hv, hren, Prod.mk.injEq] at h
        exact h.2.symm
      | ok d₁ => simp [hopen, hv, hren] at h

theorem writeEntry_ok_iff : writeEntry v target d = (.ok (), d') ↔
    writeAndRename v target (target.append partialEnding) d = (.ok (), d') := by
  unfold writeEntry
  rcases hwrite : writeAndRename v target (target.append partialEnding) d with ⟨cause | u, d₁⟩ <;>
    simp [hwrite]

/-- A file that is in its place is complete, and the incomplete one is gone. -/
theorem writeEntry_ok (h : writeEntry v target d = (.ok (), d')) :
    ∃ content, v.content? = some content ∧
      Placed content (d.destination target) (d.destination (target.append partialEnding)) d d' ∧
      (∀ x ∈ d.way target, x = d.destination target ∨ d.find? x = some .directory) ∧
      ∃ l s, target.pieces.getLast? = some s ∧ d.destination target = l ++ [s] := by
  obtain ⟨l, opened, hopen, hv, hren⟩ := writeAndRename_ok (writeEntry_ok_iff.1 h)
  obtain ⟨rfl, hnil, hfree, -, -⟩ := Disk.writeFileAt_ok hopen
  obtain ⟨hcwd, hfind⟩ := written_spec hopen v.blocks
  generalize copyBlocks (d.destination (target.append partialEnding)) [] opened v.blocks =
    written at hren hcwd hfind
  obtain ⟨node, a, s, hnode, -, -, hnil', hfree', rfl, hp, hstay, hup, hway⟩ :=
    Disk.renameFile_ok hren
  rw [Disk.destination_congr hcwd] at hnode hnil' hfree' hway
  rw [Disk.destination_congr hcwd, Disk.destination_congr hcwd]
  rw [Disk.way_congr hcwd] at hway
  obtain ⟨above, ht, ho⟩ := destination_side hp hstay hup d
  have hapart : d.destination (target.append partialEnding) ≠ d.destination target := by
    rw [ht, ho]
    simpa using append_partial_ne s
  rw [hfind, if_pos rfl] at hnode
  obtain rfl := Option.some.inj hnode
  rw [hfind, if_neg hapart.symm] at hfree'
  refine ⟨v.blocks.flatten, by rw [Delivery.content?, hv],
    ⟨hcwd, hapart, hfree', hfree, fun x => ?_⟩, fun x hx => ?_, above, s, by simp [hp], ht⟩
  · rw [Disk.find?_put hnil', Disk.find?_erase hnil, hfind]
    split_ifs <;> rfl
  · rcases hway x hx with rfl | hdir
    · exact .inl rfl
    · rw [hfind] at hdir
      split_ifs at hdir
      · exact absurd (Option.some.inj hdir) (by simp)
      · exact .inr hdir

theorem undone_discard_copied {other : Path} {l : Location} {opened : Disk}
    (h : d.writeFileAt other [] = .ok (l, opened)) (bs : List Bytes) :
    Undone (d.destination other) d (discard (copyBlocks l [] opened bs) other) := by
  obtain ⟨rfl, hnil, hfree, -, -⟩ := Disk.writeFileAt_ok h
  obtain ⟨hcwd, hfind⟩ := written_spec h bs
  have hdirs : ∀ x, d.find? x = some .directory →
      (copyBlocks (d.destination other) [] opened bs).find? x = some .directory := by
    intro x hx
    rw [hfind, if_neg, hx]
    rintro rfl
    exact hfree hx
  rw [discard, Disk.fileTree_removeFile, Disk.removeFile_written h hcwd hdirs ((hfind _).trans (if_pos rfl))]
  refine ⟨hcwd, fun x => ?_⟩
  rw [Disk.find?_erase hnil, Disk.find?_erase hnil, hfind]
  by_cases hx : x = d.destination other
  · exact .inr ⟨hx, hfree, if_pos rfl⟩
  · exact .inl (by rw [if_neg hx, if_neg hx])

/-- A file that could not be put in its place leaves nothing behind. -/
theorem writeEntry_error {cause : EntryCause} (h : writeEntry v target d = (.error cause, d')) :
    Undone (d.destination (target.append partialEnding)) d d' := by
  unfold writeEntry at h
  cases hwrite : writeAndRename v target (target.append partialEnding) d with
  | mk r d₁ =>
    cases r with
    | ok u => simp [hwrite] at h
    | error cause' =>
      have heq : discard d₁ (target.append partialEnding) = d' := by
        simp only [hwrite, Prod.mk.injEq] at h
        exact h.2
      rw [← heq]
      rcases writeAndRename_error hwrite with rfl | ⟨l, opened, hopen, rfl⟩
      · exact undone_discard ..
      · exact undone_discard_copied hopen v.blocks

end SpeechHost.Install
