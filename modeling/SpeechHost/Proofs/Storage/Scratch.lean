import SpeechHost.Proofs.Storage.Repeat
/-!
# A file that is there for a while

Where nothing stands at the end of a path, a file can be written there, and written again, and taken away:
the tree is then the very same as before (`Littered.removeFile`).
-/

namespace SpeechHost.Storage.Disk

variable {d d' d'' : Disk} {p : Path} {l : Location}

theorem erase_of_find?_none (h : d.find? l = none) : d.erase l = d := by
  have hl : l ≠ [] := by
    rintro rfl
    simp at h
  rw [find?_of_ne_nil d hl, List.lookup_eq_none_iff] at h
  obtain ⟨cwd, entries⟩ := d
  rw [erase, Disk.mk.injEq]
  refine ⟨rfl, List.filter_eq_self.2 fun e he => ?_⟩
  simpa [bne, BEq.comm (a := e.1)] using h e he

theorem erase_put (d : Disk) (l : Location) (n : Node) : (d.put l n).erase l = d.erase l := by
  simp [erase, put]

theorem put_put (d : Disk) (l : Location) (n n' : Node) : (d.put l n).put l n' = d.put l n' := by
  rw [put, erase_put]
  rfl

/-- The tree, perhaps with a file at the end of a path. -/
def Littered (p : Path) (d d' : Disk) : Prop :=
  d' = d ∨ ∃ l content, d.writeFileAt p content = .ok (l, d')

theorem keeps_writeFileAt {content : Bytes} (h : d.writeFileAt p content = .ok (l, d')) : Keeps d d' := by
  obtain ⟨-, hl, hfree, rfl, -⟩ := writeFileAt_ok h
  refine ⟨rfl, fun x hx => ?_⟩
  rw [find?_put hl, if_neg, hx]
  rintro rfl
  exact hfree hx

theorem Littered.writeFile {content : Bytes} (h : Littered p d d')
    (hgranted : d'.writeFile p content = .ok d'') : Littered p d d'' := by
  obtain ⟨⟨l, _⟩, hwrite, rfl⟩ := map_ok hgranted
  rcases h with rfl | ⟨l', content', hthere⟩
  · exact .inr ⟨l, content, hwrite⟩
  · obtain ⟨hdest, hl', hfree, rfl, -⟩ := writeFileAt_ok hthere
    -- the file is written over
    have hagain : d.writeFileAt p content = .ok (l', d.put l' (.file content)) :=
      writeFileAt_repeat ⟨rfl, fun _ => id⟩ (hdest ▸ hfree) hthere
    have hover : (d.put l' (.file content')).writeFileAt p content =
        .ok (l', (d.put l' (.file content')).put l' (.file content)) :=
      writeFileAt_repeat (keeps_writeFileAt hthere) (by simp [← hdest, find?_put hl']) hthere
    rw [put_put, ← hagain] at hover
    exact .inr ⟨l, content, hover.symm.trans hwrite⟩

theorem Littered.find?_program {q : Program} (h : Littered p d d')
    (hfind : d'.find? l = some (.program q)) : d.find? l = some (.program q) := by
  rcases h with rfl | ⟨place, content, hthere⟩
  · exact hfind
  · obtain ⟨-, hplace, -, rfl, -⟩ := writeFileAt_ok hthere
    rw [find?_put hplace] at hfind
    split_ifs at hfind
    · simp at hfind
    · exact hfind

theorem Littered.removeFile (h : Littered p d d') (hfree : d.find? (d.destination p) = none) :
    d' = d ∧ (∃ e, d'.removeFile p = .error e) ∨ d'.removeFile p = .ok d := by
  rcases h with rfl | ⟨l, content, hthere⟩
  · cases hremove : d'.removeFile p with
    | error e => exact .inl ⟨rfl, e, rfl⟩
    | ok d =>
      obtain ⟨l, s, node, hspot, -, hfind, -⟩ := removeFile_iff.1 hremove
      rw [(spot_name hspot).1, hfree] at hfind
      contradiction
  · have hkeeps := keeps_writeFileAt hthere
    obtain ⟨rfl, hl, -, rfl, -⟩ := writeFileAt_ok hthere
    have hfind : (d.put (d.destination p) (.file content)).find? (d.destination p) = some (.file content) :=
      find?_put_self d _ _ hl
    right
    rw [removeFile_written hthere hkeeps.cwd hkeeps.dirs hfind, erase_put, erase_of_find?_none hfree]

end SpeechHost.Storage.Disk
