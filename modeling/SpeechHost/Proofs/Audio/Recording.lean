import SpeechHost.Audio.WaveFile
import SpeechHost.Proofs.Audio.Wave
import SpeechHost.Proofs.Storage.Request
/-!
# What a recording leaves in its file

Some of the bytes of a recording are in the file and some are held back (`Recording.Holds`). A push only
moves the border between them (`Recording.holds_push`), and closing the recording moves the rest and puts
the sizes into the header (`Recording.find?_close`). What stood in the file behind them is left alone, as
happens when another recording of the same file has not been closed before.
-/

namespace SpeechHost.Audio

open SpeechHost.Storage SpeechHost.Storage.Disk

/-! ## Writing over a file -/

theorem overlay_append (front old bytes : Bytes) :
    overlay (front ++ old) front.length bytes = front ++ bytes ++ old.drop bytes.length := by
  have hpad : front.length - (front ++ old).length = 0 := by simp
  have hdrop : (front ++ old).drop (front.length + bytes.length) = old.drop bytes.length := by simp
  simp only [overlay, hpad, hdrop, List.take_left, List.replicate_zero, List.append_nil]

theorem overlay_replace (front part rest : Bytes) {bytes : Bytes} (h : bytes.length = part.length) :
    overlay (front ++ part ++ rest) front.length bytes = front ++ bytes ++ rest := by
  rw [List.append_assoc, overlay_append, h, List.drop_left]

namespace Wave

theorem length_headerWith (a : Announcement) (fileSize dataSize : Nat) :
    (headerWith a fileSize dataSize).length = 20 + (formatChunk a).length := by
  have htag : (tag "RIFF").length = 4 ∧ (tag "WAVE").length = 4 ∧ (tag "data").length = 4 :=
    ⟨rfl, rfl, rfl⟩
  simp only [headerWith, List.length_append, length_littleEndian, htag]
  omega

theorem overlay_fileSize (a : Announcement) (old fileSize dataSize : Nat) (rest : Bytes) :
    overlay (headerWith a old dataSize ++ rest) fileSizeAt (littleEndian 4 fileSize) =
      headerWith a fileSize dataSize ++ rest := by
  have hlength : (littleEndian 4 fileSize).length = (littleEndian 4 old).length := by
    simp only [length_littleEndian]
  have hreplace := overlay_replace (tag "RIFF") (littleEndian 4 old)
    (tag "WAVE" ++ formatChunk a ++ tag "data" ++ littleEndian 4 dataSize ++ rest) hlength
  rw [show (tag "RIFF").length = fileSizeAt from rfl] at hreplace
  simpa only [headerWith, List.append_assoc] using hreplace

theorem overlay_dataSize (a : Announcement) (fileSize old dataSize : Nat) (rest : Bytes) :
    overlay (headerWith a fileSize old ++ rest) (dataSizeAt a) (littleEndian 4 dataSize) =
      headerWith a fileSize dataSize ++ rest := by
  have hat : (tag "RIFF" ++ littleEndian 4 fileSize ++ tag "WAVE" ++ formatChunk a ++ tag "data").length =
      dataSizeAt a := by
    have hheader := length_headerWith a fileSize old
    rw [headerWith, List.length_append, length_littleEndian] at hheader
    rw [dataSizeAt]
    omega
  have hlength : (littleEndian 4 dataSize).length = (littleEndian 4 old).length := by
    simp only [length_littleEndian]
  have hreplace := overlay_replace
    (tag "RIFF" ++ littleEndian 4 fileSize ++ tag "WAVE" ++ formatChunk a ++ tag "data")
    (littleEndian 4 old) rest hlength
  rw [hat] at hreplace
  exact hreplace

end Wave

/-- Directories stand where they stood, and so do files, whatever is in them. -/
structure Rewritten (d d' : Disk) : Prop where
  cwd : d'.cwd = d.cwd
  directory : ∀ l, d.find? l = some .directory → d'.find? l = some .directory
  file : ∀ l content, d.find? l = some (.file content) →
    ∃ content', d'.find? l = some (.file content')

variable {d d' d'' : Disk} {l : Location} {offset : Nat} {bytes content data : Bytes}

theorem Rewritten.refl (d : Disk) : Rewritten d d :=
  ⟨rfl, fun _ h => h, fun _ content h => ⟨content, h⟩⟩

theorem Rewritten.trans (h : Rewritten d d') (h' : Rewritten d' d'') : Rewritten d d'' := by
  refine ⟨h'.cwd.trans h.cwd, fun l hl => h'.directory l (h.directory l hl), fun l content hl => ?_⟩
  obtain ⟨content', hl'⟩ := h.file l content hl
  exact h'.file l content' hl'

theorem find?_patch (hl : l ≠ []) (h : d.find? l = some (.file content)) (offset : Nat)
    (bytes : Bytes) : (patch d l offset bytes).find? l = some (.file (overlay content offset bytes)) := by
  rw [patch, h]
  exact find?_put_self d l _ hl

theorem rewritten_patch (d : Disk) (l : Location) (offset : Nat) (bytes : Bytes) :
    Rewritten d (patch d l offset bytes) := by
  unfold patch
  split
  next content hl =>
    have hnil : l ≠ [] := by
      rintro rfl
      simp at hl
    refine ⟨rfl, fun x hx => ?_, fun x c hx => ?_⟩
    · rw [find?_put hnil]
      split_ifs with heq
      · rw [heq, hl] at hx
        simp at hx
      · exact hx
    · rw [find?_put hnil]
      split_ifs with heq
      · exact ⟨_, rfl⟩
      · exact ⟨c, hx⟩
  next => exact Rewritten.refl d

namespace Recording

variable {r : Recording}

/-- The first bytes of the content are in the file, and the others are held back. -/
def Holds (r : Recording) (content : Bytes) (d : Disk) : Prop :=
  r.location ≠ [] ∧ ∃ front old, content = front ++ r.held ∧ front.length = r.written ∧
    d.find? r.location = some (.file (front ++ old))

@[simp] theorem location_push (r : Recording) (bytes : Bytes) (d : Disk) :
    (r.push bytes d).1.location = r.location := by
  unfold push
  simp only
  split_ifs <;> rfl

@[simp] theorem announced_push (r : Recording) (bytes : Bytes) (d : Disk) :
    (r.push bytes d).1.announced = r.announced := by
  unfold push
  simp only
  split_ifs <;> rfl

theorem rewritten_push (r : Recording) (bytes : Bytes) (d : Disk) :
    Rewritten d (r.push bytes d).2 := by
  unfold push
  simp only
  split_ifs
  · exact Rewritten.refl d
  · exact rewritten_patch ..

theorem holds_push (h : r.Holds content d) (bytes : Bytes) :
    (r.push bytes d).1.Holds (content ++ bytes) (r.push bytes d).2 := by
  obtain ⟨hnil, front, old, rfl, hwritten, hfile⟩ := h
  unfold push
  simp only
  split_ifs
  · exact ⟨hnil, front, old, List.append_assoc .., hwritten, hfile⟩
  · generalize hready : ((r.held ++ bytes).length - 1) / blockBytes * blockBytes = ready
    have hle : ready ≤ (r.held ++ bytes).length := by
      rw [← hready]
      exact (Nat.div_mul_le_self _ _).trans (Nat.sub_le _ _)
    refine ⟨hnil, front ++ (r.held ++ bytes).take ready,
      old.drop ((r.held ++ bytes).take ready).length, ?_, ?_, ?_⟩
    · rw [List.append_assoc, List.append_assoc, List.take_append_drop]
    · rw [List.length_append, hwritten, List.length_take, Nat.min_eq_left hle]
    · rw [find?_patch hnil hfile, ← hwritten, overlay_append]

theorem rewritten_close (r : Recording) (d : Disk) : Rewritten d (r.close d) :=
  (rewritten_patch ..).trans ((rewritten_patch ..).trans (rewritten_patch ..))

theorem find?_close (h : r.Holds (Wave.openHeader r.announced ++ data) d) :
    ∃ old, (r.close d).find? r.location =
      some (.file (Wave.header r.announced data.length ++ data ++ old)) := by
  obtain ⟨hnil, front, old, hcontent, hwritten, hfile⟩ := h
  have htotal : r.written + r.held.length = (Wave.openHeader r.announced ++ data).length := by
    rw [hcontent, List.length_append, hwritten]
  have hlength : (Wave.openHeader r.announced).length = 20 + (Wave.formatChunk r.announced).length :=
    Wave.length_headerWith ..
  have hsize : r.written + r.held.length - (Wave.openHeader r.announced).length = data.length := by
    rw [htotal, List.length_append]
    omega
  have hrest : r.written + r.held.length - 8 = 4 + (Wave.formatChunk r.announced).length + 8 + data.length := by
    rw [htotal, List.length_append, hlength]
    omega
  have hheld := find?_patch hnil hfile r.written r.held
  rw [← hwritten, overlay_append, hwritten, ← hcontent, Wave.openHeader, List.append_assoc] at hheld
  have hfileSize := find?_patch hnil hheld Wave.fileSizeAt
    (littleEndian 4 (r.written + r.held.length - 8))
  rw [Wave.overlay_fileSize] at hfileSize
  have hdataSize := find?_patch hnil hfileSize (Wave.dataSizeAt r.announced)
    (littleEndian 4 (r.written + r.held.length - (Wave.openHeader r.announced).length))
  rw [Wave.overlay_dataSize, hsize, hrest, ← List.append_assoc] at hdataSize
  refine ⟨old.drop r.held.length, ?_⟩
  simp only [close, hsize, hrest]
  exact hdataSize

end Recording

/-! ## The sink -/

theorem WaveFile.recoded_of_dvd {format : Format} {buffer : Bytes} (h : format.width ∣ buffer.length) :
    recoded format buffer = buffer := by
  cases format with
  | pcm8 => simp [recoded]
  | pcm16 => exact Wave.flatMap_samplesOf h

namespace WaveFile

variable {f : WaveFile} {a : Announcement}

/-- A sink that has a recording of these samples under way, in a file at `l`. -/
structure Records (f : WaveFile) (l : Location) (a : Announcement) (data : Bytes) (d : Disk) : Prop where
  format : f.format = a.format
  recording : ∃ r, f.recording = some r ∧ r.location = l ∧ r.announced = a ∧
    r.Holds (Wave.openHeader a ++ data) d

theorem rewritten_close (f : WaveFile) (d : Disk) : Rewritten d (f.close d).2 := by
  unfold close
  split
  · exact Rewritten.refl d
  · exact Recording.rewritten_close ..

theorem start_ok (a : Announcement) (h : d.writeFileAt f.path [] = .ok (l, d')) :
    ∃ f' d'', f.start a d = (.ok (), f', d'') ∧ f'.Records l a [] d'' ∧ Rewritten d' d'' := by
  obtain ⟨-, hnil, -, rfl, -⟩ := writeFileAt_ok h
  rcases hclose : f.close (d.put l (.file [])) with ⟨g, e⟩
  have hclosed : Rewritten (d.put l (.file [])) e := by
    have hrewritten := f.rewritten_close (d.put l (.file []))
    rwa [hclose] at hrewritten
  obtain ⟨old, hfile⟩ := hclosed.file l [] (find?_put_self d l _ hnil)
  have hempty : (Recording.mk l a 0 []).Holds [] e := ⟨hnil, [], old, rfl, rfl, hfile⟩
  have hpushed := Recording.holds_push hempty (Wave.openHeader a)
  have hrewritten := Recording.rewritten_push ⟨l, a, 0, []⟩ (Wave.openHeader a) e
  have hlocation := Recording.location_push ⟨l, a, 0, []⟩ (Wave.openHeader a) e
  have hannounced := Recording.announced_push ⟨l, a, 0, []⟩ (Wave.openHeader a) e
  rcases hpush : (Recording.mk l a 0 []).push (Wave.openHeader a) e with ⟨r, e'⟩
  rw [hpush] at hpushed hrewritten hlocation hannounced
  refine ⟨{ g with recording := some r, format := a.format }, e', ?_, ⟨rfl, r, rfl, hlocation,
    hannounced, ?_⟩, hclosed.trans hrewritten⟩
  · simp only [start, h, hclose, hpush]
  · simpa using hpushed

theorem audio_ok {buffer : Bytes} (h : f.Records l a data d) (hbuffer : a.format.width ∣ buffer.length) :
    ∃ f' d', f.audio buffer d = (.ok (), f', d') ∧ f'.Records l a (data ++ buffer) d' ∧
      Rewritten d d' := by
  obtain ⟨hformat, r, hr, rfl, rfl, hholds⟩ := h
  have hpushed := Recording.holds_push hholds buffer
  rw [List.append_assoc] at hpushed
  refine ⟨{ f with recording := some (r.push buffer d).1 }, (r.push buffer d).2, ?_, ⟨hformat, _, rfl, ?_, ?_,
    hpushed⟩, Recording.rewritten_push ..⟩
  · simp only [audio, hr, hformat, recoded_of_dvd hbuffer]
  · exact Recording.location_push ..
  · exact Recording.announced_push ..

theorem find?_close (h : f.Records l a data d) :
    ∃ old, (f.close d).2.find? l = some (.file (Wave.header a data.length ++ data ++ old)) := by
  obtain ⟨-, r, hr, rfl, rfl, hholds⟩ := h
  obtain ⟨old, hclosed⟩ := Recording.find?_close hholds
  exact ⟨old, by simpa only [close, hr] using hclosed⟩

end WaveFile

end SpeechHost.Audio
