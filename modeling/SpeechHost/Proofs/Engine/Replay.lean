import SpeechHost.Proofs.Audio.Recording
import SpeechHost.Proofs.Audio.WaveHeader
import SpeechHost.Proofs.Engine.Unfiltered
/-!
# Playing what was recorded

Audio that is played into a WAVE file can be played again from there, and no sink hears a difference,
provided that the size of a frame fits the field that a header has for it (`replays_iff`). Of audio that has
samples it always does. Audio without samples may name more channels than that, and then the file cannot be
read (`not_replays_wideSilence`).
-/

namespace SpeechHost

open SpeechHost.Audio SpeechHost.Storage

/-- What a recording needs of audio: a writer reckons with the bytes of a second, in four bytes, and divides
by the rate. -/
structure Recordable (a : Announcement) : Prop where
  rate_pos : 0 < a.rate
  byteRate_lt : a.rate * a.format.width * a.channels < 0x100000000

theorem Audio.Wave.Stream.Holds.fits {s : Wave.Stream} {format : Format}
    {data : Bytes} (h : s.Holds format data) (hsound : s.Sound)
    (hbyteRate : s.layout.rate * format.width * s.layout.channels < 0x100000000) :
    Announcement.Fits ⟨s.layout.rate, format, s.layout.channels⟩ ∧
      s.count * format.width < 0x100000000 ∧
      (data ≠ [] → Announcement.frame ⟨s.layout.rate, format, s.layout.channels⟩ < 0x10000) := by
  refine ⟨⟨hsound.layout.channels_pos, hsound.layout.channels_lt, hsound.layout.rate_lt, hbyteRate⟩, ?_, ?_⟩
  · by_cases hcount : s.count = 0
    · simp [hcount]
    · rw [← (h.whole hcount).2]
      exact hsound.size_lt
  · intro hdata
    have hcount : s.count ≠ 0 := by
      rintro hcount
      exact hdata (List.eq_nil_of_length_eq_zero (by rw [h.length, hcount, Nat.zero_mul]))
    have hframe := hsound.layout.frame_lt
    rwa [(h.whole hcount).2] at hframe

namespace Playback

variable {p : Playback} {wave : Bytes} {t : Track} {l : Location} {a : Announcement} {data : Bytes}

/-- No sink hears whether it is data that is played, or the file that was made by playing it. -/
def Replays (p : Playback) (wave : Bytes) (f : WaveFile) (w : World) : Prop :=
  ∃ content, (p.stream wave f w).2.2.2.disk.read f.path = .ok content ∧
    ∀ (σ : Type) [AudioSink σ] (out : σ) (w' : World), p.stream content out w' = p.stream wave out w'

/-! ## Recording -/

theorem deliver_records {bs : List Bytes} (hbs : ∀ b ∈ bs, a.format.width ∣ b.length) {f : WaveFile}
    {w : World} (hstop : p.stopping = false) (h : f.Records l a data w.disk) :
    ∃ f' p' w' old, p.deliver f w bs = (.ok (), f', p', w') ∧ Rewritten w.disk w'.disk ∧
      w'.disk.find? l = some
        (.file (Wave.header a (data ++ bs.flatten).length ++ (data ++ bs.flatten) ++ old)) := by
  induction bs generalizing p f w data with
  | nil =>
    obtain ⟨old, hclosed⟩ := WaveFile.find?_close h
    rw [List.flatten_nil, List.append_nil]
    exact ⟨_, _, _, old, rfl, f.rewritten_close w.disk, hclosed⟩
  | cons b bs ih =>
    obtain ⟨f₁, d₁, haudio, hrecords, hrewritten⟩ := WaveFile.audio_ok h (hbs b List.mem_cons_self)
    obtain ⟨f', p', w', old, hdeliver, hrewritten', hfile⟩ :=
      ih (p := p) (w := { w with disk := d₁ }) (fun c hc => hbs c (List.mem_cons_of_mem _ hc)) hstop hrecords
    refine ⟨f', p', w', old, ?_, hrewritten.trans hrewritten', ?_⟩
    · simp only [deliver, hstop, AudioSink.audio, haudio]
      exact hdeliver
    · rwa [List.append_assoc data b] at hfile

theorem play_records (hstop : p.stopping = false)
    (hbytes : t.announcement.format.width ∣ t.bytes.length) {f : WaveFile} {w : World} {d : Disk}
    (hwritable : w.disk.writeFileAt f.path [] = .ok (l, d)) :
    ∃ f' p' w' old, p.play t f w = (.ok (), f', p', w') ∧ w'.disk.read f.path =
      .ok (Wave.header t.announcement t.bytes.length ++ t.bytes ++ old) := by
  obtain ⟨f₁, d₁, hstart, hrecords, hrewritten⟩ := WaveFile.start_ok t.announcement hwritable
  have hwidth : t.announcement.format.width ∣ bufferBytes := by
    cases t.announcement.format <;> decide
  have hblocks : ∀ b ∈ blocks bufferBytes t.bytes, t.announcement.format.width ∣ b.length :=
    fun b hb => dvd_length_of_mem_blocks (by decide) hwidth hbytes hb
  obtain ⟨f', p', w', old, hdeliver, hrewritten', hfile⟩ :=
    deliver_records (w := { w with disk := d₁ }) hblocks hstop hrecords
  rw [List.nil_append, flatten_blocks] at hfile
  refine ⟨f', p', w', old, ?_, ?_⟩
  · simp only [play, AudioSink.start, hstart]
    exact hdeliver
  · obtain ⟨-, hnil, hfree, rfl, -⟩ := Disk.writeFileAt_ok hwritable
    have hall := hrewritten.trans hrewritten'
    refine Disk.read_written hwritable hall.cwd (fun x hx => hall.directory x ?_) hfile
    rw [Disk.find?_put hnil, if_neg (by rintro rfl; exact hfree hx), hx]

/-! ## Reading the recording -/

theorem track_header (hshelf : p.shelf = none) (htrack : p.track wave = .ok t)
    (hrecordable : Recordable t.announcement) (old : Bytes) :
    let content := Wave.header t.announcement t.bytes.length ++ t.bytes ++ old
    t.announcement.format.width ∣ t.bytes.length ∧ (t.bytes ≠ [] → t.announcement.frame < 0x10000) ∧
      p.track content =
        if t.announcement.frame < 0x10000 then .ok t
        else .error (.undecodable (.illFormed "sample bits exceeds size of sample")) := by
  intro content
  obtain ⟨s, format, hopen, hholds, hannounced⟩ := (track_ok_iff hshelf).1 htrack
  obtain ⟨a, data⟩ := t
  obtain rfl : a = _ := hannounced
  obtain ⟨hsound, -⟩ := Wave.open?_ok hopen
  obtain ⟨hfits, hsize, hframe⟩ := hholds.fits hsound hrecordable.byteRate_lt
  have hcontent : content = Wave.header ⟨s.layout.rate, format, s.layout.channels⟩
      (s.count * format.width) ++ (data ++ old) := by
    rw [← hholds.length, ← List.append_assoc]
  refine ⟨⟨s.count, by rw [hholds.length, Nat.mul_comm]⟩, hframe, ?_⟩
  split_ifs with hfield
  · have hread := Wave.open?_header hfits hfield hsize hsound.frames (data ++ old)
    rw [← hcontent] at hread
    refine (track_ok_iff hshelf).2 ⟨_, format, hread, ?_, rfl⟩
    exact ⟨rfl, hholds.length, List.prefix_append data old, fun _ => ⟨rfl, rfl⟩⟩
  · have hread := Wave.open?_header_overflow hfits (Nat.le_of_not_lt hfield)
    rw [hcontent, track, hread]
    rfl

/-- The file that playing leaves behind is read as the audio that was played, if the size of a frame fits its
field. -/
theorem track_recorded (hshelf : p.shelf = none) (hstop : p.stopping = false) (htrack : p.track wave = .ok t)
    (hrecordable : Recordable t.announcement) {f : WaveFile} {w : World}
    (hwritable : (w.disk.writeFileAt f.path []).isOk = true) :
    (p.stream wave f w).1 = .ok () ∧
      ∃ content, (p.stream wave f w).2.2.2.disk.read f.path = .ok content ∧
        p.track content =
          if t.announcement.frame < 0x10000 then .ok t
          else .error (.undecodable (.illFormed "sample bits exceeds size of sample")) := by
  cases hwrite : w.disk.writeFileAt f.path [] with
  | error e => simp [hwrite, Except.isOk, Except.toBool] at hwritable
  | ok r =>
    obtain ⟨hwidth, -⟩ := track_header hshelf htrack hrecordable []
    obtain ⟨f', p', w', old, hplay, hread⟩ := play_records hstop hwidth hwrite
    have hstream : p.stream wave f w = (.ok (), f', p', w') := by
      simpa only [stream, htrack] using hplay
    rw [hstream]
    exact ⟨rfl, _, hread, (track_header hshelf htrack hrecordable old).2.2⟩

theorem replays_of_frame_lt (hshelf : p.shelf = none) (hstop : p.stopping = false)
    (htrack : p.track wave = .ok t) (hrecordable : Recordable t.announcement) {f : WaveFile} {w : World}
    (hwritable : (w.disk.writeFileAt f.path []).isOk = true) (hframe : t.announcement.frame < 0x10000) :
    p.Replays wave f w := by
  obtain ⟨-, content, hread, hagain⟩ := track_recorded hshelf hstop htrack hrecordable hwritable
  rw [if_pos hframe] at hagain
  refine ⟨content, hread, fun σ _ out w' => ?_⟩
  rw [stream, hagain, stream, htrack]

theorem not_replays_of_le_frame (hshelf : p.shelf = none) (hstop : p.stopping = false)
    (htrack : p.track wave = .ok t) (hrecordable : Recordable t.announcement) {f : WaveFile} {w : World}
    (hwritable : (w.disk.writeFileAt f.path []).isOk = true) (hframe : 0x10000 ≤ t.announcement.frame) :
    ¬ p.Replays wave f w := by
  obtain ⟨hplayed, content, hread, hagain⟩ := track_recorded hshelf hstop htrack hrecordable hwritable
  rw [if_neg (Nat.not_lt.2 hframe)] at hagain
  rintro ⟨content', hread', hsame⟩
  obtain rfl := Except.ok.inj (hread.symm.trans hread')
  -- The data are taken by the very sink that recorded them, and the recording is not.
  rw [← hsame WaveFile f w, stream, hagain] at hplayed
  simp at hplayed

/-- Audio that is played into a file can be played again from there if and only if the size of a frame fits
its field in a header, as it does wherever there are samples. -/
theorem replays_iff (p : Playback) (hshelf : p.shelf = none) (hstop : p.stopping = false)
    (htrack : p.track wave = .ok t) (hrecordable : Recordable t.announcement) (f : WaveFile) (w : World)
    (hwritable : (w.disk.writeFileAt f.path []).isOk = true) :
    (p.stream wave f w).1 = .ok () ∧ (p.Replays wave f w ↔ t.announcement.frame < 0x10000) ∧
      (t.bytes ≠ [] → t.announcement.frame < 0x10000) := by
  refine ⟨(track_recorded hshelf hstop htrack hrecordable hwritable).1, ⟨fun h => ?_, fun h => ?_⟩,
    (track_header hshelf htrack hrecordable []).2.1⟩
  · by_contra hlong
    exact not_replays_of_le_frame hshelf hstop htrack hrecordable hwritable (Nat.le_of_not_lt hlong) h
  · exact replays_of_frame_lt hshelf hstop htrack hrecordable hwritable h

def outFile : WaveFile := .new (.ofString "out.wav")

theorem isOk_writeFileAt_outFile : ((Disk.fresh []).writeFileAt outFile.path []).isOk = true := by
  decide +kernel

theorem replays_iff_threeSamples :
    Playback.fresh.shelf = none ∧ Playback.fresh.stopping = false ∧
      Playback.fresh.track threeSamples = .ok ⟨⟨16000, .pcm8, 1⟩, [0, 128, 255]⟩ ∧
      Recordable ⟨16000, .pcm8, 1⟩ ∧ ((Disk.fresh []).writeFileAt outFile.path []).isOk = true ∧
      (Playback.fresh.stream threeSamples outFile ⟨.fresh [], none, []⟩).1 = .ok () ∧
      (Playback.fresh.Replays threeSamples outFile ⟨.fresh [], none, []⟩ ↔
        Announcement.frame ⟨16000, .pcm8, 1⟩ < 0x10000) ∧
      (([0, 128, 255] : Bytes) ≠ [] → Announcement.frame ⟨16000, .pcm8, 1⟩ < 0x10000) := by
  have hrecordable : Recordable ⟨16000, .pcm8, 1⟩ := ⟨by decide, by decide⟩
  exact ⟨rfl, rfl, track_threeSamples, hrecordable, isOk_writeFileAt_outFile,
    replays_iff _ rfl rfl track_threeSamples hrecordable outFile ⟨.fresh [], none, []⟩
      isOk_writeFileAt_outFile⟩

/-- A file without samples, for 32768 channels: the samples that there are not would have 16 bits, in
containers of one byte. -/
def wideSilence : Bytes :=
  Wave.tag "RIFF" ++ littleEndian 4 60 ++ Wave.tag "WAVE" ++ Wave.tag "fmt " ++ littleEndian 4 40 ++
    littleEndian 2 0xFFFE ++ littleEndian 2 (0x8000) ++ littleEndian 4 16000 ++
    littleEndian 4 (0x8000 * 16000) ++ littleEndian 2 (0x8000) ++ littleEndian 2 8 ++ littleEndian 2 22 ++
    littleEndian 2 16 ++ littleEndian 4 0 ++ Wave.wholeGuid ++ Wave.tag "data" ++ littleEndian 4 0

/-- It is accepted and recorded, but the file cannot be played. -/
theorem not_replays_wideSilence :
    Playback.fresh.track wideSilence = .ok ⟨⟨16000, .pcm16, 0x8000⟩, []⟩ ∧
      Recordable ⟨16000, .pcm16, 0x8000⟩ ∧ ((Disk.fresh []).writeFileAt outFile.path []).isOk = true ∧
      ¬ Playback.fresh.Replays wideSilence outFile ⟨.fresh [], none, []⟩ := by
  have htrack : Playback.fresh.track wideSilence = .ok ⟨⟨16000, .pcm16, 0x8000⟩, []⟩ := rfl
  have hrecordable : Recordable ⟨16000, .pcm16, 0x8000⟩ := ⟨by decide, by decide⟩
  exact ⟨htrack, hrecordable, isOk_writeFileAt_outFile,
    not_replays_of_le_frame rfl rfl htrack hrecordable isOk_writeFileAt_outFile (by decide)⟩

end Playback

end SpeechHost
