import SpeechHost.Proofs.Audio.Cut
import SpeechHost.Proofs.Engine.Unfiltered
/-!
# Audio that is refused

All samples are read before a sink is told anything. So data that cannot be played, be it that the header is
refused, that the samples are of another kind or width, or that one of them is missing, is met with an error
and leaves everything as it was (`Playback.stream_playable_iff`). Kind and container are looked at with the
first sample only: a file without samples is announced whatever it says of them
(`Playback.announces_fractions`).
-/

namespace SpeechHost

open SpeechHost.Audio SpeechHost.Storage

namespace Audio.Wave

variable {wave : Bytes} {n : Nat}

/-- Samples of 8 or 16 bits, and none of them is missing. If there are any, they are whole numbers, and each
fills its container. -/
structure Stream.Complete (s : Stream) : Prop where
  width : s.layout.bits = 8 ∨ s.layout.bits = 16
  filled : s.count ≠ 0 → s.layout.kind = .whole ∧ 8 * s.layout.container = s.layout.bits
  there : s.count * s.layout.container ≤ s.rest.length

/-- Data with a proper header, behind which all samples are. -/
def Playable (wave : Bytes) : Prop :=
  ∃ s, open? wave = .ok s ∧ s.Complete

/-- Where the samples end in data that has this header. -/
def Stream.finish (s : Stream) (wave : Bytes) : Nat :=
  wave.length - s.rest.length + s.count * s.layout.container

theorem Stream.Complete.holds {s : Stream} (h : s.Complete) : ∃ format data, s.Holds format data := by
  obtain ⟨format, hbits⟩ : ∃ format : Format, s.layout.bits = 8 * format.width := by
    obtain hbits | hbits := h.width
    · exact ⟨.pcm8, hbits⟩
    · exact ⟨.pcm16, hbits⟩
  have hwhole : s.count ≠ 0 → s.layout.kind = .whole ∧ s.layout.container = format.width := by
    intro hcount
    obtain ⟨hkind, hcontainer⟩ := h.filled hcount
    exact ⟨hkind, by omega⟩
  have hthere : s.count * format.width ≤ s.rest.length := by
    -- without samples the container may have any size
    by_cases hcount : s.count = 0
    · simp [hcount]
    · rw [← (hwhole hcount).2]
      exact h.there
  refine ⟨format, s.rest.take (s.count * format.width), hbits, ?_, List.take_prefix _ _, hwhole⟩
  rw [List.length_take, Nat.min_eq_left hthere]

theorem Stream.Holds.complete {s : Stream} {format : Format} {data : Bytes}
    (h : s.Holds format data) : s.Complete := by
  refine ⟨?_, fun hcount => ?_, ?_⟩
  · rw [h.bits]
    cases format with
    | pcm8 => exact .inl rfl
    | pcm16 => exact .inr rfl
  · obtain ⟨hkind, hcontainer⟩ := h.whole hcount
    exact ⟨hkind, by rw [hcontainer, h.bits]⟩
  · by_cases hcount : s.count = 0
    · simp [hcount]
    · rw [(h.whole hcount).2, ← h.length]
      exact h.front.length_le

/-- Data that is cut off can be played if and only if it could be played before, and was cut off behind the
samples. -/
theorem playable_take_iff :
    Playable (wave.take n) ↔ ∃ s, open? wave = .ok s ∧ s.Complete ∧ s.finish wave ≤ n := by
  constructor
  · rintro ⟨s, hopen, hwidth, hfilled, hthere⟩
    obtain ⟨said, rest, rfl⟩ : ∃ said rest, s = .behind said rest := ⟨(s.layout, s.count), s.rest, rfl⟩
    obtain ⟨more, hwhole, hn, hrest⟩ := open?_take_iff.1 hopen
    have hle := congrArg List.length hrest
    rw [List.length_take] at hle
    simp only [Stream.behind] at hthere
    refine ⟨_, hwhole, ⟨hwidth, hfilled, ?_⟩, ?_⟩
    · simp only [Stream.behind]
      omega
    · simp only [Stream.finish, Stream.behind]
      omega
  · rintro ⟨s, hopen, ⟨hwidth, hfilled, hthere⟩, hn⟩
    unfold Stream.finish at hn
    refine ⟨.behind (s.layout, s.count) _, open?_take_iff.2 ⟨s.rest, hopen, by omega, rfl⟩,
      hwidth, hfilled, ?_⟩
    simp only [Stream.behind, List.length_take]
    omega

end Audio.Wave

theorem Played.ne_nil {stopping : Bool} {t : Track} {r : Except EngineError Unit}
    {heard : List Hearing} (h : Played stopping t r heard) : heard ≠ [] := by
  cases h with
  | refused e stop => exact List.cons_ne_nil _ _
  | announced rest => exact List.cons_ne_nil _ _

namespace Playback

variable {p : Playback} {wave : Bytes}

/-- The filter has no say in what can be played. -/
theorem isOk_track_of_shelf (p : Playback) (shelf : Option Shelf) (wave : Bytes) :
    ({ p with shelf }.track wave).isOk = (p.track wave).isOk := by
  cases hopen : Wave.open? wave with
  | error e => simp [track, hopen, Except.mapError]
  | ok s =>
    simp only [track, hopen, Except.mapError, ok_bind]
    split
    · cases s.samples <;> rfl
    · cases s.shortSamples <;> rfl
    · rfl

theorem isOk_track_iff : (p.track wave).isOk = true ↔ Wave.Playable wave := by
  rw [← isOk_track_of_shelf p none]
  constructor
  · intro h
    cases htrack : { p with shelf := none }.track wave with
    | error e => simp [htrack, Except.isOk, Except.toBool] at h
    | ok t =>
      obtain ⟨s, format, hopen, hholds, -⟩ := (track_ok_iff rfl).1 htrack
      exact ⟨s, hopen, hholds.complete⟩
  · rintro ⟨s, hopen, hcomplete⟩
    obtain ⟨format, data, hholds⟩ := hcomplete.holds
    have htrack : { p with shelf := none }.track wave =
        .ok ⟨⟨s.layout.rate, format, s.layout.channels⟩, data⟩ :=
      (track_ok_iff rfl).2 ⟨s, format, hopen, hholds, rfl⟩
    rw [htrack]
    rfl

/-- A sink hears something of data if and only if the data can be played. Data that cannot be played fails,
and sink, filter, stop flag and world are as before. Data that is cut off can be played if and only if all
its samples are before the cut. -/
theorem stream_playable_iff {σ : Type} [AudioSink σ] (p : Playback) (wave : Bytes) (out : σ) (w : World) :
    let d := p.stream wave (Listener.new out) w
    (d.2.1.heard ≠ [] ↔ Wave.Playable wave) ∧
      ((∃ f, d = (.error (.failed f), Listener.new out, p, w)) ↔ ¬ Wave.Playable wave) ∧
      ∀ n, Wave.Playable (wave.take n) ↔
        ∃ s, Wave.open? wave = .ok s ∧ s.Complete ∧ s.finish wave ≤ n := by
  intro d
  suffices h : (d.2.1.heard ≠ [] ↔ Wave.Playable wave) ∧
      ((∃ f, d = (.error (.failed f), Listener.new out, p, w)) ↔ ¬ Wave.Playable wave) from
    ⟨h.1, h.2, fun n => Wave.playable_take_iff⟩
  rw [← isOk_track_iff (p := p)]
  obtain ⟨more, hstream, hheard⟩ := p.stream_listener wave out [] w
  cases htrack : p.track wave with
  | error f =>
    have hd : d = (.error (.failed f), Listener.new out, p, w) := by
      simp only [d, stream, htrack]
    simp [hd, Listener.new, Except.isOk, Except.toBool]
  | ok t =>
    simp only [htrack] at hheard
    have hsome : d.2.1.heard ≠ [] := by
      rw [show d = _ from hstream]
      exact hheard.ne_nil
    refine ⟨iff_of_true hsome rfl, iff_of_false ?_ (by simp [Except.isOk, Except.toBool])⟩
    rintro ⟨f, hd⟩
    rw [hd] at hsome
    exact hsome rfl

/-- A file without samples; by its header they are fractions, of 16 bits, in containers of four bytes. -/
def fractionSilence : Bytes :=
  Wave.tag "RIFF" ++ littleEndian 4 60 ++ Wave.tag "WAVE" ++ Wave.tag "fmt " ++ littleEndian 4 40 ++
    littleEndian 2 0xFFFE ++ littleEndian 2 1 ++ littleEndian 4 16000 ++ littleEndian 4 64000 ++
    littleEndian 2 4 ++ littleEndian 2 32 ++ littleEndian 2 22 ++ littleEndian 2 16 ++ littleEndian 4 0 ++
    Wave.fractionGuid ++ Wave.tag "data" ++ littleEndian 4 0

/-- It is announced as audio of whole numbers, although no sample of it could be read. -/
theorem announces_fractions :
    (∃ s, Wave.open? fractionSilence = .ok s ∧ s.layout.kind = .fraction ∧
        8 * s.layout.container ≠ s.layout.bits ∧
        s.checkWidth 2 = .error .otherSampleKind) ∧
      let d := fresh.stream fractionSilence (Listener.new Rehearsal.Probe.quiet) ⟨.fresh [], none, []⟩
      d.1 = .ok () ∧ d.2.1.calls = [.start ⟨16000, .pcm16, 1⟩, .done] := by
  have htrack : fresh.track fractionSilence = .ok ⟨⟨16000, .pcm16, 1⟩, []⟩ := rfl
  have hblocks : blocks bufferBytes [] = [] := by simp [blocks]
  refine ⟨⟨⟨⟨1, 16000, 16, 4, .fraction⟩, 0, []⟩, rfl, rfl, by decide, rfl⟩, ?_⟩
  simp only [stream, htrack, play, hblocks]
  exact ⟨rfl, rfl⟩

end Playback

end SpeechHost
