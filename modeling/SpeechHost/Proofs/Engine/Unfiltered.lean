import SpeechHost.Proofs.Audio.Wave
import SpeechHost.Proofs.Engine.Playback
import SpeechHost.Rehearsal.Sink
import SpeechHost.Rehearsal.StandIn
/-!
# Audio without a filter

Without a filter the bytes of a track are the bytes of the data chunk (`track_ok_iff`). A sink that takes
everything hears them in buffers of `bufferBytes` bytes, up to the first buffer before which a stop was
asked for (`stream_unfiltered`).
-/

namespace SpeechHost

open SpeechHost.Audio SpeechHost.Storage

/-- The samples of a stream are these bytes, of this format. A stream without samples may have containers
of another size. -/
structure Audio.Wave.Stream.Holds (s : Wave.Stream) (format : Format) (data : Bytes) : Prop where
  bits : s.layout.bits = 8 * format.width
  length : data.length = s.count * format.width
  front : data <+: s.rest
  whole : s.count ≠ 0 → s.layout.kind = .whole ∧ s.layout.container = format.width

theorem Audio.Wave.Stream.holds_iff {s : Wave.Stream} {format : Format} {data : Bytes} :
    s.Holds format data ↔ s.layout.bits = 8 * format.width ∧ s.payload format.width = .ok data := by
  rw [Wave.payload_ok_iff]
  constructor
  · rintro ⟨hbits, hlength, hfront, hwhole⟩
    exact ⟨hbits, hlength, hfront, hwhole⟩
  · rintro ⟨hbits, hlength, hfront, hwhole⟩
    exact ⟨hbits, hlength, hfront, hwhole⟩

namespace Playback

theorem filtered_of_shelf_none {p : Playback} (hshelf : p.shelf = none) (rate : Nat)
    (samples : List Int16) : p.filtered rate samples = samples := by
  rw [filtered, hshelf]
  rfl

/-- Without a filter a track is the data chunk as it is. -/
theorem track_ok_iff {p : Playback} (hshelf : p.shelf = none) {wave : Bytes} {t : Track} :
    p.track wave = .ok t ↔
      ∃ s format, Wave.open? wave = .ok s ∧ s.Holds format t.bytes ∧
        t.announcement = ⟨s.layout.rate, format, s.layout.channels⟩ := by
  constructor
  · intro h
    obtain ⟨s, hopen, h⟩ := bind_ok h
    rw [mapError_ok_iff] at hopen
    simp only at h
    split at h
    next hbits =>
      obtain ⟨samples, hsamples, h⟩ := bind_ok h
      obtain ⟨data, hdata, hread⟩ := bind_ok (mapError_ok_iff.1 hsamples)
      obtain rfl := Except.ok.inj hread
      obtain rfl := Except.ok.inj h
      have heven : 2 ∣ data.length := ⟨s.count, by rw [(Wave.payload_ok_iff.1 hdata).1, Nat.mul_comm]⟩
      refine ⟨s, .pcm16, hopen, Wave.Stream.holds_iff.2 ⟨hbits, ?_⟩, rfl⟩
      rw [filtered_of_shelf_none hshelf, Wave.flatMap_samplesOf heven]
      exact hdata
    next hbits =>
      obtain ⟨samples, hsamples, h⟩ := bind_ok h
      obtain ⟨data, hdata, hread⟩ := bind_ok (mapError_ok_iff.1 hsamples)
      obtain rfl := Except.ok.inj hread
      obtain rfl := Except.ok.inj h
      refine ⟨s, .pcm8, hopen, Wave.Stream.holds_iff.2 ⟨hbits, ?_⟩, rfl⟩
      rw [Wave.map_ofSampleByte]
      exact hdata
    next => contradiction
  · rintro ⟨s, format, hopen, hholds, hannounced⟩
    obtain ⟨a, data⟩ := t
    obtain rfl : a = _ := hannounced
    obtain ⟨hbits, hpayload⟩ := Wave.Stream.holds_iff.1 hholds
    cases format with
    | pcm8 =>
      have hsamples : s.shortSamples = .ok (data.map ofSampleByte) := by
        rw [Wave.Stream.shortSamples, show s.payload 1 = .ok data from hpayload]
        rfl
      simp [track, hopen, hsamples, hbits, Format.width, Except.mapError, Wave.map_ofSampleByte,
        -List.map_map]
    | pcm16 =>
      have hsamples : s.samples = .ok (Wave.samplesOf data) := by
        rw [Wave.Stream.samples, show s.payload 2 = .ok data from hpayload]
        rfl
      have heven : 2 ∣ data.length := ⟨s.count, by rw [hholds.length, Nat.mul_comm]; rfl⟩
      simp [track, hopen, hsamples, hbits, Format.width, Except.mapError,
        filtered_of_shelf_none hshelf, Wave.flatMap_samplesOf heven]

end Playback

/-! ## Where a delivery is cut off -/

/-- Whether a stop was asked for beforehand or with one of the first `n` answers. -/
def stopAsked (stopping : Bool) (heard : List Hearing) (n : Nat) : Bool :=
  stopping || (heard.take n).any (·.reply.stop)

theorem stopAsked_cons (stopping : Bool) (x : Hearing) (more : List Hearing) (n : Nat) :
    stopAsked stopping (x :: more) (n + 1) = stopAsked (stopping || x.reply.stop) more n := by
  simp [stopAsked, Bool.or_assoc]

theorem Delivery.cutoff {stopping : Bool} {bs : List Bytes} {r : Except EngineError Unit}
    {more : List Hearing} (h : Delivery stopping bs r more)
    (htaken : ∀ x ∈ more, x.reply.outcome = .ok ()) :
    r = .ok () ∧ ∃ n ≤ bs.length, more.map (·.call) = (bs.take n).map .audio ++ [.done] ∧
      (∀ i < n, stopAsked stopping more i = false) ∧
      (n < bs.length → stopAsked stopping more n = true) := by
  induction h with
  | finished => exact ⟨rfl, 0, by simp [Hearing.done]⟩
  | stopped b bs => exact ⟨rfl, 0, by simp [Hearing.done, stopAsked]⟩
  | refused b bs e stop => simp at htaken
  | @taken b bs stop r more rest ih =>
    obtain ⟨hr, n, hn, hcalls, hbefore, hafter⟩ := ih fun x hx => htaken x (List.mem_cons_of_mem _ hx)
    refine ⟨hr, n + 1, by simpa using hn, by simp [hcalls], ?_, ?_⟩
    · intro i hi
      cases i with
      | zero => rfl
      | succ i =>
        rw [stopAsked_cons]
        exact hbefore i (by omega)
    · intro hlt
      rw [stopAsked_cons]
      exact hafter (by simpa using hlt)

/-- What is heard of bytes that are handed over as they are. They are cut into buffers, and of these the
first `n` are heard. -/
structure HandedOver (stopping : Bool) (a : Announcement) (data : Bytes) (heard : List Hearing)
    (buffers : List Bytes) (n : Nat) : Prop where
  calls : heard.map (·.call) = .start a :: (buffers.take n).map .audio ++ [.done]
  bytes : buffers.flatten = data
  full : ∀ b ∈ buffers.dropLast, b.length = bufferBytes
  filled : ∀ b ∈ buffers, b ≠ [] ∧ b.length ≤ bufferBytes
  within : n ≤ buffers.length
  before : ∀ i < n, stopAsked stopping heard (i + 1) = false
  cutoff : n < buffers.length → stopAsked stopping heard (n + 1) = true

theorem Played.handedOver {stopping : Bool} {t : Track} {r : Except EngineError Unit}
    {heard : List Hearing} (h : Played stopping t r heard)
    (htaken : ∀ x ∈ heard, x.reply.outcome = .ok ()) :
    r = .ok () ∧ ∃ buffers n, HandedOver stopping t.announcement t.bytes heard buffers n := by
  cases h with
  | refused e stop => simp at htaken
  | @announced stop r more rest =>
    obtain ⟨hr, n, hn, hcalls, hbefore, hafter⟩ :=
      rest.cutoff fun x hx => htaken x (List.mem_cons_of_mem _ hx)
    refine ⟨hr, blocks bufferBytes t.bytes, n, ?_, flatten_blocks _ _, ?_, ?_, hn, ?_, ?_⟩
    · simp [hcalls]
    · exact fun b => length_of_mem_dropLast_blocks (by decide)
    · exact fun b hb => ⟨ne_nil_of_mem_blocks hb, length_le_of_mem_blocks (by decide) hb⟩
    · intro i hi
      rw [stopAsked_cons]
      exact hbefore i hi
    · intro hlt
      rw [stopAsked_cons]
      exact hafter hlt

theorem Audio.Wave.Stream.Holds.chunk {s : Wave.Stream} {format : Format} {data wave : Bytes}
    (h : s.Holds format data) (hopen : Wave.open? wave = .ok s) :
    ∃ front, wave = front ++ Wave.tag "data" ++ littleEndian 4 data.length ++ s.rest := by
  have hsize : s.count * s.layout.container = data.length := by
    by_cases hcount : s.count = 0
    · rw [h.length, hcount, Nat.zero_mul, Nat.zero_mul]
    · rw [h.length, (h.whole hcount).2]
  rw [← hsize]
  exact (Wave.open?_ok hopen).2

/-- Without a filter, a sink that takes everything hears the data chunk of a file as it is: in buffers
that are full but for the last, all of them or those up to the first stop, and in both cases the end. -/
theorem Playback.stream_unfiltered {σ : Type} [AudioSink σ] (p : Playback) (hshelf : p.shelf = none)
    {wave : Bytes} (haccepted : (p.track wave).isOk = true) (out : σ) (w : World)
    (htaken : ∀ x ∈ (p.stream wave (Listener.new out) w).2.1.heard, x.reply.outcome = .ok ()) :
    let d := p.stream wave (Listener.new out) w
    ∃ s format front data, Wave.open? wave = .ok s ∧
      wave = front ++ Wave.tag "data" ++ littleEndian 4 data.length ++ s.rest ∧ s.Holds format data ∧
      d.1 = .ok () ∧ ∃ buffers n,
        HandedOver p.stopping ⟨s.layout.rate, format, s.layout.channels⟩ data d.2.1.heard buffers n := by
  intro d
  obtain ⟨more, hstream, hheard⟩ := p.stream_listener wave out [] w
  have hd : d.1 = (p.stream wave out w).1 ∧ d.2.1.heard = more := by
    rw [show d = _ from hstream]
    exact ⟨rfl, rfl⟩
  rw [← hd.1, ← hd.2] at hheard
  cases htrack : p.track wave with
  | error f => simp [htrack, Except.isOk, Except.toBool] at haccepted
  | ok t =>
    simp only [htrack] at hheard
    obtain ⟨s, format, hopen, hholds, hannounced⟩ := (track_ok_iff hshelf).1 htrack
    obtain ⟨front, hwave⟩ := hholds.chunk hopen
    obtain ⟨hr, buffers, n, hhanded⟩ := hheard.handedOver htaken
    rw [hannounced] at hhanded
    exact ⟨s, format, front, t.bytes, hopen, hwave, hholds, hr, buffers, n, hhanded⟩

/-- Three 8-bit samples: the lowest, the middle and the highest one. -/
def threeSamples : Bytes := Rehearsal.plainWave 16000 1 8 [0, 128, 255]

theorem track_threeSamples :
    Playback.fresh.track threeSamples = .ok ⟨⟨16000, .pcm8, 1⟩, [0, 128, 255]⟩ := rfl

def threeSamplesPlayed : Except EngineError Unit × Listener Rehearsal.Probe × Playback × World :=
  Playback.fresh.stream threeSamples (Listener.new Rehearsal.Probe.quiet) ⟨.fresh [], none, []⟩

theorem heard_threeSamplesPlayed : threeSamplesPlayed.2.1.heard =
    [⟨.start ⟨16000, .pcm8, 1⟩, .silent⟩, ⟨.audio [0, 128, 255], .silent⟩, .done] := by
  have hblocks : blocks bufferBytes [0, 128, 255] = [[0, 128, 255]] := by simp [blocks, bufferBytes]
  simp only [threeSamplesPlayed, Playback.stream, track_threeSamples, Playback.play, hblocks]
  rfl

theorem Playback.stream_unfiltered_threeSamples :
    Playback.fresh.shelf = none ∧ (Playback.fresh.track threeSamples).isOk = true ∧
      (∀ x ∈ threeSamplesPlayed.2.1.heard, x.reply.outcome = .ok ()) ∧
      threeSamplesPlayed.2.1.calls = [.start ⟨16000, .pcm8, 1⟩, .audio [0, 128, 255], .done] ∧
      ∃ s format front data, Wave.open? threeSamples = .ok s ∧
        threeSamples = front ++ Wave.tag "data" ++ littleEndian 4 data.length ++ s.rest ∧
        s.Holds format data ∧ threeSamplesPlayed.1 = .ok () ∧ ∃ buffers n,
          HandedOver Playback.fresh.stopping ⟨s.layout.rate, format, s.layout.channels⟩ data
            threeSamplesPlayed.2.1.heard buffers n := by
  have haccepted : (Playback.fresh.track threeSamples).isOk = true := by rw [track_threeSamples]; rfl
  have htaken : ∀ x ∈ threeSamplesPlayed.2.1.heard, x.reply.outcome = .ok () := by
    rw [heard_threeSamplesPlayed]
    simp [Hearing.done, Reply.silent]
  refine ⟨rfl, haccepted, htaken, ?_, Playback.stream_unfiltered _ rfl haccepted _ _ htaken⟩
  rw [Listener.calls, heard_threeSamplesPlayed]
  rfl

end SpeechHost
