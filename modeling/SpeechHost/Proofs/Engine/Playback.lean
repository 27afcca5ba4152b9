import Mathlib.Tactic.SplitIfs
import SpeechHost.Engine.Command
import SpeechHost.Proofs.Audio.Listener
/-!
# What a sink hears of an utterance

Audio that is played is announced once, then come buffers, and at the end the sink is told that it is
over, unless it refused something (`Played`). A stop keeps the rest of the buffers back but not the end.
Data that is no audio is not announced at all.

The steps of a delivery follow the buffers: `Delivery` has one case for each way in which a buffer can be
met.
-/

namespace SpeechHost

open SpeechHost.Audio SpeechHost.Storage

/-- What is heard of the buffers of a track, when a stop is asked for before the first of them or not. -/
inductive Delivery : (stopping : Bool) → List Bytes → Except EngineError Unit → List Hearing → Prop where
  | finished (stopping) : Delivery stopping [] (.ok ()) [.done]
  | stopped (b bs) : Delivery true (b :: bs) (.ok ()) [.done]
  | refused (b bs e stop) : Delivery false (b :: bs) (.error e) [⟨.audio b, ⟨.error e, stop⟩⟩]
  | taken {b bs stop r more} (rest : Delivery stop bs r more) :
      Delivery false (b :: bs) r (⟨.audio b, ⟨.ok (), stop⟩⟩ :: more)

inductive Played (stopping : Bool) (t : Track) : Except EngineError Unit → List Hearing → Prop where
  | refused (e stop) : Played stopping t (.error e) [⟨.start t.announcement, ⟨.error e, stop⟩⟩]
  | announced {stop r more}
      (rest : Delivery (stopping || stop) (blocks bufferBytes t.bytes) r more) :
      Played stopping t r (⟨.start t.announcement, ⟨.ok (), stop⟩⟩ :: more)

variable {σ : Type} [AudioSink σ]

namespace Playback

@[simp] theorem stopping_heed (p : Playback) (r : Reply) :
    (p.heed r).stopping = (p.stopping || r.stop) := by
  unfold heed
  split_ifs with h
  · simp [requestStop, h]
  · simp [h]

theorem deliver_listener (p : Playback) (out : σ) (heard : List Hearing) (w : World)
    (bs : List Bytes) :
    ∃ more, p.deliver (⟨out, heard⟩ : Listener σ) w bs =
        Listener.overhear (heard ++ more) (p.deliver out w bs) ∧
      Delivery p.stopping bs (p.deliver out w bs).1 more := by
  induction bs generalizing p out heard w with
  | nil => exact ⟨[.done], rfl, .finished _⟩
  | cons b bs ih =>
    cases hstop : p.stopping with
    | true =>
      refine ⟨[.done], ?_, ?_⟩
      · simp only [deliver, hstop, if_true]
        rfl
      · simp only [deliver, hstop, if_true]
        exact .stopped b bs
    | false =>
      rcases hcall : AudioSink.audio b out w with ⟨⟨e | _, stop⟩, out', w'⟩
      · refine ⟨[⟨.audio b, ⟨.error e, stop⟩⟩], ?_, ?_⟩
        · simp only [deliver, hstop, AudioSink.audio, hcall]
          rfl
        · simp only [deliver, hstop, hcall]
          exact .refused b bs e stop
      · obtain ⟨more, hrest, hdelivery⟩ :=
          ih (p.heed ⟨.ok (), stop⟩) out' (heard ++ [⟨.audio b, ⟨.ok (), stop⟩⟩]) w'
        rw [List.append_assoc, List.singleton_append] at hrest
        rw [stopping_heed, hstop, Bool.false_or] at hdelivery
        refine ⟨⟨.audio b, ⟨.ok (), stop⟩⟩ :: more, ?_, ?_⟩
        · simp only [deliver, hstop, AudioSink.audio, hcall]
          exact hrest
        · simp only [deliver, hstop, hcall]
          exact .taken hdelivery

theorem play_listener (p : Playback) (t : Track) (out : σ) (heard : List Hearing) (w : World) :
    ∃ more, p.play t (⟨out, heard⟩ : Listener σ) w =
        Listener.overhear (heard ++ more) (p.play t out w) ∧
      Played p.stopping t (p.play t out w).1 more := by
  rcases hcall : AudioSink.start t.announcement out w with ⟨⟨e | _, stop⟩, out', w'⟩
  · refine ⟨[⟨.start t.announcement, ⟨.error e, stop⟩⟩], ?_, ?_⟩
    · simp only [play, AudioSink.start, hcall]
      rfl
    · simp only [play, hcall]
      exact .refused e stop
  · obtain ⟨more, hrest, hdelivery⟩ :=
      (p.heed ⟨.ok (), stop⟩).deliver_listener out'
        (heard ++ [⟨.start t.announcement, ⟨.ok (), stop⟩⟩]) w' (blocks bufferBytes t.bytes)
    rw [List.append_assoc, List.singleton_append] at hrest
    rw [stopping_heed] at hdelivery
    refine ⟨⟨.start t.announcement, ⟨.ok (), stop⟩⟩ :: more, ?_, ?_⟩
    · simp only [play, AudioSink.start, hcall]
      exact hrest
    · simp only [play, hcall]
      exact .announced hdelivery

theorem stream_listener (p : Playback) (wave : Bytes) (out : σ) (heard : List Hearing) (w : World) :
    ∃ more, p.stream wave (⟨out, heard⟩ : Listener σ) w =
        Listener.overhear (heard ++ more) (p.stream wave out w) ∧
      match p.track wave with
      | .error f => more = [] ∧ (p.stream wave out w).1 = .error (.failed f)
      | .ok t => Played p.stopping t (p.stream wave out w).1 more := by
  cases htrack : p.track wave with
  | error f =>
    refine ⟨[], ?_, rfl, ?_⟩
    · simp [stream, htrack, Listener.overhear]
    · simp [stream, htrack]
  | ok t =>
    obtain ⟨more, hplay, hplayed⟩ := p.play_listener t out heard w
    refine ⟨more, ?_, ?_⟩
    · simpa only [stream, htrack] using hplay
    · simpa only [stream, htrack] using hplayed

end Playback

/-! ## The calls of an utterance -/

/-- The call that ends what an engine plays, if it comes to an end. -/
def ending : Except EngineError Unit → List SinkCall
  | .ok () => [.done]
  | .error _ => []

/-- What an engine may tell a sink about one text: nothing, when it fails before it has audio; else an
announcement, buffers, and the end unless it fails. -/
inductive Utterance : Except EngineError Unit → List SinkCall → Prop where
  | silent (e) : Utterance (.error e) []
  | spoken (a) (buffers : List Bytes) (r) : Utterance r (.start a :: buffers.map .audio ++ ending r)

theorem Delivery.calls {stopping : Bool} {bs : List Bytes} {r : Except EngineError Unit}
    {more : List Hearing} (h : Delivery stopping bs r more) :
    ∃ n, more.map (·.call) = (bs.take n).map .audio ++ ending r := by
  induction h with
  | finished => exact ⟨0, rfl⟩
  | stopped b bs => exact ⟨0, rfl⟩
  | refused b bs e stop => exact ⟨1, rfl⟩
  | taken rest ih =>
    obtain ⟨n, hn⟩ := ih
    exact ⟨n + 1, by simp [hn]⟩

theorem Played.utterance {stopping : Bool} {t : Track} {r : Except EngineError Unit}
    {more : List Hearing} (h : Played stopping t r more) : Utterance r (more.map (·.call)) := by
  cases h with
  | refused e stop => exact .spoken t.announcement [] (.error e)
  | announced rest =>
    obtain ⟨n, hn⟩ := rest.calls
    rw [List.map_cons, hn]
    exact .spoken t.announcement _ r

theorem Playback.stream_utterance (p : Playback) (wave : Bytes) (out : σ) (heard : List Hearing)
    (w : World) :
    ∃ more, p.stream wave (⟨out, heard⟩ : Listener σ) w =
        Listener.overhear (heard ++ more) (p.stream wave out w) ∧
      Utterance (p.stream wave out w).1 (more.map (·.call)) := by
  obtain ⟨more, hstream, hheard⟩ := p.stream_listener wave out heard w
  refine ⟨more, hstream, ?_⟩
  split at hheard
  · obtain ⟨rfl, hfails⟩ := hheard
    rw [hfails]
    exact .silent _
  · exact hheard.utterance

theorem Pico.utter_listener (text : String) (out : σ) (heard : List Hearing) (p : Pico) (w : World) :
    ∃ more, p.utter text (⟨out, heard⟩ : Listener σ) w =
        Listener.overhear (heard ++ more) (p.utter text out w) ∧
      Utterance (p.utter text out w).1 (more.map (·.call)) := by
  cases hreserve : w.reserve scratchFile with
  | error fault =>
    refine ⟨[], by simp [utter, hreserve, Listener.overhear], ?_⟩
    simp only [utter, hreserve]
    exact .silent _
  | ok reserved =>
    rcases hwave : p.wave text reserved with ⟨error | wave, w'⟩
    · refine ⟨[], by simp [utter, hreserve, hwave, Listener.overhear], ?_⟩
      simp only [utter, hreserve, hwave]
      exact .silent _
    · obtain ⟨more, hstream, hutterance⟩ := p.playback.stream_utterance wave out heard w'
      refine ⟨more, ?_, by simpa [utter, hreserve, hwave] using hutterance⟩
      simp only [utter, hreserve, hwave, hstream]
      rfl

theorem Espeak.utter_listener (text : String) (out : σ) (heard : List Hearing) (e : Espeak)
    (w : World) :
    ∃ more, e.utter text (⟨out, heard⟩ : Listener σ) w =
        Listener.overhear (heard ++ more) (e.utter text out w) ∧
      Utterance (e.utter text out w).1 (more.map (·.call)) := by
  rcases hwave : e.wave text w with ⟨error | wave, w'⟩
  · refine ⟨[], by simp [utter, hwave, Listener.overhear], ?_⟩
    simp only [utter, hwave]
    exact .silent _
  · obtain ⟨more, hstream, hutterance⟩ := e.playback.stream_utterance wave out heard w'
    refine ⟨more, ?_, by simpa [utter, hwave] using hutterance⟩
    simp only [utter, hwave, hstream]
    rfl

/-- Whatever its program does, an engine tells a sink about one utterance, and it does not notice whether
it is listened to. -/
theorem CommandEngine.utter_listener (text : String) (out : σ) (heard : List Hearing)
    (e : CommandEngine) (w : World) :
    ∃ more, SpeechEngine.utter text (⟨out, heard⟩ : Listener σ) e w =
        Listener.overhear (heard ++ more) (SpeechEngine.utter text out e w) ∧
      Utterance (SpeechEngine.utter text out e w).1 (more.map (·.call)) := by
  cases e with
  | pico p =>
    obtain ⟨more, hutter, hutterance⟩ := Pico.utter_listener text out heard p w
    refine ⟨more, ?_, hutterance⟩
    simp only [SpeechEngine.utter, hutter]
    rfl
  | espeak e =>
    obtain ⟨more, hutter, hutterance⟩ := Espeak.utter_listener text out heard e w
    refine ⟨more, ?_, hutterance⟩
    simp only [SpeechEngine.utter, hutter]
    rfl

end SpeechHost
