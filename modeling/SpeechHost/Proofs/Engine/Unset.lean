import SpeechHost.Proofs.Engine.Settings
/-!
# What lasts of an engine

Of an engine that is a program, a request overwrites the voice, the rate, the pitch and the stop flag. What
is left without them (`unset`) is as the engine was loaded: no setting and no speech changes it. Whether a
setting is refused, and why, depends on nothing else (`change_unset`), and two engines that agree in it and
in their settings are the same as soon as they take a text in (`eq_of_read`).
-/

namespace SpeechHost

open SpeechHost.Audio SpeechHost.Text SpeechHost.Voice

variable {σ : Type} [AudioSink σ]

/-! ## The filter -/

namespace Playback

theorem shelf_heed (p : Playback) (r : Reply) : (p.heed r).shelf = p.shelf := by
  unfold heed
  split_ifs <;> rfl

theorem shelf_deliver (p : Playback) (s : σ) (w : World) (bs : List Storage.Bytes) :
    (p.deliver s w bs).2.2.1.shelf = p.shelf := by
  induction bs generalizing p s w with
  | nil => rfl
  | cons b bs ih =>
    rw [deliver]
    split_ifs
    · rfl
    · split
      next reply s' w' _ =>
      simp only
      split
      · exact p.shelf_heed reply
      · rw [ih, p.shelf_heed]

theorem shelf_stream (p : Playback) (wave : Storage.Bytes) (s : σ) (w : World) :
    (p.stream wave s w).2.2.1.shelf = p.shelf := by
  unfold stream
  split
  · rfl
  · unfold play
    split
    next reply s' w' _ =>
    simp only
    split
    · exact p.shelf_heed reply
    · rw [shelf_deliver, p.shelf_heed]

end Playback

theorem Pico.shelf_utter (text : String) (s : σ) (p : Pico) (w : World) :
    (p.utter text s w).2.2.1.playback.shelf = p.playback.shelf := by
  unfold utter
  split
  · rfl
  · split
    · rfl
    · exact p.playback.shelf_stream _ s _

theorem Espeak.shelf_utter (text : String) (s : σ) (e : Espeak) (w : World) :
    (e.utter text s w).2.2.1.playback.shelf = e.playback.shelf := by
  unfold utter
  split
  · rfl
  · exact e.playback.shelf_stream _ s _

/-! ## What lasts -/

namespace CommandEngine

/-- The engine as if nothing had been set and no stop been asked for. -/
def unset : CommandEngine → CommandEngine
  | .pico p =>
    let prosody := { p.prosody with
      rate := { p.prosody.rate with level := Dial.neutral }
      pitch := { p.prosody.pitch with level := Dial.neutral } }
    .pico { p with playback := p.playback.begin, voice := none, prosody }
  | .espeak e =>
    .espeak { e with playback := e.playback.begin, voice := none, locale := none, rate := 100, pitch := 100 }

theorem unset_withPlayback {e : CommandEngine} {playback : Playback}
    (h : playback.shelf = e.playback.shelf) : (e.withPlayback playback).unset = e.unset := by
  cases e with
  | pico p => simp_all [withPlayback, unset, Playback.begin, CommandEngine.playback]
  | espeak e => simp_all [withPlayback, unset, Playback.begin, CommandEngine.playback]

theorem unset_utter (text : String) (s : σ) (e : CommandEngine) (w : World) :
    (SpeechEngine.utter text s e w).2.2.1.unset = e.unset := by
  cases e with
  | pico p =>
    obtain ⟨playback, hp⟩ := p.utter_playback text s w
    have hshelf := p.shelf_utter text s w
    rw [hp] at hshelf
    exact (congrArg (fun p => unset (.pico p)) hp).trans (unset_withPlayback (e := .pico p) hshelf)
  | espeak e =>
    obtain ⟨playback, he⟩ := e.utter_playback text s w
    have hshelf := e.shelf_utter text s w
    rw [he] at hshelf
    exact (congrArg (fun e => unset (.espeak e)) he).trans (unset_withPlayback (e := .espeak e) hshelf)

/-! ## Settings -/

variable {d : Storage.Disk} {r : SpeechRequest} {e e' f : CommandEngine} {k : Setting}

theorem unset_change (h : change d r e k = .ok f) : f.unset = e.unset := by
  cases e with
  | pico p =>
    cases k with
    | language =>
      obtain ⟨p', hp, rfl⟩ := map_ok h
      rw [Pico.setLanguage_ok hp]
      rfl
    | rate =>
      obtain ⟨p', hp, rfl⟩ := map_ok h
      rw [Pico.setProperty_rate_ok hp]
      rfl
    | pitch =>
      obtain ⟨p', hp, rfl⟩ := map_ok h
      rw [Pico.setProperty_pitch_ok hp]
      rfl
  | espeak e =>
    cases k with
    | language =>
      obtain ⟨e₁, he, rfl⟩ := map_ok h
      rw [Espeak.setLanguage_ok he]
      rfl
    | rate =>
      obtain ⟨e₁, he, rfl⟩ := map_ok h
      rw [Espeak.setProperty_rate_ok he]
      rfl
    | pitch =>
      obtain ⟨e₁, he, rfl⟩ := map_ok h
      rw [Espeak.setProperty_pitch_ok he]
      rfl

theorem change_unset (d : Storage.Disk) (r : SpeechRequest) (e : CommandEngine) (k : Setting) :
    (change d r e k).map (fun _ => ()) = (change d r e.unset k).map (fun _ => ()) := by
  cases e with
  | pico p =>
    cases k with
    | language =>
      simp only [change, setLanguage, unset, Pico.setLanguage]
      rcases choose? r.locale.language r.locale.country with _ | ⟨v, exact⟩
      · rfl
      · have hdata : ∀ q : Pico, q.directory = p.directory → q.hasData d v = p.hasData d v := by
          intro q hq
          rw [Pico.hasData, hq, Pico.hasData]
        simp only [Pico.select, hdata]
        cases p.hasData d v <;> rfl
    | rate =>
      simp only [change, setProperty, unset, Pico.setProperty, String.reduceBEq]
      cases readLevel "rate" (toString r.rate) <;> rfl
    | pitch =>
      simp only [change, setProperty, unset, Pico.setProperty, String.reduceBEq]
      cases readLevel "pitch" (toString r.pitch) <;> rfl
  | espeak e =>
    cases k with
    | language =>
      simp only [change, setLanguage, unset, Espeak.setLanguage]
      split_ifs <;> rfl
    | rate =>
      simp only [change, setProperty, unset, Espeak.setProperty, String.reduceBEq]
      cases readLevel "rate" (toString r.rate) <;> rfl
    | pitch =>
      simp only [change, setProperty, unset, Espeak.setProperty, String.reduceBEq]
      cases readLevel "pitch" (toString r.pitch) <;> rfl

theorem meant_unset (k : Setting) (e : CommandEngine) (r : SpeechRequest) :
    meant k e.unset r = meant k e r := by
  cases e <;> cases k <;> rfl

theorem eq_of_read (h : e.unset = e'.unset) (hread : ∀ k, read k e = read k e') :
    e.withPlayback e.playback.begin = e'.withPlayback e'.playback.begin := by
  have hlanguage := hread .language
  have hrate := hread .rate
  have hpitch := hread .pitch
  cases e with
  | pico p =>
    cases e' with
    | pico p' =>
      obtain ⟨program, directory, playback, voice, prosody⟩ := p
      obtain ⟨program', directory', playback', voice', prosody'⟩ := p'
      simp only [unset, CommandEngine.pico.injEq, Pico.mk.injEq, Prosody.mk.injEq] at h
      simp only [read, CommandReading.voice.injEq, CommandReading.dial.injEq] at hlanguage hrate hpitch
      obtain ⟨rfl, rfl, hplayback, -, -, -, hvolume⟩ := h
      obtain ⟨rate, pitch, volume⟩ := prosody
      obtain ⟨rate', pitch', volume'⟩ := prosody'
      simp_all [withPlayback, CommandEngine.playback]
    | espeak e' => contradiction
  | espeak e =>
    cases e' with
    | pico p' => contradiction
    | espeak e' =>
      simp only [unset, CommandEngine.espeak.injEq, Espeak.mk.injEq] at h
      simp only [read, CommandReading.named.injEq, CommandReading.level.injEq] at hlanguage hrate hpitch
      obtain ⟨hprogram, hextra, hplayback, -, -, -, -, hvolume⟩ := h
      simp only [withPlayback, CommandEngine.playback, CommandEngine.espeak.injEq, Espeak.mk.injEq]
      exact ⟨hprogram, hextra, hplayback, hlanguage.1, hlanguage.2, hrate, hpitch, hvolume⟩

end CommandEngine

end SpeechHost
