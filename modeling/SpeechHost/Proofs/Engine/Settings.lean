import SpeechHost.Engine.Command
import SpeechHost.Proofs.Outcome
import SpeechHost.Proofs.Service.Clients
import SpeechHost.Proofs.Text.Numeral
/-!
# The settings of engines that are programs

Both kinds of engine keep a voice, a rate and a pitch. A call that succeeds sets one of them to what it
was given, as far as the engine goes; speaking and failing calls leave them alone.
-/

namespace SpeechHost

open SpeechHost.Audio SpeechHost.Text SpeechHost.Voice

/-- A setting of an engine that is a program. -/
inductive CommandReading where
  | voice (v : Option Voice)
  | named (voice : Option String) (l : Option Locale)
  | dial (d : Dial)
  | level (n : Int)

theorem readLevel_toString {name : String} {n level : Int}
    (h : readLevel name (toString n) = .ok level) : level = n := by
  unfold readLevel at h
  rw [trim_toString, numeral?_toString] at h
  split_ifs at h
  simpa using h.symm

/-! ## One kind and the other -/

namespace Pico

variable {p p' : Pico} {d : Storage.Disk}

theorem setLanguage_ok {l : Locale} (h : p.setLanguage d l = .ok p') :
    p' = { p with voice := (choose? l.language l.country).map (·.1) } := by
  unfold setLanguage at h
  split at h
  · contradiction
  · rename_i v exact hv
    rw [select] at h
    split_ifs at h
    rw [hv]
    exact (Except.ok.inj h).symm

theorem setProperty_rate_ok {n : Int} (h : p.setProperty d "rate" (toString n) = .ok p') :
    p' = { p with prosody := { p.prosody with rate := p.prosody.rate.turn n } } := by
  simp only [setProperty, String.reduceBEq, Bool.false_eq_true, if_false] at h
  obtain ⟨level, hlevel, hrest⟩ := bind_ok h
  obtain rfl := readLevel_toString hlevel
  exact (Except.ok.inj hrest).symm

theorem setProperty_pitch_ok {n : Int} (h : p.setProperty d "pitch" (toString n) = .ok p') :
    p' = { p with prosody := { p.prosody with pitch := p.prosody.pitch.turn n } } := by
  simp only [setProperty, String.reduceBEq, Bool.false_eq_true, if_false] at h
  obtain ⟨level, hlevel, hrest⟩ := bind_ok h
  obtain rfl := readLevel_toString hlevel
  exact (Except.ok.inj hrest).symm

theorem utter_playback {σ : Type} [AudioSink σ] (text : String) (s : σ) (p : Pico) (w : World) :
    ∃ playback, (p.utter text s w).2.2.1 = { p with playback } := by
  unfold utter
  split
  · exact ⟨p.playback, rfl⟩
  · split
    · exact ⟨p.playback, rfl⟩
    · exact ⟨_, rfl⟩

end Pico

namespace Espeak

variable {e e' : Espeak}

theorem setLanguage_ok {l : Locale} (h : e.setLanguage l = .ok e') :
    e' = { e with voice := some (voiceFor l), locale := some l } := by
  unfold setLanguage at h
  split_ifs at h
  exact (Except.ok.inj h).symm

theorem setProperty_rate_ok {n : Int} (h : e.setProperty "rate" (toString n) = .ok e') :
    e' = { e with rate := n } := by
  simp only [setProperty, String.reduceBEq, Bool.false_eq_true, if_false] at h
  obtain ⟨level, hlevel, hrest⟩ := bind_ok h
  obtain rfl := readLevel_toString hlevel
  exact (Except.ok.inj hrest).symm

theorem setProperty_pitch_ok {n : Int} (h : e.setProperty "pitch" (toString n) = .ok e') :
    e' = { e with pitch := n } := by
  simp only [setProperty, String.reduceBEq, Bool.false_eq_true, if_false] at h
  obtain ⟨level, hlevel, hrest⟩ := bind_ok h
  obtain rfl := readLevel_toString hlevel
  exact (Except.ok.inj hrest).symm

theorem utter_playback {σ : Type} [AudioSink σ] (text : String) (s : σ) (e : Espeak) (w : World) :
    ∃ playback, (e.utter text s w).2.2.1 = { e with playback } := by
  unfold utter
  split
  · exact ⟨e.playback, rfl⟩
  · exact ⟨_, rfl⟩

end Espeak

/-! ## Both kinds -/

namespace CommandEngine

/-- Reads a setting. -/
def read : Setting → CommandEngine → CommandReading
  | .language, .pico p => .voice p.voice
  | .rate, .pico p => .dial p.prosody.rate
  | .pitch, .pico p => .dial p.prosody.pitch
  | .language, .espeak e => .named e.voice e.locale
  | .rate, .espeak e => .level e.rate
  | .pitch, .espeak e => .level e.pitch

/-- What a request sets. -/
def meant : Setting → CommandEngine → SpeechRequest → CommandReading
  | .language, .pico _, r => .voice ((choose? r.locale.language r.locale.country).map (·.1))
  | .rate, .pico p, r => .dial (p.prosody.rate.turn r.rate)
  | .pitch, .pico p, r => .dial (p.prosody.pitch.turn r.pitch)
  | .language, .espeak _, r => .named (some (Espeak.voiceFor r.locale)) (some r.locale)
  | .rate, .espeak _, r => .level r.rate
  | .pitch, .espeak _, r => .level r.pitch

theorem read_withPlayback (k : Setting) (e : CommandEngine) (playback : Playback) :
    read k (e.withPlayback playback) = read k e := by
  cases e <;> cases k <;> rfl

theorem meant_withPlayback (k : Setting) (e : CommandEngine) (playback : Playback)
    (r : SpeechRequest) : meant k (e.withPlayback playback) r = meant k e r := by
  cases e <;> cases k <;> rfl

theorem synthesize_playback {σ : Type} [AudioSink σ] (text : String) (s : σ) (e : CommandEngine)
    (w : World) :
    ∃ playback, (SpeechEngine.synthesize text s e w).2.2.1 = e.withPlayback playback := by
  cases e with
  | pico p =>
    obtain ⟨playback, h⟩ := Pico.utter_playback text s { p with playback := p.playback.begin } w
    exact ⟨playback, congrArg CommandEngine.pico h⟩
  | espeak e =>
    obtain ⟨playback, h⟩ := Espeak.utter_playback text s { e with playback := e.playback.begin } w
    exact ⟨playback, congrArg CommandEngine.espeak h⟩

/-- The change that a setting of a request is, if it is one. -/
def change (d : Storage.Disk) (r : SpeechRequest) (e : CommandEngine) :
    Setting → Except EngineError CommandEngine
  | .language => e.setLanguage d r.locale
  | .rate => e.setProperty d "rate" (toString r.rate)
  | .pitch => e.setProperty d "pitch" (toString r.pitch)

theorem ask_eq (r : SpeechRequest) (k : Setting) (e : CommandEngine) (w : World) :
    r.ask k e w =
      ((e.settle (change w.disk r e k)).1, (e.settle (change w.disk r e k)).2, w) := by
  cases k <;> rfl

theorem change_ok {d : Storage.Disk} {r : SpeechRequest} {e e' : CommandEngine} {k : Setting}
    (h : change d r e k = .ok e') :
    (∀ k', read k' e' = if k' = k then meant k e r else read k' e) ∧
      ∀ k' r', meant k' e' r' = meant k' e r' := by
  cases e with
  | pico p =>
    cases k with
    | language =>
      obtain ⟨p', hp, rfl⟩ := map_ok h
      obtain rfl := Pico.setLanguage_ok hp
      exact ⟨fun k' => by cases k' <;> rfl, fun k' r' => by cases k' <;> rfl⟩
    | rate =>
      obtain ⟨p', hp, rfl⟩ := map_ok h
      obtain rfl := Pico.setProperty_rate_ok hp
      exact ⟨fun k' => by cases k' <;> rfl, fun k' r' => by cases k' <;> rfl⟩
    | pitch =>
      obtain ⟨p', hp, rfl⟩ := map_ok h
      obtain rfl := Pico.setProperty_pitch_ok hp
      exact ⟨fun k' => by cases k' <;> rfl, fun k' r' => by cases k' <;> rfl⟩
  | espeak e =>
    cases k with
    | language =>
      obtain ⟨e₁, he, rfl⟩ := map_ok h
      obtain rfl := Espeak.setLanguage_ok he
      exact ⟨fun k' => by cases k' <;> rfl, fun k' r' => by cases k' <;> rfl⟩
    | rate =>
      obtain ⟨e₁, he, rfl⟩ := map_ok h
      obtain rfl := Espeak.setProperty_rate_ok he
      exact ⟨fun k' => by cases k' <;> rfl, fun k' r' => by cases k' <;> rfl⟩
    | pitch =>
      obtain ⟨e₁, he, rfl⟩ := map_ok h
      obtain rfl := Espeak.setProperty_pitch_ok he
      exact ⟨fun k' => by cases k' <;> rfl, fun k' r' => by cases k' <;> rfl⟩

instance : TunedEngine CommandEngine where
  Reading := CommandReading
  read := read
  meant := meant
  read_ask r k k' e w := by
    rw [ask_eq]
    cases h : change w.disk r e k with
    | error error => simp [settle, Except.isOk, Except.toBool]
    | ok e' => simpa [settle, Except.isOk, Except.toBool] using (change_ok h).1 k'
  meant_ask r r' k k' e w := by
    rw [ask_eq]
    cases h : change w.disk r e k with
    | error error => rfl
    | ok e' => exact (change_ok h).2 k' r'
  read_synthesize k text s e w := by
    obtain ⟨playback, h⟩ := synthesize_playback text s e w
    rw [h, read_withPlayback]
  meant_synthesize k r text s e w := by
    obtain ⟨playback, h⟩ := synthesize_playback text s e w
    rw [h, meant_withPlayback]

end CommandEngine

end SpeechHost
