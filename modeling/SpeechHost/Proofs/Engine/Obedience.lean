import SpeechHost.Proofs.Engine.Settings
import SpeechHost.Proofs.Engine.Usage
import SpeechHost.Proofs.Voice.Choice
/-!
# What an engine does with what it is told

An engine that is a program keeps a voice and three levels. `Pico.Obeys` and `Espeak.Obeys` say what one use
does to them: what the engine was told is taken over, and anything else changes nothing but what playing
does. So after any history the engine is what it was told last (`Pico.Kept`, `Espeak.Kept`).
-/

namespace SpeechHost

open SpeechHost.Audio SpeechHost.Storage SpeechHost.Text SpeechHost.Voice

/-! ## Levels and voices -/

theorem readLevel_ok_iff {name value : String} {n : Int} :
    readLevel name value = .ok n ↔ numeral? 32 (trim value) = some n := by
  cases h : numeral? 32 (trim value) <;> simp [readLevel, h]

def Prosody.dial (p : Prosody) : SpeechProperty → Dial
  | .rate => p.rate
  | .pitch => p.pitch
  | .volume => p.volume

def Prosody.turned (p : Prosody) (k : SpeechProperty) (n : Int) : Prosody :=
  match k with
  | .rate => { p with rate := p.rate.turn n }
  | .pitch => { p with pitch := p.pitch.turn n }
  | .volume => { p with volume := p.volume.turn n }

theorem Prosody.dial_turned (p : Prosody) (k k' : SpeechProperty) (n : Int) :
    (p.turned k n).dial k' = if k = k' then (p.dial k').turn n else p.dial k' := by
  cases k <;> cases k' <;> rfl

theorem Prosody.turn_eq (p : Prosody) (name : String) (n : Int) :
    p.turn name n = match SpeechProperty.ofName? name with
      | some k => .ok (p.turned k n)
      | none => .error (.failed (.unknownProperty name)) := by
  unfold turn SpeechProperty.ofName?
  split <;> simp_all [turned]

def Espeak.level (e : Espeak) : SpeechProperty → Int
  | .rate => e.rate
  | .pitch => e.pitch
  | .volume => e.volume

def Espeak.withLevel (e : Espeak) (k : SpeechProperty) (n : Int) : Espeak :=
  match k with
  | .rate => { e with rate := n }
  | .pitch => { e with pitch := n }
  | .volume => { e with volume := n }

theorem Espeak.level_withLevel (e : Espeak) (k k' : SpeechProperty) (n : Int) :
    (e.withLevel k n).level k' = if k = k' then n else e.level k' := by
  cases k <;> cases k' <;> rfl

/-- The locale that names the voice of a choice to a Pico engine. -/
def VoiceChoice.locale? : VoiceChoice → Option String
  | .byLocale l => (choose? l.language l.country).map (·.1.locale)
  | .byName name => some name

/-- The voice of a choice for an engine with the command line of eSpeak. -/
def VoiceChoice.spoken : VoiceChoice → String
  | .byLocale l => Espeak.voiceFor l
  | .byName name => lowercase name

/-! ## One use -/

/-- A change that an engine takes over if it comes about: what holds of an engine that was told nothing holds
then, or else what holds of the changed one. -/
theorem CommandEngine.told_settle {κ : Type} (wrap : κ → CommandEngine) {k : κ} {c : EngineUse}
    {changed : Except EngineError κ} {P : κ → Option Told → Prop} (hsame : P k none)
    (hchanged : ∀ k', changed = .ok k' → P k' (c.told? (.outcome (.ok ())))) :
    ∃ k', ((wrap k).settle (wrap <$> changed)).2 = wrap k' ∧
      P k' (c.told? (.outcome ((wrap k).settle (wrap <$> changed)).1)) := by
  cases h : changed with
  | error x => exact ⟨k, rfl, (c.told?_error x).symm ▸ hsame⟩
  | ok k' => exact ⟨k', rfl, hchanged k' h⟩

namespace Pico

def Obeys (p q : Pico) : Option Told → Prop
  | none => ∃ playback, q = { p with playback }
  | some (.voice c) => ∃ v ∈ voices, c.locale? = some v.locale ∧ q = { p with voice := some v }
  | some (.level k n) => q = { p with prosody := p.prosody.turned k n }

theorem obeys_refl (p : Pico) : p.Obeys p none := ⟨p.playback, rfl⟩

variable {p q : Pico} {d : Disk}

theorem select_ok {v : Voice} (h : p.select d v = .ok q) : q = { p with voice := some v } := by
  unfold select at h
  split_ifs at h
  exact (Except.ok.inj h).symm

theorem obeys_setLanguage {l : Locale} (h : p.setLanguage d l = .ok q) :
    p.Obeys q ((EngineUse.setLanguage l).told? (.outcome (.ok ()))) := by
  unfold setLanguage at h
  split at h
  · contradiction
  · next v exact hchoice =>
    have hmem : v ∈ voices := (List.mem_filter.1 (choose?_cases hchoice).1).1
    exact ⟨v, hmem, by simp [VoiceChoice.locale?, hchoice], select_ok h⟩

theorem obeys_setProperty {name value : String} (h : p.setProperty d name value = .ok q) :
    p.Obeys q ((EngineUse.setProperty name value).told? (.outcome (.ok ()))) := by
  unfold setProperty at h
  by_cases hname : name = "language"
  · subst hname
    -- The voice is found by its whole name, so the name says which locale it has.
    simp only [beq_self_eq_true, if_true] at h
    split at h
    · contradiction
    · next v hfind =>
      have hfits := List.find?_some hfind
      have hlocale : v.locale = value := beq_iff_eq.1 hfits
      exact ⟨v, List.mem_of_find?_eq_some hfind, by rw [VoiceChoice.locale?, hlocale], select_ok h⟩
  · simp only [beq_eq_false_iff_ne.2 hname, Bool.false_eq_true, if_false] at h
    obtain ⟨n, hlevel, h⟩ := bind_ok h
    obtain ⟨prosody, hturn, h⟩ := bind_ok h
    rw [Prosody.turn_eq] at hturn
    cases hk : SpeechProperty.ofName? name with
    | none => simp [hk] at hturn
    | some k =>
      simp only [hk] at hturn
      obtain rfl := Except.ok.inj hturn
      rw [EngineUse.told?_setProperty, if_neg hname, hk, readLevel_ok_iff.1 hlevel]
      exact (Except.ok.inj h).symm

theorem obeys_ask {σ : Type} [AudioSink σ] (c : EngineUse) (out : σ) (p : Pico) (w : World) :
    ∃ q, (c.ask out (CommandEngine.pico p) w).2.2.1 = .pico q ∧
      p.Obeys q (c.told? (c.ask out (CommandEngine.pico p) w).1) := by
  cases c with
  | setLanguage l => exact CommandEngine.told_settle .pico p.obeys_refl fun q h => obeys_setLanguage h
  | setProperty name value => exact CommandEngine.told_settle .pico p.obeys_refl fun q h => obeys_setProperty h
  | synthesize text =>
    obtain ⟨playback, h⟩ := utter_playback text out { p with playback := p.playback.begin } w
    exact ⟨_, congrArg CommandEngine.pico h, playback, rfl⟩
  | configure f => exact ⟨_, rfl, _, rfl⟩
  | stop => exact ⟨_, rfl, _, rfl⟩
  | availability l => exact ⟨p, rfl, p.obeys_refl⟩
  | language => exact ⟨p, rfl, p.obeys_refl⟩

end Pico

namespace Espeak

/-- What becomes of an engine that is told something, or nothing. A voice that is chosen by its name has no
locale. -/
def Obeys (e f : Espeak) : Option Told → Prop
  | none => ∃ playback, f = { e with playback }
  | some (.voice (.byLocale l)) => f = { e with voice := some (voiceFor l), locale := some l }
  | some (.voice (.byName name)) => f = { e with voice := some (lowercase name) }
  | some (.level k n) => f = e.withLevel k n

theorem obeys_refl (e : Espeak) : e.Obeys e none := ⟨e.playback, rfl⟩

variable {e f : Espeak}

theorem obeys_setProperty {name value : String} (h : e.setProperty name value = .ok f) :
    e.Obeys f ((EngineUse.setProperty name value).told? (.outcome (.ok ()))) := by
  unfold setProperty at h
  by_cases hname : name = "language"
  · subst hname
    simp only [beq_self_eq_true, if_true] at h
    exact (Except.ok.inj h).symm
  · simp only [beq_eq_false_iff_ne.2 hname, Bool.false_eq_true, if_false] at h
    obtain ⟨n, hlevel, h⟩ := bind_ok h
    rw [EngineUse.told?_setProperty, if_neg hname, readLevel_ok_iff.1 hlevel]
    split at h
    · exact (Except.ok.inj h).symm
    · exact (Except.ok.inj h).symm
    · exact (Except.ok.inj h).symm
    · cases h

theorem obeys_ask {σ : Type} [AudioSink σ] (c : EngineUse) (out : σ) (e : Espeak) (w : World) :
    ∃ f, (c.ask out (CommandEngine.espeak e) w).2.2.1 = .espeak f ∧
      e.Obeys f (c.told? (c.ask out (CommandEngine.espeak e) w).1) := by
  cases c with
  | setLanguage l => exact CommandEngine.told_settle .espeak e.obeys_refl fun f h => setLanguage_ok h
  | setProperty name value => exact CommandEngine.told_settle .espeak e.obeys_refl fun f h => obeys_setProperty h
  | synthesize text =>
    obtain ⟨playback, h⟩ := utter_playback text out { e with playback := e.playback.begin } w
    exact ⟨_, congrArg CommandEngine.espeak h, playback, rfl⟩
  | configure f => exact ⟨_, rfl, _, rfl⟩
  | stop => exact ⟨_, rfl, _, rfl⟩
  | availability l => exact ⟨e, rfl, e.obeys_refl⟩
  | language => exact ⟨e, rfl, e.obeys_refl⟩

end Espeak

/-! ## A whole history -/

/-- What a Pico engine keeps of all that it was told. -/
structure Pico.Kept (program : Path) (ts : List Told) (p : Pico) : Prop where
  program : p.program = program
  voice : match lastOf Told.voice? ts with
    | none => p.voice = none
    | some c => ∃ v ∈ voices, c.locale? = some v.locale ∧ p.voice = some v
  dial : ∀ k, p.prosody.dial k =
    (lastOf (Told.level? k) ts).elim (Prosody.neutral.dial k) (Prosody.neutral.dial k).turn

/-- What an engine with the command line of eSpeak keeps of all that it was told. -/
structure Espeak.Kept (program : Path) (config : String) (ts : List Told) (e : Espeak) : Prop where
  program : e.program = program
  extra : e.extra = words config
  voice : e.voice = (lastOf Told.voice? ts).map VoiceChoice.spoken
  locale : e.locale = lastOf Told.locale? ts
  level : ∀ k, e.level k = (lastOf (Told.level? k) ts).getD 100

theorem Pico.Kept.new (program : Path) (config : String) : (Pico.new program config).Kept program [] := by
  refine ⟨rfl, rfl, fun k => ?_⟩
  cases k <;> rfl

theorem Pico.Kept.obeys {program : Path} {ts : List Told} {p q : Pico} {t : Option Told}
    (h : p.Kept program ts) (hq : p.Obeys q t) : q.Kept program (ts ++ t.toList) := by
  match t with
  | none =>
    obtain ⟨playback, rfl⟩ := hq
    rw [Option.toList_none, List.append_nil]
    exact ⟨h.program, h.voice, h.dial⟩
  | some (.voice c) =>
    obtain ⟨v, hv, hlocale, rfl⟩ := hq
    refine ⟨h.program, ?_, fun k => ?_⟩
    · rw [Option.toList_some, lastOf_concat]
      exact ⟨v, hv, hlocale, rfl⟩
    · simpa [Told.level?] using h.dial k
  | some (.level k n) =>
    obtain rfl := hq
    refine ⟨h.program, ?_, fun k' => ?_⟩
    · rw [Option.toList_some, lastOf_concat]
      exact h.voice
    · rw [Prosody.dial_turned, Option.toList_some, lastOf_concat, Told.level?, h.dial k']
      split_ifs
      · cases lastOf (Told.level? k') ts <;> rfl
      · rfl

theorem Espeak.Kept.new (program : Path) (config : String) :
    (Espeak.new program config).Kept program config [] := by
  refine ⟨rfl, rfl, rfl, rfl, fun k => ?_⟩
  cases k <;> rfl

theorem Espeak.Kept.obeys {program : Path} {config : String} {ts : List Told} {e f : Espeak}
    {t : Option Told} (h : e.Kept program config ts) (hf : e.Obeys f t) :
    f.Kept program config (ts ++ t.toList) := by
  match t with
  | none =>
    obtain ⟨playback, rfl⟩ := hf
    rw [Option.toList_none, List.append_nil]
    exact ⟨h.program, h.extra, h.voice, h.locale, h.level⟩
  | some (.voice (.byLocale l)) =>
    obtain rfl := hf
    refine ⟨h.program, h.extra, ?_, ?_, fun k => ?_⟩
    · simp [Told.voice?, VoiceChoice.spoken]
    · simp [Told.locale?]
    · have hlevel := h.level k
      cases k <;> simpa [Told.level?, Espeak.level] using hlevel
  | some (.voice (.byName name)) =>
    obtain rfl := hf
    refine ⟨h.program, h.extra, ?_, ?_, fun k => ?_⟩
    · simp [Told.voice?, VoiceChoice.spoken]
    · simpa [Told.locale?] using h.locale
    · have hlevel := h.level k
      cases k <;> simpa [Told.level?, Espeak.level] using hlevel
  | some (.level k n) =>
    obtain rfl := hf
    refine ⟨?_, ?_, ?_, ?_, fun k' => ?_⟩
    · cases k <;> exact h.program
    · cases k <;> exact h.extra
    · have hvoice : (e.withLevel k n).voice = e.voice := by cases k <;> rfl
      simpa [Told.voice?, hvoice] using h.voice
    · have hlocale : (e.withLevel k n).locale = e.locale := by cases k <;> rfl
      simpa [Told.locale?, hlocale] using h.locale
    · rw [level_withLevel, Option.toList_some, lastOf_concat, Told.level?, h.level k']
      split_ifs <;> rfl

namespace Usage

variable {σ : Type} [AudioSink σ]

/-- A Pico engine keeps what it was told last, whatever it was asked and whatever happened meanwhile. -/
theorem pico_kept (program : Path) (config : String) (out : σ) (w : World) (es : List (Event σ)) :
    ∃ p, ((fresh (CommandEngine.pico (.new program config)) out w).run es).engine = .pico p ∧
      p.Kept program ((fresh (CommandEngine.pico (.new program config)) out w).run es).told := by
  refine run_told CommandEngine.pico (fun c out p w ts hkept => ?_) _ (.new program config) out w es
  obtain ⟨q, hq, hobeys⟩ := Pico.obeys_ask c out p w
  exact ⟨q, hq, hkept.obeys hobeys⟩

theorem espeak_kept (program : Path) (config : String) (out : σ) (w : World) (es : List (Event σ)) :
    ∃ e, ((fresh (CommandEngine.espeak (.new program config)) out w).run es).engine = .espeak e ∧
      e.Kept program config ((fresh (CommandEngine.espeak (.new program config)) out w).run es).told := by
  refine run_told CommandEngine.espeak (fun c out e w ts hkept => ?_) _ (.new program config) out w es
  obtain ⟨f, hf, hobeys⟩ := Espeak.obeys_ask c out e w
  exact ⟨f, hf, hkept.obeys hobeys⟩

end Usage

end SpeechHost
