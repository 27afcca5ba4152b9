import SpeechHost.Proofs.Engine.Settings
import SpeechHost.Rehearsal.Sink
/-!
# Whose settings are heard

The calls of a request are made one by one, so another client may come between a setting and the speech
it was made for. When a client speaks, each setting of the engine is the one that was made last,
whoever made it (`read_run`). The client is heard with its own settings if and only if those who made
them last asked for the same (`speaks_as_asked_iff`).
-/

namespace SpeechHost

open SpeechHost.Audio

variable {ε σ ι : Type} [SpeechEngine ε] [AudioSink σ] [DecidableEq ι]

/-- Whether all settings of an engine are those that a request asks for. -/
def Tuned [TunedEngine ε] (e : ε) (r : SpeechRequest) : Prop :=
  ∀ k, TunedEngine.read k e = TunedEngine.meant k e r

theorem tuned_espeak_iff {e : Espeak} {r : SpeechRequest} :
    Tuned (CommandEngine.espeak e) r ↔
      e.voice = some (Espeak.voiceFor r.locale) ∧ e.locale = some r.locale ∧ e.rate = r.rate ∧
        e.pitch = r.pitch := by
  constructor
  · intro h
    have hlanguage : CommandReading.named e.voice e.locale = .named _ _ := h .language
    have hrate : CommandReading.level e.rate = .level r.rate := h .rate
    have hpitch : CommandReading.level e.pitch = .level r.pitch := h .pitch
    simp only [CommandReading.named.injEq, CommandReading.level.injEq] at hlanguage hrate hpitch
    exact ⟨hlanguage.1, hlanguage.2, hrate, hpitch⟩
  · rintro ⟨hvoice, hlocale, hrate, hpitch⟩ k
    cases k with
    | language => exact congrArg₂ CommandReading.named hvoice hlocale
    | rate => exact congrArg CommandReading.level hrate
    | pitch => exact congrArg CommandReading.level hpitch

namespace Shared

def lastSetter (k : Setting) (f : Shared ε σ ι) : List ι → Option ι
  | [] => none
  | i :: is => (lastSetter k (f.step i) is).or (if f.makes k i then some i else none)

def Passed (k : Setting) : RequestStage → Prop
  | .sets .language => False
  | .sets .rate => k = .language
  | .sets .pitch => k ≠ .pitch
  | .speaks => True
  | .ended _ => False

/-! ## One call -/

theorem tell_released {s : Session ε} (h : s.released = true) (r : SpeechRequest) (k : Setting)
    (w : World) : r.tell k s w = (.error .released, s, w) := by
  simp [SpeechRequest.tell_eq, Session.request, h]

theorem tell_open {s : Session ε} (h : s.released = false) (r : SpeechRequest) (k : Setting)
    (w : World) :
    r.tell k s w = ((r.ask k s.engine w).1, { s with engine := (r.ask k s.engine w).2.1 },
      (r.ask k s.engine w).2.2) := by
  simp [SpeechRequest.tell_eq, Session.request, h]

theorem engine_speak (s : Session ε) (text : String) (out : σ) (w : World) :
    (s.speak text out w).2.2.1.engine =
      if s.released then s.engine else (SpeechEngine.synthesize text out s.engine w).2.2.1 := by
  cases h : s.released <;>
    simp [Session.speak, Session.enterSpeech, Session.finishSpeech, Session.request,
      SpeechEngine.synthesize, h]

theorem session_step (f : Shared ε σ ι) (i : ι) :
    (f.step i).session = match (f.clients i).stage with
      | .sets k => ((f.clients i).request.tell k f.session f.world).2.1
      | .speaks => (f.session.speak (f.clients i).request.text (f.clients i).out f.world).2.2.1
      | .ended _ => f.session := by
  cases hk : (f.clients i).stage with
  | sets k =>
    rcases hcall : (f.clients i).request.tell k f.session f.world with ⟨e | _, s, w⟩
    · simp only [step_sets_error hk hcall, hcall]
    · simp only [step_sets_ok hk hcall, hcall]
  | speaks =>
    rcases hcall : f.session.speak (f.clients i).request.text (f.clients i).out f.world
      with ⟨r, out, s, w⟩
    rw [step_speaks hk hcall]
  | ended r => rw [step_ended hk]

/-! ## Who was last -/

theorem passed_step {f : Shared ε σ ι} {i j : ι} {k : Setting}
    (h : Passed k ((f.step j).clients i).stage) :
    Passed k (f.clients i).stage ∨ (f.makes k i = true ∧ j = i) := by
  rcases eq_or_ne i j with rfl | hij
  case inr => exact .inl (by rwa [clients_step_of_ne f hij] at h)
  cases hk : (f.clients i).stage with
  | sets k' =>
    rcases hcall : (f.clients i).request.tell k' f.session f.world with ⟨e | _, s, w⟩
    · simp [step_sets_error hk hcall, Passed] at h
    · have hmakes : f.makes k i = (k' == k) := by
        simp [makes, hk, hcall, Except.isOk, Except.toBool]
      rw [step_sets_ok hk hcall] at h
      rw [hmakes]
      cases k' <;> cases k <;> simp_all [Passed, Setting.next]
  | speaks =>
    rcases hcall : f.session.speak (f.clients i).request.text (f.clients i).out f.world
      with ⟨r, out, s, w⟩
    simp [step_speaks hk hcall, Passed] at h
  | ended r =>
    rw [step_ended hk, hk] at h
    exact .inl h

/-- Who has made a setting was the last to make it, or somebody was later. -/
theorem passed_run {f : Shared ε σ ι} {is : List ι} {i : ι} {k : Setting}
    (h : Passed k ((f.run is).clients i).stage) :
    Passed k (f.clients i).stage ∨ ∃ j, lastSetter k f is = some j := by
  induction is generalizing f with
  | nil => exact .inl h
  | cons j is ih =>
    rw [lastSetter]
    rcases ih h with hstep | ⟨j', hlast⟩
    · rcases passed_step hstep with hbefore | ⟨hmakes, rfl⟩
      · exact .inl hbefore
      · right
        cases hlast : lastSetter k (f.step j) is with
        | some j' => exact ⟨j', rfl⟩
        | none => exact ⟨j, by simp [hmakes]⟩
    · exact .inr ⟨j', by simp [hlast]⟩

/-! ## Settings of the engine -/

variable [TunedEngine ε]

theorem read_step (f : Shared ε σ ι) (i : ι) (k : Setting) :
    TunedEngine.read k (f.step i).session.engine =
      if f.makes k i then TunedEngine.meant k f.session.engine (f.clients i).request
      else TunedEngine.read k f.session.engine := by
  rw [session_step]
  cases hk : (f.clients i).stage with
  | sets k' =>
    cases hr : f.session.released with
    | true => simp [makes, hk, tell_released hr, Except.isOk, Except.toBool]
    | false =>
      simp only [makes, hk, tell_open hr, TunedEngine.read_ask, Bool.and_eq_true, beq_iff_eq]
      by_cases hk' : k' = k
      · simp [hk']
      · simp [hk', Ne.symm hk']
  | speaks =>
    have hmakes : f.makes k i = false := by simp [makes, hk]
    simp only [engine_speak, hmakes]
    split_ifs <;> simp_all [TunedEngine.read_synthesize]
  | ended r => simp [makes, hk]

theorem meant_step (f : Shared ε σ ι) (i : ι) (k : Setting) (r : SpeechRequest) :
    TunedEngine.meant k (f.step i).session.engine r = TunedEngine.meant k f.session.engine r := by
  rw [session_step]
  cases hk : (f.clients i).stage with
  | sets k' =>
    cases hr : f.session.released with
    | true => simp [tell_released hr]
    | false => simp only [tell_open hr, TunedEngine.meant_ask]
  | speaks =>
    simp only [engine_speak]
    split_ifs
    · rfl
    · exact TunedEngine.meant_synthesize ..
  | ended r => rfl

theorem meant_run (f : Shared ε σ ι) (is : List ι) (k : Setting) (r : SpeechRequest) :
    TunedEngine.meant k (f.run is).session.engine r =
      TunedEngine.meant k f.session.engine r := by
  induction is generalizing f with
  | nil => rfl
  | cons i is ih => rw [run_cons, ih, meant_step]

/-- A setting of the engine is the one that was made last. -/
theorem read_run (f : Shared ε σ ι) (is : List ι) (k : Setting) :
    TunedEngine.read k (f.run is).session.engine =
      match lastSetter k f is with
      | some j => TunedEngine.meant k f.session.engine (f.clients j).request
      | none => TunedEngine.read k f.session.engine := by
  induction is generalizing f with
  | nil => rfl
  | cons i is ih =>
    rw [run_cons, ih, lastSetter]
    cases hlast : lastSetter k (f.step i) is with
    | some j => simp only [Option.some_or, meant_step, request_step]
    | none =>
      rw [Option.none_or, read_step]
      split_ifs <;> rfl

/-- A client is heard with the settings that it asked for if and only if those who made them last
before its speech asked for the same. -/
theorem speaks_as_asked_iff {f : Shared ε σ ι} {i : ι}
    (hstart : (f.clients i).stage = .sets .language) {is : List ι}
    (hspeaks : ((f.run is).clients i).stage = .speaks) :
    Tuned (f.run is).session.engine (f.clients i).request ↔
      ∀ k, ∃ j, lastSetter k f is = some j ∧
        TunedEngine.meant k f.session.engine (f.clients j).request =
          TunedEngine.meant k f.session.engine (f.clients i).request := by
  have hlast : ∀ k, ∃ j, lastSetter k f is = some j := by
    intro k
    have hpassed : Passed k ((f.run is).clients i).stage := by
      rw [hspeaks]
      trivial
    rcases passed_run hpassed with hbefore | hlast
    · rw [hstart] at hbefore
      exact hbefore.elim
    · exact hlast
  refine forall_congr' fun k => ?_
  obtain ⟨j, hj⟩ := hlast k
  rw [read_run, meant_run, hj]
  simp

/-! ## A setting that comes between -/

/-- Two clients of one engine, one for American and one for British English. -/
def twoAccents : Shared CommandEngine Rehearsal.Probe Bool where
  session := ⟨"espeak-ng", .forEngine "espeak-ng", .espeak (.new (.ofString "espeak-ng") ""), false⟩
  world := ⟨.fresh [], none, []⟩
  clients i :=
    ⟨⟨"hi", ⟨"eng", if i then "GBR" else "USA", ""⟩, 100, 100⟩, .quiet, .sets .language⟩

theorem speaks_as_asked_iff_twoAccents :
    ((twoAccents.run [true, false, false, false]).clients false).stage = .speaks ∧
      Tuned (twoAccents.run [true, false, false, false]).session.engine
        (twoAccents.clients false).request := by
  have hspeaks : ((twoAccents.run [true, false, false, false]).clients false).stage = .speaks := by
    rfl
  refine ⟨hspeaks, (speaks_as_asked_iff rfl hspeaks).2 fun k => ⟨false, ?_, rfl⟩⟩
  cases k <;> rfl

/-- The American client is heard in British English when the British one chooses its language in
between. -/
theorem not_speaks_as_asked :
    ((twoAccents.run [false, true, false, false]).clients false).stage = .speaks ∧
      ¬ Tuned (twoAccents.run [false, true, false, false]).session.engine
        (twoAccents.clients false).request := by
  refine ⟨by rfl, fun h => ?_⟩
  obtain ⟨e, hengine, hlocale⟩ :
      ∃ e, (twoAccents.run [false, true, false, false]).session.engine = .espeak e ∧
        e.locale = some ⟨"eng", "GBR", ""⟩ := ⟨_, rfl, rfl⟩
  rw [hengine, tuned_espeak_iff, hlocale] at h
  have hsame := h.2.1
  simp [twoAccents] at hsame

end Shared

end SpeechHost
