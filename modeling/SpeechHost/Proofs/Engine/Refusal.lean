import Mathlib.Tactic.SplitIfs
import SpeechHost.Engine.Command
import SpeechHost.Proofs.Engine.Usage
/-!
# Settings that are refused

A setting is the filter, the language or a property. An engine that is a program refuses a setting before it
changes anything (`step_of_refused`), so a history may be told without the settings that were refused in it
(`Usage.prune`): all that is left comes out as it did.
-/

namespace SpeechHost

open SpeechHost.Audio

variable {ε σ : Type}

/-- Whether a use changes how an engine speaks from then on. -/
def EngineUse.isSetting : EngineUse → Bool
  | .configure _ | .setLanguage _ | .setProperty _ _ => true
  | .availability _ | .language | .synthesize _ | .stop => false

/-- Whether a setting was refused. -/
def Exchange.isRefusal (x : Exchange σ) : Bool :=
  x.use.isSetting && !x.answer.granted

namespace Usage

/-- The same use without the refused settings in its log. -/
def withoutRefusals (u : Usage ε σ) : Usage ε σ :=
  { u with log := u.log.filter (!·.isRefusal) }

variable [SpeechEngine ε] [AudioSink σ]

/-- The events without the settings that are refused when they happen one after the other. -/
def prune (u : Usage ε σ) : List (Event σ) → List (Event σ)
  | [] => []
  | .meanwhile change :: es => .meanwhile change :: prune (u.step (.meanwhile change)) es
  | .ask c :: es =>
    let rest := prune (u.step (.ask c)) es
    if (u.exchange c).isRefusal then rest else .ask c :: rest

theorem withoutRefusals_step {u : Usage ε σ} {c : EngineUse} (h : (u.exchange c).isRefusal = false) :
    u.withoutRefusals.step (.ask c) = (u.step (.ask c)).withoutRefusals := by
  have hlog : (u.step (.ask c)).log.filter (!·.isRefusal) =
      u.log.filter (!·.isRefusal) ++ [u.exchange c] := by
    simp [log_step_ask, List.filter_append, h]
  simp only [withoutRefusals, hlog]
  rfl

end Usage

namespace Playback

theorem configure_error {f : FilterSpec} {p p' : Playback} {x : EngineError}
    (h : p.configure f = (.error x, p')) : p' = p := by
  unfold configure at h
  split_ifs at h
  · simp at h
  · exact (Prod.mk.inj h).2.symm
  · simp at h

end Playback

namespace CommandEngine

variable [AudioSink σ]

theorem configure_error {f : FilterSpec} {e e' : CommandEngine} {x : EngineError}
    (h : e.configure f = (.error x, e')) : e' = e := by
  rcases hplayback : e.playback.configure f with ⟨r, p⟩
  simp only [configure, hplayback, Prod.mk.injEq] at h
  obtain ⟨rfl, rfl⟩ := h
  rw [Playback.configure_error hplayback, withPlayback_playback]

theorem settle_error {e e' : CommandEngine} {changed : Except EngineError CommandEngine} {x : EngineError}
    (h : e.settle changed = (.error x, e')) : e' = e := by
  cases changed with
  | ok f => simp [settle] at h
  | error y => exact (Prod.mk.inj h).2.symm

/-- A setting that is refused changes neither the engine nor anything around it. -/
theorem ask_of_refused {c : EngineUse} {e e' : CommandEngine} {out out' : σ} {w w' : World}
    {x : EngineError} (hc : c.isSetting = true) (h : c.ask out e w = (.outcome (.error x), out', e', w')) :
    out' = out ∧ e' = e ∧ w' = w := by
  cases c with
  | configure f =>
    rcases hcall : e.configure f with ⟨r, e₁⟩
    simp only [EngineUse.ask, SpeechEngine.configure, hcall, Prod.mk.injEq, EngineAnswer.outcome.injEq] at h
    obtain ⟨rfl, rfl, rfl, rfl⟩ := h
    exact ⟨rfl, configure_error hcall, rfl⟩
  | setLanguage l =>
    rcases hcall : e.settle (e.setLanguage w.disk l) with ⟨r, e₁⟩
    simp only [EngineUse.ask, SpeechEngine.setLanguage, hcall, Prod.mk.injEq, EngineAnswer.outcome.injEq] at h
    obtain ⟨rfl, rfl, rfl, rfl⟩ := h
    exact ⟨rfl, settle_error hcall, rfl⟩
  | setProperty name value =>
    rcases hcall : e.settle (e.setProperty w.disk name value) with ⟨r, e₁⟩
    simp only [EngineUse.ask, SpeechEngine.setProperty, hcall, Prod.mk.injEq, EngineAnswer.outcome.injEq] at h
    obtain ⟨rfl, rfl, rfl, rfl⟩ := h
    exact ⟨rfl, settle_error hcall, rfl⟩
  | availability | language | synthesize | stop => contradiction

end CommandEngine

namespace Usage

variable [AudioSink σ] {u : Usage CommandEngine σ} {c : EngineUse}

theorem step_of_refused (h : (u.exchange c).isRefusal = true) :
    u.step (.ask c) = { u with log := u.log ++ [u.exchange c] } := by
  rcases hask : c.ask u.out u.engine u.world with ⟨answer, out, e, w⟩
  have hrefusal : c.isSetting = true ∧ answer.granted = false := by
    simpa [Exchange.isRefusal, exchange, hask] using h
  obtain ⟨hc, hgranted⟩ := hrefusal
  cases answer with
  | level a => simp [EngineAnswer.granted] at hgranted
  | locale l => simp [EngineAnswer.granted] at hgranted
  | outcome r =>
    cases r with
    | ok => simp [EngineAnswer.granted, Except.isOk, Except.toBool] at hgranted
    | error x =>
      obtain ⟨rfl, rfl, rfl⟩ := CommandEngine.ask_of_refused hc hask
      simp [step, exchange, hask]

theorem withoutRefusals_step_of_refused (h : (u.exchange c).isRefusal = true) :
    (u.step (.ask c)).withoutRefusals = u.withoutRefusals := by
  rw [step_of_refused h]
  simp [withoutRefusals, List.filter_append, h]

theorem run_prune_withoutRefusals (u : Usage CommandEngine σ) (es : List (Event σ)) :
    u.withoutRefusals.run (u.prune es) = (u.run es).withoutRefusals := by
  -- The two runs stand side by side: a refused setting is a step of the longer one only, and no step of what
  -- is left of it.
  induction es generalizing u with
  | nil => rfl
  | cons ev es ih =>
    cases ev with
    | meanwhile change => exact ih (u.step (.meanwhile change))
    | ask c =>
      cases h : (u.exchange c).isRefusal with
      | true =>
        simp only [prune, h, if_true, run_cons]
        rw [← withoutRefusals_step_of_refused h]
        exact ih (u.step (.ask c))
      | false =>
        simp only [prune, h, Bool.false_eq_true, if_false, run_cons]
        rw [withoutRefusals_step h]
        exact ih (u.step (.ask c))

/-- A history of an engine that is a program may be told without the settings that were refused: every other
exchange is the same, with its answer, the runs of programs and what the sink has got, and so are the engine,
the sink and the world at the end. -/
theorem refused_settings_leave_no_trace (e : CommandEngine) (out : σ) (w : World) (es : List (Event σ)) :
    let whole := (fresh e out w).run es
    let pruned := (fresh e out w).run ((fresh e out w).prune es)
    pruned.log = whole.log.filter (!·.isRefusal) ∧ pruned.engine = whole.engine ∧ pruned.out = whole.out ∧
      pruned.world = whole.world := by
  intro whole pruned
  have hpruned : pruned = whole.withoutRefusals := run_prune_withoutRefusals (fresh e out w) es
  rw [hpruned]
  exact ⟨rfl, rfl, rfl, rfl⟩

end Usage

end SpeechHost
