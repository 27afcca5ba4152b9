import SpeechHost.Proofs.Engine.Calls
import SpeechHost.Session
/-!
# What a session asks of its engine

A session that is not released passes requests on to its engine, and none of them sets the filter or lets
the engine go (`Session.Used`). The filter is set when the session is opened, and the engine is let go when
it is released, after a stop.
-/

namespace SpeechHost

open SpeechHost.Audio

variable {ε : Type} [SpeechEngine ε] {σ : Type} [AudioSink σ]

theorem FilterSpec.serves_applyTo (f : FilterSpec) (e : ε) (w : World) :
    Serves σ [⟨.configure f.enabled f.shelf, (f.applyTo e w).1.isOk⟩] e w (f.applyTo e w).2.1
      (f.applyTo e w).2.2 := by
  have hask := (Asks.configure (σ := σ) f e w).serves
  rcases hconfigure : SpeechEngine.configure f e w with ⟨_ | _, e', w'⟩
  all_goals
    rw [hconfigure] at hask
    simp only [applyTo, hconfigure]
    exact hask

namespace Session

variable {s s' s'' : Session ε} {w w' w'' : World}

/-- A session that was not released went on to use its engine. -/
structure Used (σ : Type) [AudioSink σ] (s : Session ε) (w : World) (s' : Session ε) (w' : World) :
    Prop where
  identifier : s'.identifier = s.identifier
  filter : s'.filter = s.filter
  released : s'.released = false
  served : ∃ qs, (∀ q ∈ qs, q.call.IsUse) ∧ Serves σ qs s.engine w s'.engine w'

theorem Used.refl (h : s.released = false) (w : World) : Used σ s w s w :=
  ⟨rfl, rfl, h, [], by simp, .nil _ w⟩

theorem Used.trans (h : Used σ s w s' w') (t : Used σ s' w' s'' w'') : Used σ s w s'' w'' := by
  obtain ⟨ps, hps, hfirst⟩ := h.served
  obtain ⟨qs, hqs, hnext⟩ := t.served
  refine ⟨t.identifier.trans h.identifier, t.filter.trans h.filter, t.released, ps ++ qs, ?_,
    hfirst.append hnext⟩
  intro q hq
  rcases List.mem_append.1 hq with hq | hq
  · exact hps q hq
  · exact hqs q hq

/-! ## Requests -/

theorem used_request {α : Type} (h : s.released = false) (released : α) {ask : Request ε α}
    {q : Question} (hask : Asks σ q s.engine w (ask s.engine w).2.1 (ask s.engine w).2.2)
    (hq : q.call.IsUse) :
    Used σ s w (s.request released ask w).2.1 (s.request released ask w).2.2 := by
  simp only [request, h, Bool.false_eq_true, if_false]
  exact ⟨rfl, rfl, rfl, [q], by simpa using hq, hask.serves⟩

theorem used_stop (h : s.released = false) (w : World) : Used σ s w (s.stop w).2.1 (s.stop w).2.2 :=
  used_request h _ (.stop ..) trivial

theorem used_availability (h : s.released = false) (l : Locale) (w : World) :
    Used σ s w (s.availability l w).2.1 (s.availability l w).2.2 :=
  used_request h _ (.availability ..) trivial

theorem used_setLanguage (h : s.released = false) (l : Locale) (w : World) :
    Used σ s w (s.setLanguage l w).2.1 (s.setLanguage l w).2.2 :=
  used_request h _ (.setLanguage ..) trivial

theorem used_language (h : s.released = false) (w : World) :
    Used σ s w (s.language w).2.1 (s.language w).2.2 :=
  used_request h _ (.language ..) trivial

theorem used_setProperty (h : s.released = false) (name value : String) (w : World) :
    Used σ s w (s.setProperty name value w).2.1 (s.setProperty name value w).2.2 :=
  used_request h _ (.setProperty ..) trivial

theorem used_enterSpeech (h : s.released = false) (text : String) (w : World) :
    Used σ s w (s.enterSpeech text w).2.1 (s.enterSpeech text w).2.2 :=
  used_request h _ (.accept ..) trivial

theorem used_finishSpeech (h : s.released = false) (text : String) (out : σ) (w : World) :
    Used σ s w (s.finishSpeech text out w).2.2.1 (s.finishSpeech text out w).2.2.2 :=
  ⟨rfl, rfl, h, [_], by simp [EngineCall.IsUse], (Asks.utter (σ := σ) text out s.engine w).serves⟩

/-! ## Opening and releasing -/

theorem open?_ok {loader : Loader ε} {identifier config : String}
    (h : open? loader identifier config w = (.ok s, w')) :
    ∃ e w₁, loader identifier config w = (.ok e, w₁) ∧ s.released = false ∧
      s.identifier = identifier ∧ s.filter = .forEngine identifier ∧
      Serves σ [⟨.configure s.filter.enabled s.filter.shelf, true⟩] e w₁ s.engine w' := by
  unfold open? at h
  rcases hload : loader identifier config w with ⟨_ | e, w₁⟩
  · simp [hload] at h
  · have hserves := (FilterSpec.forEngine identifier).serves_applyTo (σ := σ) e w₁
    rcases happly : (FilterSpec.forEngine identifier).applyTo e w₁ with ⟨_ | _, e', w₂⟩
    · simp [hload, happly] at h
    · obtain ⟨rfl, rfl⟩ :
          (⟨identifier, .forEngine identifier, e', false⟩ : Session ε) = s ∧ w₂ = w' := by
        simpa [hload, happly] using h
      rw [happly] at hserves
      exact ⟨e, w₁, rfl, rfl, rfl, rfl, hserves⟩

theorem open?_error {loader : Loader ε} {identifier config : String} {x : ConfigurationError}
    (h : open? loader identifier config w = (.error x, w')) :
    loader identifier config w = (.error x, w') ∨
      ∃ e w₁ e' qs, loader identifier config w = (.ok e, w₁) ∧ Life.Rejected qs ∧
        Serves σ qs e w₁ e' w' := by
  unfold open? at h
  rcases hload : loader identifier config w with ⟨_ | e, w₁⟩
  · simpa [hload] using h
  · have hserves := (FilterSpec.forEngine identifier).serves_applyTo (σ := σ) e w₁
    rcases happly : (FilterSpec.forEngine identifier).applyTo e w₁ with ⟨_ | _, e', w₂⟩
    · obtain ⟨-, rfl⟩ : _ ∧ (SpeechEngine.shutdown e' w₂).2 = w' := by
        simpa [hload, happly] using h
      rw [happly] at hserves
      exact .inr ⟨e, w₁, _, _, rfl, ⟨_, _, rfl⟩, hserves.append (Asks.shutdown e' w₂).serves⟩
    · simp [hload, happly] at h

theorem serves_shutdown (h : s.released = false) (w : World) :
    ∃ granted, Serves σ [⟨.stop, granted⟩, ⟨.shutdown, true⟩] s.engine w (s.shutdown w).1.engine
      (s.shutdown w).2 := by
  simp only [shutdown, beginShutdown, h, Bool.false_eq_true, if_false]
  exact ⟨_, .cons (.stop ..) (Asks.shutdown ..).serves⟩

end Session

end SpeechHost
