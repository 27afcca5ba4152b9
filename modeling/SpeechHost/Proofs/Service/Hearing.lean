import SpeechHost.Proofs.Engine.Playback
import SpeechHost.Service
/-!
# What a sink hears of a request

The announcement, the buffers and the end of an utterance come from the engine, and what is told about a
failure comes from the service. So a request that fails before its engine has audio is told to the sink as
a failure alone, one that fails later ends in a failure, and one that succeeds ends in an end
(`sink_protocol`).
-/

namespace SpeechHost.Service

open SpeechHost.Audio

variable {σ : Type} [AudioSink σ]

/-- Whether a failure is told. -/
def complaint : Except EngineError Unit → List Hearing
  | .ok () => []
  | .error _ => [.error]

theorem report_listener (result : Except EngineError Unit) (out : σ) (heard : List Hearing) (w : World) :
    report result (⟨out, heard⟩ : Listener σ) w =
      (⟨(report result out w).1, heard ++ complaint result⟩, (report result out w).2) := by
  cases result with
  | ok => simp [report, complaint]
  | error => rfl

theorem finishSpeech_listener (r : SpeechRequest) (out : σ) (v : Service CommandEngine) (w : World) :
    ∃ heard, v.finishSpeech r (Listener.new out) w = Listener.overhear heard (v.finishSpeech r out w) ∧
      Utterance (v.finishSpeech r out w).1 (heard.map (·.call)) := by
  cases hsession : v.session with
  | none =>
    refine ⟨[], ?_, ?_⟩
    · simp [finishSpeech, hsession, Listener.overhear, Listener.new]
    · simp only [finishSpeech, hsession]
      exact .silent _
  | some s =>
    obtain ⟨heard, hutter, hutterance⟩ := CommandEngine.utter_listener r.text out [] s.engine w
    refine ⟨heard, ?_, ?_⟩
    · simp only [finishSpeech, hsession, Session.finishSpeech, Listener.new, hutter]
      rfl
    · simpa only [finishSpeech, hsession, Session.finishSpeech] using hutterance

/-- A sink hears of the utterance, and of a failure if there is one. -/
theorem synthesize_listener (r : SpeechRequest) (out : σ) (v : Service CommandEngine) (w : World) :
    ∃ heard, v.synthesize r (Listener.new out) w =
        Listener.overhear (heard ++ complaint (v.synthesize r out w).1) (v.synthesize r out w) ∧
      Utterance (v.synthesize r out w).1 (heard.map (·.call)) := by
  rcases hentered : v.enterSpeech r w with ⟨e | _, v', w'⟩
  · refine ⟨[], ?_, ?_⟩
    · simp only [synthesize, hentered, Listener.new, report_listener]
      rfl
    · simp only [synthesize, hentered]
      exact .silent e
  · obtain ⟨heard, hfinish, hutterance⟩ := finishSpeech_listener r out v' w'
    refine ⟨heard, ?_, ?_⟩
    · simp only [synthesize, hentered, hfinish, Listener.overhear, report_listener]
    · simpa only [synthesize, hentered] using hutterance

/-- Whatever the engine of a service does, and whatever a sink refuses or asks for: a request that
succeeds is heard as one announcement, then buffers, then one end; a request that fails is heard as one
failure, alone or after an announcement and buffers. A sink that is listened to is treated like any
other. -/
theorem sink_protocol (r : SpeechRequest) (out : σ) (v : Service CommandEngine) (w : World) :
    let d := v.synthesize r (Listener.new out) w
    d = Listener.overhear d.2.1.heard (v.synthesize r out w) ∧
      match d.1 with
      | .ok () => ∃ (a : Announcement) (buffers : List Storage.Bytes),
            d.2.1.calls = .start a :: buffers.map .audio ++ [.done]
      | .error _ => d.2.1.calls = [.error] ∨
          ∃ (a : Announcement) (buffers : List Storage.Bytes),
            d.2.1.calls = .start a :: buffers.map .audio ++ [.error] := by
  intro d
  obtain ⟨heard, hd, hutterance⟩ := synthesize_listener r out v w
  have hresult : d.1 = (v.synthesize r out w).1 := by rw [show d = _ from hd]; rfl
  have hcalls : d.2.1.calls = heard.map (·.call) ++ (complaint d.1).map (·.call) := by
    rw [hresult, show d = _ from hd, ← List.map_append]
    rfl
  refine ⟨by rw [show d = _ from hd]; rfl, ?_⟩
  rw [← hresult] at hutterance
  rw [hcalls]
  generalize d.1 = result, heard.map (·.call) = calls at hutterance ⊢
  cases hutterance with
  | silent e => exact .inl rfl
  | spoken a buffers =>
    cases result with
    | ok => exact ⟨a, buffers, by simp [ending, complaint]⟩
    | error e => exact .inr ⟨a, buffers, by simp [ending, complaint, Hearing.error]⟩

end SpeechHost.Service
