import SpeechHost.Engine.Basic
/-!
# What an engine is asked, and when

A question to an engine changes the engine and the world as the engine sees fit (`Asks`), and questions
come one after the other (`Serves`). The life of an engine is what it is asked in all: it is told about its
filter first, then it is used, and at its end it is stopped and let go. An engine that rejects the filter
is let go at once.
-/

namespace SpeechHost

open SpeechHost.Audio

/-- A question to an engine, and whether the engine granted it. -/
structure Question where
  call : EngineCall
  granted : Bool

/-- Whether a call neither sets the filter nor lets the engine go. -/
def EngineCall.IsUse : EngineCall → Prop
  | .configure .. | .shutdown => False
  | _ => True

/-- One question to an engine that plays to sinks of a kind: the engine and the world before it, and after
it. The delivery of the audio is a question of its own. -/
inductive Asks {ε : Type} [SpeechEngine ε] (σ : Type) [AudioSink σ] :
    Question → ε → World → ε → World → Prop where
  | configure (f : FilterSpec) (e w) :
      Asks σ ⟨.configure f.enabled f.shelf, (SpeechEngine.configure f e w).1.isOk⟩ e w
        (SpeechEngine.configure f e w).2.1 (SpeechEngine.configure f e w).2.2
  | availability (l : Locale) (e w) :
      Asks σ ⟨.availability l.language l.country l.variant, true⟩ e w
        (SpeechEngine.availability l e w).2.1 (SpeechEngine.availability l e w).2.2
  | setLanguage (l : Locale) (e w) :
      Asks σ ⟨.setLanguage l.language l.country l.variant, (SpeechEngine.setLanguage l e w).1.isOk⟩ e w
        (SpeechEngine.setLanguage l e w).2.1 (SpeechEngine.setLanguage l e w).2.2
  | language (e w) :
      Asks σ ⟨.language, true⟩ e w (SpeechEngine.language e w).2.1 (SpeechEngine.language e w).2.2
  | setProperty (name value : String) (e w) :
      Asks σ ⟨.setProperty name value, (SpeechEngine.setProperty name value e w).1.isOk⟩ e w
        (SpeechEngine.setProperty name value e w).2.1 (SpeechEngine.setProperty name value e w).2.2
  | accept (text : String) (e w) :
      Asks σ ⟨.synthesize text, true⟩ e w (SpeechEngine.accept text e w).1
        (SpeechEngine.accept text e w).2
  | utter (text : String) (out : σ) (e w) :
      Asks σ ⟨.synthesizeEnd, (SpeechEngine.utter text out e w).1.isOk⟩ e w
        (SpeechEngine.utter text out e w).2.2.1 (SpeechEngine.utter text out e w).2.2.2
  | stop (e w) :
      Asks σ ⟨.stop, (SpeechEngine.stop e w).1.isOk⟩ e w (SpeechEngine.stop e w).2.1
        (SpeechEngine.stop e w).2.2
  | shutdown (e w) :
      Asks σ ⟨.shutdown, true⟩ e w (SpeechEngine.shutdown e w).1 (SpeechEngine.shutdown e w).2

/-- Questions to one engine, one after the other. -/
inductive Serves {ε : Type} [SpeechEngine ε] (σ : Type) [AudioSink σ] :
    List Question → ε → World → ε → World → Prop where
  | nil (e w) : Serves σ [] e w e w
  | cons {q qs e e' e'' w w' w''} (ask : Asks σ q e w e' w') (rest : Serves σ qs e' w' e'' w'') :
      Serves σ (q :: qs) e w e'' w''

namespace Life

/-- The questions to an engine that was told about its filter and may still be used. -/
def Serving (qs : List Question) : Prop :=
  ∃ enabled shelf uses, qs = ⟨.configure enabled shelf, true⟩ :: uses ∧ ∀ q ∈ uses, q.call.IsUse

/-- The questions to an engine that rejected its filter and was let go. -/
def Rejected (qs : List Question) : Prop :=
  ∃ enabled shelf, qs = [⟨.configure enabled shelf, false⟩, ⟨.shutdown, true⟩]

/-- The questions to an engine that was used, stopped and let go. -/
def Ended (qs : List Question) : Prop :=
  ∃ life granted, Serving life ∧ qs = life ++ [⟨.stop, granted⟩, ⟨.shutdown, true⟩]

/-- The questions to an engine that was let go. -/
def Complete (qs : List Question) : Prop :=
  Rejected qs ∨ Ended qs

variable {ps qs : List Question}

theorem Serving.append (h : Serving ps) (hqs : ∀ q ∈ qs, q.call.IsUse) : Serving (ps ++ qs) := by
  obtain ⟨enabled, shelf, uses, rfl, huses⟩ := h
  refine ⟨enabled, shelf, uses ++ qs, rfl, fun q hq => ?_⟩
  rcases List.mem_append.1 hq with hq | hq
  · exact huses q hq
  · exact hqs q hq

theorem Complete.shutdown (h : Complete qs) : ⟨.shutdown, true⟩ ∈ qs := by
  rcases h with ⟨enabled, shelf, rfl⟩ | ⟨life, granted, -, rfl⟩ <;> simp

end Life

/-! ## Questions one after the other -/

section Serves

variable {ε σ : Type} [SpeechEngine ε] [AudioSink σ] {ps qs : List Question} {e e' e'' : ε}
  {w w' w'' : World}

theorem Asks.serves {q : Question} (h : Asks σ q e w e' w') : Serves σ [q] e w e' w' :=
  .cons h (.nil e' w')

theorem Serves.append (h : Serves σ ps e w e' w') (t : Serves σ qs e' w' e'' w'') :
    Serves σ (ps ++ qs) e w e'' w'' := by
  induction h with
  | nil => exact t
  | cons ask _ ih => exact .cons ask (ih t)

end Serves

/-! ## Engines that remember -/

/-- An engine with a list of what it was asked. -/
structure Recorder (ε : Type) where
  engine : ε
  questions : List Question

namespace Recorder

variable {ε σ : Type} [SpeechEngine ε]

/-- Passes a request on and remembers it. -/
def ask (call : EngineCall) (granted : α → Bool) (request : Request ε α) : Request (Recorder ε) α :=
  fun r w =>
    let (answer, engine, w) := request r.engine w
    (answer, ⟨engine, r.questions ++ [⟨call, granted answer⟩]⟩, w)

instance : SpeechEngine (Recorder ε) where
  name r := SpeechEngine.name r.engine
  configure f := ask (.configure f.enabled f.shelf) (·.isOk) (SpeechEngine.configure f)
  availability l :=
    ask (.availability l.language l.country l.variant) (fun _ => true) (SpeechEngine.availability l)
  setLanguage l :=
    ask (.setLanguage l.language l.country l.variant) (·.isOk) (SpeechEngine.setLanguage l)
  language := ask .language (fun _ => true) SpeechEngine.language
  setProperty name value :=
    ask (.setProperty name value) (·.isOk) (SpeechEngine.setProperty name value)
  accept text r w :=
    let (engine, w) := SpeechEngine.accept text r.engine w
    (⟨engine, r.questions ++ [⟨.synthesize text, true⟩]⟩, w)
  ready r w := SpeechEngine.ready r.engine w
  utter text out r w :=
    let (answer, out, engine, w) := SpeechEngine.utter text out r.engine w
    (answer, out, ⟨engine, r.questions ++ [⟨.synthesizeEnd, answer.isOk⟩]⟩, w)
  stop := ask .stop (·.isOk) SpeechEngine.stop
  shutdown r w :=
    let (engine, w) := SpeechEngine.shutdown r.engine w
    (⟨engine, r.questions ++ [⟨.shutdown, true⟩]⟩, w)

theorem questions_asks [AudioSink σ] {q : Question} {r r' : Recorder ε} {w w' : World}
    (h : Asks σ q r w r' w') :
    r'.questions = r.questions ++ [q] := by
  cases h <;> rfl

end Recorder

end SpeechHost
