import SpeechHost.Engine.Basic
import SpeechHost.Text.Blank
import SpeechHost.Text.Numeral
/-!
# An engine in use

An engine in use is asked one thing after the other, and in between others may do what they like to its sink
and to the world: files come and go. Everything that was asked is kept in a log, together with what came of it
(`Exchange`). What the engine was told, its voice and the levels of its properties, is read off the log alone
(`Usage.told`): only what was granted counts.
-/

namespace SpeechHost

open SpeechHost.Audio SpeechHost.Text

/-- What an engine is asked while it is in use. -/
inductive EngineUse where
  | configure (f : FilterSpec)
  | availability (l : Locale)
  | setLanguage (l : Locale)
  | language
  | setProperty (name value : String)
  | synthesize (text : String)
  | stop

inductive EngineAnswer where
  | outcome (r : Except EngineError Unit)
  | level (a : Availability)
  | locale (l : Option Locale)

variable {ε σ α β : Type}

/-- Asks an engine. A text is spoken into the sink. -/
def EngineUse.ask [SpeechEngine ε] [AudioSink σ] (c : EngineUse) (out : σ) (e : ε) (w : World) :
    EngineAnswer × σ × ε × World :=
  match c with
  | .configure f =>
    let (r, e, w) := SpeechEngine.configure f e w
    (.outcome r, out, e, w)
  | .availability l =>
    let (a, e, w) := SpeechEngine.availability l e w
    (.level a, out, e, w)
  | .setLanguage l =>
    let (r, e, w) := SpeechEngine.setLanguage l e w
    (.outcome r, out, e, w)
  | .language =>
    let (l, e, w) := SpeechEngine.language e w
    (.locale l, out, e, w)
  | .setProperty name value =>
    let (r, e, w) := SpeechEngine.setProperty name value e w
    (.outcome r, out, e, w)
  | .synthesize text =>
    let (r, out, e, w) := SpeechEngine.synthesize text out e w
    (.outcome r, out, e, w)
  | .stop =>
    let (r, e, w) := SpeechEngine.stop e w
    (.outcome r, out, e, w)

/-- What was asked of an engine, its answer, and the sink and the world after it. The journal of the world
tells which programs were started, and with which arguments. -/
structure Exchange (σ : Type) where
  use : EngineUse
  answer : EngineAnswer
  out : σ
  world : World

/-- An engine in use, the sink that it speaks into, and the exchanges with it, in order. -/
structure Usage (ε σ : Type) where
  engine : ε
  out : σ
  world : World
  log : List (Exchange σ)

namespace Usage

/-- What happens to an engine in use. -/
inductive Event (σ : Type) where
  | ask (c : EngineUse)
  /-- Others change the sink or the world. -/
  | meanwhile (change : σ × World → σ × World)

def fresh (e : ε) (out : σ) (w : World) : Usage ε σ := ⟨e, out, w, []⟩

variable [SpeechEngine ε] [AudioSink σ]

def exchange (u : Usage ε σ) (c : EngineUse) : Exchange σ :=
  let (answer, out, _, world) := c.ask u.out u.engine u.world
  ⟨c, answer, out, world⟩

def step (u : Usage ε σ) : Event σ → Usage ε σ
  | .ask c =>
    let (answer, out, engine, world) := c.ask u.out u.engine u.world
    ⟨engine, out, world, u.log ++ [⟨c, answer, out, world⟩]⟩
  | .meanwhile change =>
    let (out, world) := change (u.out, u.world)
    { u with out, world }

def run (u : Usage ε σ) (es : List (Event σ)) : Usage ε σ :=
  es.foldl step u

@[simp] theorem run_nil (u : Usage ε σ) : u.run [] = u := rfl

@[simp] theorem run_cons (u : Usage ε σ) (ev : Event σ) (es : List (Event σ)) :
    u.run (ev :: es) = (u.step ev).run es := rfl

theorem log_step_ask (u : Usage ε σ) (c : EngineUse) :
    (u.step (.ask c)).log = u.log ++ [u.exchange c] := rfl

theorem run_keeps {P : Usage ε σ → Prop} (hstep : ∀ u ev, P u → P (u.step ev)) (u : Usage ε σ)
    (es : List (Event σ)) (h : P u) : P (u.run es) := by
  induction es generalizing u with
  | nil => exact h
  | cons ev es ih => exact ih (u.step ev) (hstep u ev h)

end Usage

/-! ## What an engine was told -/

/-- A property of an engine that has levels. -/
inductive SpeechProperty where
  | rate
  | pitch
  | volume
  deriving DecidableEq

def SpeechProperty.ofName? : String → Option SpeechProperty
  | "rate" => some .rate
  | "pitch" => some .pitch
  | "volume" => some .volume
  | _ => none

/-- How a voice was chosen. -/
inductive VoiceChoice where
  | byLocale (l : Locale)
  /-- By the property `language`. -/
  | byName (name : String)
  deriving DecidableEq

/-- What an engine can be told about its speech. -/
inductive Told where
  | voice (c : VoiceChoice)
  | level (k : SpeechProperty) (n : Int)

namespace Told

def voice? : Told → Option VoiceChoice
  | .voice c => some c
  | .level _ _ => none

def locale? : Told → Option Locale
  | .voice (.byLocale l) => some l
  | _ => none

def level? (k : SpeechProperty) : Told → Option Int
  | .level k' n => if k' = k then some n else none
  | .voice _ => none

end Told

def EngineAnswer.granted : EngineAnswer → Bool
  | .outcome r => r.isOk
  | .level _ | .locale _ => true

/-- What an engine is told by a use that it answered. A level is a number that fits in 32 bits, blanks around
it left aside. -/
def EngineUse.told? (c : EngineUse) (a : EngineAnswer) : Option Told :=
  match c, a.granted with
  | .setLanguage l, true => some (.voice (.byLocale l))
  | .setProperty name value, true =>
    if name = "language" then some (.voice (.byName value))
    else (SpeechProperty.ofName? name).bind fun k => (numeral? 32 (trim value)).map (.level k)
  | _, _ => none

theorem EngineUse.told?_error (c : EngineUse) (x : EngineError) : c.told? (.outcome (.error x)) = none := by
  cases c <;> rfl

theorem EngineUse.told?_setProperty (name value : String) :
    (EngineUse.setProperty name value).told? (.outcome (.ok ())) =
      if name = "language" then some (.voice (.byName value))
      else (SpeechProperty.ofName? name).bind fun k => (numeral? 32 (trim value)).map (.level k) := rfl

def Exchange.told? (x : Exchange σ) : Option Told :=
  x.use.told? x.answer

/-- The last of the things that some entries of a list say. -/
def lastOf (f : α → Option β) (xs : List α) : Option β :=
  (xs.filterMap f).getLast?

theorem lastOf_append (f : α → Option β) (xs ys : List α) :
    lastOf f (xs ++ ys) = (lastOf f ys).or (lastOf f xs) := by
  rw [lastOf, List.filterMap_append, List.getLast?_append, lastOf, lastOf]

@[simp] theorem lastOf_concat (f : α → Option β) (xs : List α) (x : α) :
    lastOf f (xs ++ [x]) = (f x).or (lastOf f xs) := by
  rw [lastOf_append]
  cases h : f x <;> simp [lastOf, h]

namespace Usage

def told (u : Usage ε σ) : List Told :=
  u.log.filterMap Exchange.told?

/-- How the voice was chosen that was chosen last. -/
def lastVoice (u : Usage ε σ) : Option VoiceChoice :=
  lastOf Told.voice? u.told

def lastLocale (u : Usage ε σ) : Option Locale :=
  lastOf Told.locale? u.told

def lastLevel (u : Usage ε σ) (k : SpeechProperty) : Option Int :=
  lastOf (Told.level? k) u.told

variable [SpeechEngine ε] [AudioSink σ]

theorem told_step_ask (u : Usage ε σ) (c : EngineUse) :
    (u.step (.ask c)).told = u.told ++ (c.told? (c.ask u.out u.engine u.world).1).toList := by
  have hexchange : (u.exchange c).told? = c.told? (c.ask u.out u.engine u.world).1 := rfl
  rw [told, log_step_ask, List.filterMap_append, told, ← hexchange]
  cases h : (u.exchange c).told? <;> simp [h]

/-- What an engine keeps of what it was told: if every use adds to it what was told by it, it is right after
every history. -/
theorem run_told {κ : Type} (wrap : κ → ε) {Kept : List Told → κ → Prop}
    (hask : ∀ (c : EngineUse) (out : σ) (k : κ) (w : World) (ts : List Told), Kept ts k →
      ∃ k', (c.ask out (wrap k) w).2.2.1 = wrap k' ∧
        Kept (ts ++ (c.told? (c.ask out (wrap k) w).1).toList) k')
    (k : κ) (hk : Kept [] k) (out : σ) (w : World) (es : List (Event σ)) :
    ∃ k', ((fresh (wrap k) out w).run es).engine = wrap k' ∧ Kept ((fresh (wrap k) out w).run es).told k' := by
  refine run_keeps (P := fun u => ∃ k', u.engine = wrap k' ∧ Kept u.told k') ?_ (fresh _ out w) es
    ⟨k, rfl, hk⟩
  rintro u ev ⟨k, hengine, hkept⟩
  cases ev with
  | meanwhile change => exact ⟨k, hengine, hkept⟩
  | ask c =>
    have hnext := hask c u.out k u.world u.told hkept
    rw [← hengine] at hnext
    rw [told_step_ask]
    exact hnext

end Usage

end SpeechHost
