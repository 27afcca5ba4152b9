import Mathlib.Logic.Function.Basic
import Mathlib.Tactic.SplitIfs
import SpeechHost.Session
/-!
# Threads on one session

Several threads make requests of a session at the same time. One that speaks or sets something looks
first whether the engine is there, then waits for the lock, asks the engine and gives the lock back. One
that releases the session takes the engine away from those who come later, asks it to stop, waits for
the lock once, and lets the engine go. `Room.step` is one of these steps, and a schedule says which
thread is next.

When nobody comes between its steps, a thread does what the session does at once (`run_call_alone`,
`run_release_alone`).
-/

namespace SpeechHost

open SpeechHost.Audio

/-- The lock goes on belonging to the one who has it, when one of all takes it while it is free, gives it
back, or does neither. -/
theorem owner_step {ι : Type} {l l' : Option ι} {Holds Holds' : ι → Prop} {i : ι}
    (howner : ∀ j, l = some j ↔ Holds j) (hothers : ∀ j, j ≠ i → (Holds' j ↔ Holds j))
    (hturn : (l' = l ∧ (Holds' i ↔ Holds i)) ∨ (l = none ∧ l' = some i ∧ Holds' i) ∨
      (Holds i ∧ l' = none ∧ ¬ Holds' i)) (j : ι) : l' = some j ↔ Holds' j := by
  by_cases hj : j = i
  · subst hj
    rcases hturn with ⟨hl, ht⟩ | ⟨-, hl, ht⟩ | ⟨-, hl, ht⟩
    · rw [hl, ht, howner]
    · simp [hl, ht]
    · simp [hl, ht]
  · rw [hothers j hj, ← howner]
    rcases hturn with ⟨hl, -⟩ | ⟨hfree, hl, -⟩ | ⟨ht, hl, -⟩
    · rw [hl]
    · simp [hl, hfree, Ne.symm hj]
    · have hmine := (howner i).2 ht
      simp [hl, hmine, Ne.symm hj]

/-- A request that needs the lock. -/
inductive Call (σ : Type) where
  | speak (text : String) (out : σ)
  | setLanguage (l : Locale)
  | setProperty (name value : String)

/-- How far a request has come. -/
inductive CallStage where
  | ready
  /-- The engine was there. -/
  | waiting
  /-- The lock is taken. -/
  | holding
  /-- The engine has answered. -/
  | called (r : Except EngineError Unit)
  | ended (r : Except EngineError Unit)

/-- How far a release has come. -/
inductive ReleaseStage where
  | ready
  /-- The engine is taken away. -/
  | taken
  /-- The engine was asked to stop. -/
  | stopped
  /-- The lock is taken. -/
  | holding
  /-- The lock is given back. -/
  | fenced
  | ended

/-- A thread, by what it does. -/
inductive Thread (σ : Type) where
  | call (c : Call σ) (stage : CallStage)
  | release (stage : ReleaseStage)

inductive Use (ι : Type) where
  | call (i : ι)
  | stop (i : ι)
  | shutdown (i : ι)

/-- A session and the threads on it. -/
structure Room (ε σ ι : Type) where
  session : Session ε
  world : World
  lock : Option ι
  threads : ι → Thread σ
  /-- What was asked of the engine so far. -/
  uses : List (Use ι)

variable {ε σ ι : Type} [SpeechEngine ε] [AudioSink σ] [DecidableEq ι]

namespace Call

def ask (e : ε) (w : World) : Call σ → Except EngineError Unit × Call σ × ε × World
  | speak text out =>
    let (r, out, e, w) := SpeechEngine.synthesize text out e w
    (r, speak text out, e, w)
  | setLanguage l =>
    let (r, e, w) := SpeechEngine.setLanguage l e w
    (r, setLanguage l, e, w)
  | setProperty name value =>
    let (r, e, w) := SpeechEngine.setProperty name value e w
    (r, setProperty name value, e, w)

/-- The request as the session makes it at once. -/
def make (s : Session ε) (w : World) :
    Call σ → Except EngineError Unit × Call σ × Session ε × World
  | speak text out =>
    let (r, out, s, w) := s.speak text out w
    (r, speak text out, s, w)
  | setLanguage l =>
    let (r, s, w) := s.setLanguage l w
    (r, setLanguage l, s, w)
  | setProperty name value =>
    let (r, s, w) := s.setProperty name value w
    (r, setProperty name value, s, w)

theorem make_released {s : Session ε} (h : s.released = true) (c : Call σ) (w : World) :
    c.make s w = (.error .released, c, s, w) := by
  cases c <;>
    simp [make, Session.speak, Session.enterSpeech, Session.setLanguage, Session.setProperty,
      Session.request, h]

theorem make_open {s : Session ε} (h : s.released = false) (c : Call σ) (w : World) :
    c.make s w =
      ((c.ask s.engine w).1, (c.ask s.engine w).2.1,
        { s with engine := (c.ask s.engine w).2.2.1 }, (c.ask s.engine w).2.2.2) := by
  cases c <;>
    simp [make, ask, Session.speak, Session.enterSpeech, Session.finishSpeech,
      SpeechEngine.synthesize, Session.setLanguage, Session.setProperty, Session.request, h]

end Call

namespace Room

/-- One step of a thread that makes a request. Without the lock it waits. -/
def stepCall (m : Room ε σ ι) (i : ι) (c : Call σ) : CallStage → Room ε σ ι
  | .ready =>
    let next := if m.session.released then .ended (.error .released) else .waiting
    { m with threads := Function.update m.threads i (.call c next) }
  | .waiting =>
    if m.lock.isSome then m
    else { m with lock := some i, threads := Function.update m.threads i (.call c .holding) }
  | .holding =>
    let (r, c, engine, world) := c.ask m.session.engine m.world
    { m with
      session := { m.session with engine }, world, uses := m.uses ++ [.call i]
      threads := Function.update m.threads i (.call c (.called r)) }
  | .called r => { m with lock := none, threads := Function.update m.threads i (.call c (.ended r)) }
  | .ended _ => m

/-- One step of a thread that releases the session. Only the first to come takes the engine. -/
def stepRelease (m : Room ε σ ι) (i : ι) : ReleaseStage → Room ε σ ι
  | .ready =>
    if m.session.released then { m with threads := Function.update m.threads i (.release .ended) }
    else { m with
      session := { m.session with released := true }
      threads := Function.update m.threads i (.release .taken) }
  | .taken =>
    let (_, engine, world) := SpeechEngine.stop m.session.engine m.world
    { m with
      session := { m.session with engine }, world, uses := m.uses ++ [.stop i]
      threads := Function.update m.threads i (.release .stopped) }
  | .stopped =>
    if m.lock.isSome then m
    else { m with lock := some i, threads := Function.update m.threads i (.release .holding) }
  | .holding => { m with lock := none, threads := Function.update m.threads i (.release .fenced) }
  | .fenced =>
    let (engine, world) := SpeechEngine.shutdown m.session.engine m.world
    { m with
      session := { m.session with engine }, world, uses := m.uses ++ [.shutdown i]
      threads := Function.update m.threads i (.release .ended) }
  | .ended => m

def step (m : Room ε σ ι) (i : ι) : Room ε σ ι :=
  match m.threads i with
  | .call c stage => m.stepCall i c stage
  | .release stage => m.stepRelease i stage

def run (m : Room ε σ ι) (is : List ι) : Room ε σ ι :=
  is.foldl step m

@[simp] theorem run_nil (m : Room ε σ ι) : m.run [] = m := rfl

@[simp] theorem run_cons (m : Room ε σ ι) (i : ι) (is : List ι) :
    m.run (i :: is) = (m.step i).run is := rfl

theorem run_append (m : Room ε σ ι) (is js : List ι) : m.run (is ++ js) = (m.run is).run js :=
  List.foldl_append ..

theorem step_call {m : Room ε σ ι} {i : ι} {c : Call σ} {stage : CallStage}
    (h : m.threads i = .call c stage) : m.step i = m.stepCall i c stage := by
  rw [step, h]

theorem step_release {m : Room ε σ ι} {i : ι} {stage : ReleaseStage}
    (h : m.threads i = .release stage) : m.step i = m.stepRelease i stage := by
  rw [step, h]

theorem threads_step_of_ne (m : Room ε σ ι) {i j : ι} (h : j ≠ i) :
    (m.step i).threads j = m.threads j := by
  cases ht : m.threads i with
  | call c stage =>
    rw [step_call ht]
    cases stage with
    | waiting =>
      rw [stepCall]
      split_ifs
      · rfl
      · exact Function.update_of_ne h ..
    | ended r => rfl
    | _ => exact Function.update_of_ne h ..
  | release stage =>
    rw [step_release ht]
    cases stage with
    | ready =>
      rw [stepRelease]
      split_ifs
      · exact Function.update_of_ne h ..
      · exact Function.update_of_ne h ..
    | stopped =>
      rw [stepRelease]
      split_ifs
      · rfl
      · exact Function.update_of_ne h ..
    | ended => rfl
    | _ => exact Function.update_of_ne h ..

/-! ## Threads that are alone -/

/-- A request whose steps nobody interrupts is made at once. -/
theorem run_call_alone {m : Room ε σ ι} {i : ι} {c : Call σ} (h : m.threads i = .call c .ready)
    (hlock : m.lock = none) :
    (m.run [i, i, i, i]).session = (c.make m.session m.world).2.2.1 ∧
      (m.run [i, i, i, i]).world = (c.make m.session m.world).2.2.2 ∧
      (m.run [i, i, i, i]).lock = none ∧
      (m.run [i, i, i, i]).threads i =
        .call (c.make m.session m.world).2.1 (.ended (c.make m.session m.world).1) := by
  cases hreleased : m.session.released with
  | true =>
    rw [Call.make_released hreleased]
    simp [step, stepCall, h, hreleased, hlock]
  | false =>
    rw [Call.make_open hreleased]
    simp [step, stepCall, h, hreleased, hlock]

/-- A release whose steps nobody interrupts is made at once. -/
theorem run_release_alone {m : Room ε σ ι} {i : ι} (h : m.threads i = .release .ready)
    (hlock : m.lock = none) :
    ((m.run [i, i, i, i, i]).session, (m.run [i, i, i, i, i]).world) =
        m.session.shutdown m.world ∧
      (m.run [i, i, i, i, i]).lock = none ∧ (m.run [i, i, i, i, i]).threads i = .release .ended := by
  cases hreleased : m.session.released with
  | true => simp [step, stepRelease, h, hreleased, hlock, Session.shutdown, Session.beginShutdown]
  | false =>
    simp [step, stepRelease, h, hreleased, hlock, Session.shutdown, Session.beginShutdown,
      Session.endShutdown]

end Room

end SpeechHost
