import Mathlib.Logic.Function.Basic
import Mathlib.Tactic.SplitIfs
import SpeechHost.Engine.Command
import SpeechHost.Session
/-!
# Speeches that can be stopped

Several callers use one session of an engine that is a program: some speak, and some stop the audio and
wait until it has ended. A speech looks whether the engine is there, waits for the lock, forgets earlier
stops, lets the program recite its text, announces the audio and hands over one buffer after the other;
before each of them it looks at the stop flag. A stop sets the flag without the lock and then waits for
the lock once. `Booth.step` is one of these steps, and a schedule says whose step is next.

Left alone, a caller does what the session does at once (`run_speech_alone`, `run_stop_alone`).
-/

namespace SpeechHost

open SpeechHost.Audio SpeechHost.Storage

/-! ## An utterance in parts -/

namespace CommandEngine

/-- Lets the program recite a text, and reads what it delivered. -/
def recite (text : String) (e : CommandEngine) (w : World) : Except EngineError Track × World :=
  match e with
  | .pico p =>
    match w.reserve Pico.scratchFile with
    | .error fault => (.error (.io fault), w)
    | .ok w =>
      match p.wave text w with
      | (.error error, w) => (.error error, w.discard Pico.scratchFile)
      | (.ok wave, w) =>
        match p.playback.track wave with
        | .error f => (.error (.failed f), w.discard Pico.scratchFile)
        | .ok t => (.ok t, w)
  | .espeak e =>
    match e.wave text w with
    | (.error error, w) => (.error error, w)
    | (.ok wave, w) =>
      match e.playback.track wave with
      | .error f => (.error (.failed f), w)
      | .ok t => (.ok t, w)

/-- Removes what a recital left behind. -/
def tidy (e : CommandEngine) (w : World) : World :=
  match e with
  | .pico _ => w.discard Pico.scratchFile
  | .espeak _ => w

@[simp] theorem tidy_withPlayback (e : CommandEngine) (p : Playback) (w : World) :
    (e.withPlayback p).tidy w = e.tidy w := by
  cases e <;> rfl

/-- An utterance is a recital, and then its audio is played. -/
theorem utter_eq {σ : Type} [AudioSink σ] (text : String) (out : σ) (e : CommandEngine) (w : World) :
    SpeechEngine.utter text out e w =
      match e.recite text w with
      | (.error x, w) => (.error x, out, e, w)
      | (.ok t, w) =>
        let (r, out, playback, w) := e.playback.play t out w
        (r, out, e.withPlayback playback, e.tidy w) := by
  cases e with
  | pico p =>
    cases hreserve : w.reserve Pico.scratchFile with
    | error fault => simp [SpeechEngine.utter, Pico.utter, recite, hreserve]
    | ok reserved =>
      rcases hwave : p.wave text reserved with ⟨error | wave, w'⟩
      · simp [SpeechEngine.utter, Pico.utter, recite, hreserve, hwave]
      · cases htrack : p.playback.track wave <;>
          simp [SpeechEngine.utter, Pico.utter, recite, hreserve, hwave, Playback.stream, htrack,
            withPlayback, tidy, playback]
  | espeak e =>
    rcases hwave : e.wave text w with ⟨error | wave, w'⟩
    · simp [SpeechEngine.utter, Espeak.utter, recite, hwave]
    · cases htrack : e.playback.track wave <;>
        simp [SpeechEngine.utter, Espeak.utter, recite, hwave, Playback.stream, htrack, withPlayback,
          tidy, playback]

end CommandEngine

/-! ## Callers -/

/-- How far a speech has come. -/
inductive SpeechStage where
  | idle
  | called
  /-- The engine was there. -/
  | waiting
  /-- The lock is taken. -/
  | holding
  /-- Earlier stops are forgotten. -/
  | begun
  /-- The program has recited the text. -/
  | recited (t : Track)
  /-- These buffers are left. -/
  | playing (bs : List Bytes)
  /-- The audio has ended. -/
  | played (r : Except EngineError Unit)
  /-- The engine has answered. -/
  | finished (r : Except EngineError Unit)
  | returned (r : Except EngineError Unit)

/-- How far a stop has come. -/
inductive StopStage where
  | idle
  | called
  /-- The engine was there. -/
  | asking
  /-- The engine was asked to stop, or was not there. -/
  | asked (r : Except EngineError Unit)
  /-- The lock is taken. -/
  | holding (r : Except EngineError Unit)
  | returned (r : Except EngineError Unit)

/-- A caller, by what it does. -/
inductive Caller (σ : Type) where
  | speech (text : String) (out : σ) (stage : SpeechStage)
  | stop (stage : StopStage)

structure Booth (σ ι : Type) where
  session : Session CommandEngine
  world : World
  lock : Option ι
  callers : ι → Caller σ
  /-- The buffers that were handed to sinks so far, and by whom. -/
  delivered : List (ι × Bytes)

namespace Booth

variable {σ ι : Type}

def lockedBy (m : Booth σ ι) (l : Option ι) : Booth σ ι :=
  { m with lock := l }

section LockedBy

variable (m : Booth σ ι) (l l' : Option ι)

@[simp] theorem session_lockedBy : (m.lockedBy l).session = m.session := rfl

@[simp] theorem world_lockedBy : (m.lockedBy l).world = m.world := rfl

@[simp] theorem lock_lockedBy : (m.lockedBy l).lock = l := rfl

@[simp] theorem callers_lockedBy : (m.lockedBy l).callers = m.callers := rfl

@[simp] theorem lockedBy_lockedBy : (m.lockedBy l).lockedBy l' = m.lockedBy l' := rfl

end LockedBy

variable [DecidableEq ι]

/-- The booth with another engine and world, when a caller has come further and handed over some
buffers. -/
def put (m : Booth σ ι) (i : ι) (engine : CommandEngine) (world : World) (c : Caller σ)
    (bs : List Bytes) : Booth σ ι :=
  { m with
    session := { m.session with engine }, world, callers := Function.update m.callers i c
    delivered := m.delivered ++ bs.map (i, ·) }

def move (m : Booth σ ι) (i : ι) (c : Caller σ) : Booth σ ι :=
  m.put i m.session.engine m.world c []

section Put

variable (m : Booth σ ι) (i : ι) (e e' : CommandEngine) (w w' : World) (c c' : Caller σ)
  (bs bs' : List Bytes)

@[simp] theorem session_put : (m.put i e w c bs).session = { m.session with engine := e } := rfl

@[simp] theorem world_put : (m.put i e w c bs).world = w := rfl

@[simp] theorem lock_put : (m.put i e w c bs).lock = m.lock := rfl

@[simp] theorem callers_put_self : (m.put i e w c bs).callers i = c :=
  Function.update_self ..

theorem callers_put_of_ne {j : ι} (h : j ≠ i) : (m.put i e w c bs).callers j = m.callers j :=
  Function.update_of_ne h ..

@[simp] theorem put_put : (m.put i e w c bs).put i e' w' c' bs' = m.put i e' w' c' (bs ++ bs') := by
  simp [put]

@[simp] theorem put_lockedBy (l : Option ι) :
    (m.lockedBy l).put i e w c bs = (m.put i e w c bs).lockedBy l := rfl

@[simp] theorem session_move : (m.move i c).session = m.session := rfl

@[simp] theorem world_move : (m.move i c).world = m.world := rfl

@[simp] theorem lock_move : (m.move i c).lock = m.lock := rfl

@[simp] theorem callers_move_self : (m.move i c).callers i = c :=
  callers_put_self ..

@[simp] theorem put_move : (m.move i c).put i e w c' bs = m.put i e w c' bs := by
  simp [move]

@[simp] theorem move_put : (m.put i e w c bs).move i c' = m.put i e w c' bs := by
  simp [move]

@[simp] theorem move_lockedBy (l : Option ι) :
    (m.lockedBy l).move i c = (m.move i c).lockedBy l := rfl

@[simp] theorem move_move : (m.move i c).move i c' = m.move i c' := by
  simp only [move, put_put, session_put, world_put, List.append_nil]

end Put

variable [AudioSink σ]

/-- Looks at the stop flag and hands over the next buffer, or ends the audio. -/
def stepPlaying (m : Booth σ ι) (i : ι) (text : String) (out : σ) : List Bytes → Booth σ ι
  | [] =>
    let (out, world) := AudioSink.done out m.world
    m.put i m.session.engine world (.speech text out (.played (.ok ()))) []
  | b :: bs =>
    if m.session.engine.playback.stopping then
      let (out, world) := AudioSink.done out m.world
      m.put i m.session.engine world (.speech text out (.played (.ok ()))) []
    else
      let (reply, out, world) := AudioSink.audio b out m.world
      let engine := m.session.engine.withPlayback (m.session.engine.playback.heed reply)
      match reply.outcome with
      | .error e => m.put i engine world (.speech text out (.played (.error e))) [b]
      | .ok () => m.put i engine world (.speech text out (.playing bs)) [b]

/-- One step of a speech. Without the lock it waits. -/
def stepSpeech (m : Booth σ ι) (i : ι) (text : String) (out : σ) : SpeechStage → Booth σ ι
  | .idle => m.move i (.speech text out .called)
  | .called =>
    m.move i (.speech text out (if m.session.released then .returned (.error .released) else .waiting))
  | .waiting =>
    if m.lock.isSome then m else (m.move i (.speech text out .holding)).lockedBy (some i)
  | .holding =>
    let (engine, world) := SpeechEngine.accept text m.session.engine m.world
    m.put i engine world (.speech text out .begun) []
  | .begun =>
    match m.session.engine.recite text m.world with
    | (.error e, world) => m.put i m.session.engine world (.speech text out (.finished (.error e))) []
    | (.ok t, world) => m.put i m.session.engine world (.speech text out (.recited t)) []
  | .recited t =>
    let (reply, out, world) := AudioSink.start t.announcement out m.world
    let engine := m.session.engine.withPlayback (m.session.engine.playback.heed reply)
    match reply.outcome with
    | .error e => m.put i engine world (.speech text out (.played (.error e))) []
    | .ok () => m.put i engine world (.speech text out (.playing (blocks bufferBytes t.bytes))) []
  | .playing bs => m.stepPlaying i text out bs
  | .played r =>
    m.put i m.session.engine (m.session.engine.tidy m.world) (.speech text out (.finished r)) []
  | .finished r => (m.move i (.speech text out (.returned r))).lockedBy none
  | .returned _ => m

/-- One step of a stop. The lock is given back as soon as it is taken. -/
def stepStop (m : Booth σ ι) (i : ι) : StopStage → Booth σ ι
  | .idle => m.move i (.stop .called)
  | .called =>
    m.move i (.stop (if m.session.released then .asked (.error .released) else .asking))
  | .asking =>
    let (r, engine, world) := SpeechEngine.stop m.session.engine m.world
    m.put i engine world (.stop (.asked r)) []
  | .asked r =>
    if m.lock.isSome then m else (m.move i (.stop (.holding r))).lockedBy (some i)
  | .holding r => (m.move i (.stop (.returned r))).lockedBy none
  | .returned _ => m

def step (m : Booth σ ι) (i : ι) : Booth σ ι :=
  match m.callers i with
  | .speech text out stage => m.stepSpeech i text out stage
  | .stop stage => m.stepStop i stage

def run (m : Booth σ ι) (is : List ι) : Booth σ ι :=
  is.foldl step m

@[simp] theorem run_nil (m : Booth σ ι) : m.run [] = m := rfl

@[simp] theorem run_cons (m : Booth σ ι) (i : ι) (is : List ι) :
    m.run (i :: is) = (m.step i).run is := rfl

theorem run_append (m : Booth σ ι) (is js : List ι) : m.run (is ++ js) = (m.run is).run js :=
  List.foldl_append ..

theorem run_replicate_succ (m : Booth σ ι) (i : ι) (n : Nat) :
    m.run (List.replicate (n + 1) i) = (m.run (List.replicate n i)).step i := by
  rw [List.replicate_succ', run_append]
  rfl

theorem step_speech {m : Booth σ ι} {i : ι} {text : String} {out : σ} {stage : SpeechStage}
    (h : m.callers i = .speech text out stage) : m.step i = m.stepSpeech i text out stage := by
  rw [step, h]

theorem step_stop {m : Booth σ ι} {i : ι} {stage : StopStage} (h : m.callers i = .stop stage) :
    m.step i = m.stepStop i stage := by
  rw [step, h]

/-! ## Callers that are alone -/

/-- Whether a caller has spoken a text, and nothing else has happened. -/
structure Spoken (m : Booth σ ι) (i : ι) (text : String) (out : σ) (n : Booth σ ι) : Prop where
  session : n.session = (m.session.speak text out m.world).2.2.1
  world : n.world = (m.session.speak text out m.world).2.2.2
  lock : n.lock = none
  caller : n.callers i = .speech text (m.session.speak text out m.world).2.1
    (.returned (m.session.speak text out m.world).1)

section Alone

variable {m : Booth σ ι} {i : ι} {text : String} {out : σ}

theorem run_playing {bs : List Bytes} (h : m.callers i = .speech text out (.playing bs)) :
    ∃ n us, m.run (List.replicate n i) =
      let (r, out, playback, world) := m.session.engine.playback.deliver out m.world bs
      m.put i (m.session.engine.withPlayback playback) world (.speech text out (.played r)) us := by
  induction bs generalizing m out with
  | nil => exact ⟨1, [], by simp [step_speech h, stepSpeech, stepPlaying, Playback.deliver]⟩
  | cons b bs ih =>
    cases hstop : m.session.engine.playback.stopping with
    | true =>
      exact ⟨1, [], by simp [step_speech h, stepSpeech, stepPlaying, Playback.deliver, hstop]⟩
    | false =>
      rcases hreply : AudioSink.audio b out m.world with ⟨reply, out', w⟩
      cases hr : reply.outcome with
      | error e =>
        refine ⟨1, [b], ?_⟩
        simp [step_speech h, stepSpeech, stepPlaying, Playback.deliver, hstop, hreply, hr]
      | ok v =>
        have hstep : m.step i = m.put i
            (m.session.engine.withPlayback (m.session.engine.playback.heed reply)) w
            (.speech text out' (.playing bs)) [b] := by
          simp [step_speech h, stepSpeech, stepPlaying, hstop, hreply, hr]
        have hnext : (m.step i).callers i = .speech text out' (.playing bs) := by
          rw [hstep, callers_put_self]
        obtain ⟨n, us, hn⟩ := ih hnext
        refine ⟨n + 1, b :: us, ?_⟩
        rw [List.replicate_succ, run_cons, hn, hstep]
        simp [Playback.deliver, hstop, hreply, hr]

theorem run_recited {t : Track} (h : m.callers i = .speech text out (.recited t)) :
    ∃ n us, m.run (List.replicate n i) =
      let (r, out, playback, world) := m.session.engine.playback.play t out m.world
      m.put i (m.session.engine.withPlayback playback) world (.speech text out (.played r)) us := by
  rcases hreply : AudioSink.start t.announcement out m.world with ⟨reply, out', w⟩
  cases hr : reply.outcome with
  | error e =>
    exact ⟨1, [], by simp [step_speech h, stepSpeech, Playback.play, hreply, hr]⟩
  | ok v =>
    have hstep : m.step i = m.put i
        (m.session.engine.withPlayback (m.session.engine.playback.heed reply)) w
        (.speech text out' (.playing (blocks bufferBytes t.bytes))) [] := by
      simp [step_speech h, stepSpeech, hreply, hr]
    have hnext : (m.step i).callers i =
        .speech text out' (.playing (blocks bufferBytes t.bytes)) := by
      rw [hstep, callers_put_self]
    obtain ⟨n, us, hn⟩ := run_playing hnext
    refine ⟨n + 1, us, ?_⟩
    rw [List.replicate_succ, run_cons, hn, hstep]
    simp [Playback.play, hreply, hr]

theorem run_begun (h : m.callers i = .speech text out .begun) :
    ∃ n us, m.run (List.replicate n i) =
      let (r, out, engine, world) := SpeechEngine.utter text out m.session.engine m.world
      m.put i engine world (.speech text out (.finished r)) us := by
  rw [CommandEngine.utter_eq]
  rcases hrecite : m.session.engine.recite text m.world with ⟨e | t, w⟩
  · exact ⟨1, [], by simp [step_speech h, stepSpeech, hrecite]⟩
  · have hstep : m.step i = m.put i m.session.engine w (.speech text out (.recited t)) [] := by
      simp [step_speech h, stepSpeech, hrecite]
    have hnext : (m.step i).callers i = .speech text out (.recited t) := by
      rw [hstep, callers_put_self]
    obtain ⟨n, us, hn⟩ := run_recited hnext
    refine ⟨n + 2, us, ?_⟩
    rw [List.replicate_succ, run_cons, run_replicate_succ, hn, hstep, step_speech (callers_put_self ..)]
    simp [stepSpeech]

theorem run_waiting (h : m.callers i = .speech text out .waiting) (hopen : m.session.released = false)
    (hlock : m.lock = none) :
    ∃ n, m.Spoken i text out (m.run (List.replicate n i)) := by
  let accepted := SpeechEngine.accept text m.session.engine m.world
  have hbegun : (m.step i).step i =
      (m.put i accepted.1 accepted.2 (.speech text out .begun) []).lockedBy (some i) := by
    simp [step, stepSpeech, h, hlock, accepted]
  have hnext : ((m.step i).step i).callers i = .speech text out .begun := by
    rw [hbegun, callers_lockedBy, callers_put_self]
  obtain ⟨n, us, hn⟩ := run_begun hnext
  refine ⟨n + 3, ?_⟩
  rw [List.replicate_succ, List.replicate_succ, run_cons, run_cons, run_replicate_succ, hn, hbegun,
    step_speech (callers_put_self ..)]
  constructor <;>
    simp [stepSpeech, Session.speak, Session.enterSpeech, Session.finishSpeech, Session.request,
      hopen, accepted]

/-- A speech that has seen the engine, or is about to, and that nobody interrupts is spoken at once. -/
theorem run_speech_alone {stage : SpeechStage} (h : m.callers i = .speech text out stage)
    (hstage : stage = .called ∨ stage = .waiting) (hopen : m.session.released = false)
    (hlock : m.lock = none) :
    ∃ n, m.Spoken i text out (m.run (List.replicate n i)) := by
  rcases hstage with rfl | rfl
  · have hlook : m.step i = m.move i (.speech text out .waiting) := by
      simp [step_speech h, stepSpeech, hopen]
    have hnext : (m.step i).callers i = .speech text out .waiting := by
      rw [hlook, callers_move_self]
    obtain ⟨n, hn⟩ := run_waiting hnext (by rw [hlook]; exact hopen) (by rw [hlook]; exact hlock)
    rw [hlook] at hn
    refine ⟨n + 1, ?_⟩
    rw [List.replicate_succ, run_cons, hlook]
    exact ⟨hn.session, hn.world, hn.lock, hn.caller⟩
  · exact run_waiting h hopen hlock

/-- A stop that nobody interrupts is made at once. -/
theorem run_stop_alone (h : m.callers i = .stop .idle) (hlock : m.lock = none) :
    ((m.run [i, i, i, i, i]).session, (m.run [i, i, i, i, i]).world) =
        (m.session.stop m.world).2 ∧
      (m.run [i, i, i, i, i]).lock = none ∧
      (m.run [i, i, i, i, i]).callers i = .stop (.returned (m.session.stop m.world).1) := by
  cases hreleased : m.session.released with
  | true => simp [step, stepStop, h, hreleased, hlock, Session.stop, Session.request]
  | false => simp [step, stepStop, h, hreleased, hlock, Session.stop, Session.request]

end Alone

end Booth

end SpeechHost
