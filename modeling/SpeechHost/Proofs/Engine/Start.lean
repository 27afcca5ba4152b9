import Mathlib.Tactic.SplitIfs
import SpeechHost.Engine.Command
import SpeechHost.Proofs.Engine.Bystander
import SpeechHost.Proofs.Engine.Usage
/-!
# The program that is started for a text

The journal tells which programs were started, and with which arguments (`World.started`). For a
text an engine starts its program once, or not at all when that cannot be started
(`Usage.starts_iff`). Only a sink could have started something else.
-/

namespace SpeechHost

open SpeechHost.Audio SpeechHost.Storage

/-- The arguments that a note says a program was started with. -/
def Note.started? : Note → Option (List String)
  | .ran arguments => some arguments
  | _ => none

namespace World

/-- The arguments of every program that was started, in order. -/
def started (w : World) : List (List String) :=
  w.journal.filterMap Note.started?

theorem isOk_launch_iff {w : World} {p : Path} {arguments : List String} :
    (w.launch p arguments).isOk = true ↔
      (∀ a ∈ arguments, '\x00' ∉ a.toList) ∧
        ∃ q, w.program p = .ok q ∧ (q.start arguments).isOk = true := by
  have hnul : arguments.any (·.toList.contains '\x00') = false ↔ ∀ a ∈ arguments, '\x00' ∉ a.toList := by
    simp
  rw [← hnul, launch]
  cases arguments.any (·.toList.contains '\x00') with
  | true => simp [Except.isOk, Except.toBool]
  | false =>
    cases w.program p with
    | error f => simp [Except.isOk, Except.toBool]
    | ok q => simp

@[simp] theorem started_note_ran (w : World) (arguments : List String) :
    (w.note (.ran arguments)).started = w.started ++ [arguments] := by
  simp [started, note, Note.started?]

@[simp] theorem started_note_sink (w : World) (call : SinkCall) :
    (w.note (.sink call)).started = w.started := by
  simp [started, note, Note.started?]

@[simp] theorem started_keep (w : World) (written : List (String × Bytes)) :
    (w.keep written).started = w.started := by
  induction written generalizing w with
  | nil => rfl
  | cons x written ih =>
    obtain ⟨path, content⟩ := x
    cases hwrite : w.disk.writeFile (.ofString path) content with
    | error e => simpa [keep, hwrite] using ih w
    | ok disk =>
      simp only [keep, List.foldl_cons, hwrite]
      exact ih { w with disk }

theorem started_reserve {w w' : World} {path : String} (h : w.reserve path = .ok w') :
    w'.started = w.started := by
  unfold reserve at h
  split at h
  · obtain rfl := Except.ok.inj h
    rfl
  · contradiction

@[simp] theorem started_discard (w : World) (path : String) : (w.discard path).started = w.started := by
  cases hremove : w.disk.removeFile (.ofString path) with
  | error e => simp [discard, hremove]
  | ok disk => simp [discard, hremove, started]

@[simp] theorem started_run (w : World) (p : Path) (arguments : List String) :
    (w.run p arguments).2.started =
      w.started ++ if (w.launch p arguments).isOk then [arguments] else [] := by
  cases hlaunch : w.launch p arguments with
  | error f => simp [run, hlaunch, Except.isOk, Except.toBool]
  | ok outcome => simp [run, hlaunch, Except.isOk, Except.toBool]

end World

instance : Bystander World.started Rehearsal.Probe where
  start a _ w := w.started_note_sink (.start a)
  audio b _ w := w.started_note_sink (.audio b)
  done _ w := w.started_note_sink .done

instance : Bystander World.started WaveFile where
  start _ _ _ := rfl
  audio _ _ _ := rfl
  done _ _ := rfl

/-- Whether one program is started when an engine is asked to speak a text next, namely with some arguments. -/
def Usage.Starts {ε σ : Type} [SpeechEngine ε] [AudioSink σ] (u : Usage ε σ) (text : String)
    (arguments : List String) : Prop :=
  (u.step (.ask (.synthesize text))).world.started = u.world.started ++ [arguments]

/-! ## Engines -/

namespace CommandEngine

def program : CommandEngine → Path
  | .pico p => p.program
  | .espeak e => e.program

def arguments : CommandEngine → String → List String
  | .pico p => p.arguments
  | .espeak e => e.arguments

/-- Whether an engine starts its program for a text. A Pico engine needs its scratch file for that. -/
def canStart (w : World) (text : String) : CommandEngine → Bool
  | .pico p =>
    match w.reserve Pico.scratchFile with
    | .error _ => false
    | .ok w => (w.launch p.program (p.arguments text)).isOk
  | .espeak e => (w.launch e.program (e.arguments text)).isOk

theorem canStart_pico_iff {w : World} {text : String} {p : Pico} :
    canStart w text (.pico p) = true ↔ ∃ reserved, w.reserve Pico.scratchFile = .ok reserved ∧
      (reserved.launch p.program (p.arguments text)).isOk = true := by
  cases hreserve : w.reserve Pico.scratchFile <;> simp [canStart, hreserve]

end CommandEngine

variable {σ : Type} [AudioSink σ] [Bystander World.started σ]

theorem Pico.started_utter (text : String) (s : σ) (p : Pico) (w : World) :
    (p.utter text s w).2.2.2.started =
      w.started ++ if CommandEngine.canStart w text (.pico p) then [p.arguments text] else [] := by
  cases hreserve : w.reserve scratchFile with
  | error fault => simp [utter, CommandEngine.canStart, hreserve]
  | ok reserved =>
    have hstarted := congrArg World.started (p.wave_world text reserved)
    rw [World.started_run, World.started_reserve hreserve] at hstarted
    rcases hwave : p.wave text reserved with ⟨error | wave, w'⟩
    · simpa [utter, CommandEngine.canStart, hreserve, hwave] using hstarted
    · have hstream := p.playback.bystander_stream (f := World.started) wave s w'
      simpa [utter, CommandEngine.canStart, hreserve, hwave, hstream] using hstarted

theorem Espeak.started_utter (text : String) (s : σ) (e : Espeak) (w : World) :
    (e.utter text s w).2.2.2.started =
      w.started ++ if CommandEngine.canStart w text (.espeak e) then [e.arguments text] else [] := by
  have hstarted := congrArg World.started (e.wave_world text w)
  rw [World.started_run] at hstarted
  rw [show CommandEngine.canStart w text (.espeak e) = (w.launch e.program (e.arguments text)).isOk from rfl,
    ← hstarted]
  rcases hwave : e.wave text w with ⟨error | wave, w'⟩
  · simp only [utter, hwave]
  · have hstream := e.playback.bystander_stream (f := World.started) wave s w'
    simpa only [utter, hwave] using hstream

theorem CommandEngine.started_synthesize (text : String) (s : σ) (e : CommandEngine) (w : World) :
    (SpeechEngine.synthesize text s e w).2.2.2.started =
      w.started ++ if e.canStart w text then [e.arguments text] else [] := by
  cases e with
  | pico p => exact Pico.started_utter text s { p with playback := p.playback.begin } w
  | espeak e => exact Espeak.started_utter text s { e with playback := e.playback.begin } w

namespace Usage

theorem starts_iff {u : Usage CommandEngine σ} {text : String} {arguments : List String} :
    u.Starts text arguments ↔
      arguments = u.engine.arguments text ∧ u.engine.canStart u.world text = true := by
  have hstarted := CommandEngine.started_synthesize text u.out u.engine u.world
  have hworld : (u.step (.ask (.synthesize text))).world =
      (SpeechEngine.synthesize text u.out u.engine u.world).2.2.2 := rfl
  rw [Starts, hworld, hstarted, List.append_cancel_left_eq]
  constructor
  · intro h
    split_ifs at h with hstart
    obtain rfl := (List.cons.inj h).1
    exact ⟨rfl, hstart⟩
  · rintro ⟨rfl, hstart⟩
    rw [if_pos hstart]

end Usage

end SpeechHost
