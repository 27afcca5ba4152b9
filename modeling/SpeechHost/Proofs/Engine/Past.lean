import Mathlib.Tactic.SplitIfs
import SpeechHost.Engine.Command
import SpeechHost.Proofs.Audio.Listener
import SpeechHost.Rehearsal.Sink
import SpeechHost.Audio.WaveFile
/-!
# What was noted before does not matter

The journal of a world is only ever added to. What comes of a request is therefore the same whatever the
journal holds already, for engines that are programs and for sinks that do not look at it (`JournalBlind`).
-/

namespace SpeechHost

open SpeechHost.Audio SpeechHost.Storage

/-! ## Notes from before -/

/-- What ends in a world. -/
class Ends (α : Type) where
  /-- The same with notes before those in the journal. -/
  after : List Note → α → α

instance : Ends World := ⟨fun past w => { w with journal := past ++ w.journal }⟩

instance {α β : Type} [Ends β] : Ends (α × β) := ⟨fun past d => (d.1, Ends.after past d.2)⟩

@[simp] theorem after_mk {α β : Type} [Ends β] (past : List Note) (a : α) (b : β) :
    Ends.after past (a, b) = (a, Ends.after past b) := rfl

variable {past : List Note}

@[simp] theorem disk_after (w : World) : (Ends.after past w).disk = w.disk := rfl

@[simp] theorem note_after (w : World) (n : Note) :
    (Ends.after past w).note n = Ends.after past (w.note n) := by
  simp [World.note, Ends.after]

theorem after_journal (w : World) : Ends.after w.journal { w with journal := [] } = w := by
  simp [Ends.after]

/-! ## Sinks -/

/-- A sink that does not look at the journal. -/
class JournalBlind (σ : Type) [AudioSink σ] : Prop where
  start (past : List Note) (a : Announcement) (s : σ) (w : World) :
    AudioSink.start a s (Ends.after past w) = Ends.after past (AudioSink.start a s w)
  audio (past : List Note) (b : Bytes) (s : σ) (w : World) :
    AudioSink.audio b s (Ends.after past w) = Ends.after past (AudioSink.audio b s w)
  done (past : List Note) (s : σ) (w : World) :
    AudioSink.done s (Ends.after past w) = Ends.after past (AudioSink.done s w)
  error (past : List Note) (s : σ) (w : World) :
    AudioSink.error s (Ends.after past w) = Ends.after past (AudioSink.error s w)

instance : JournalBlind Rehearsal.Probe where
  start past a s w := by simp [AudioSink.start]
  audio past b s w := by simp [AudioSink.audio]
  done past s w := by simp [AudioSink.done]
  error past s w := by simp [AudioSink.error]

instance : JournalBlind WaveFile where
  start _ _ _ _ := rfl
  audio _ _ _ _ := rfl
  done _ _ _ := rfl
  error _ _ _ := rfl

variable {σ : Type} [AudioSink σ] [JournalBlind σ]

instance : JournalBlind (Listener σ) where
  start past a s w := by
    rcases hcall : AudioSink.start a s.out w with ⟨reply, out, w'⟩
    simp [AudioSink.start, JournalBlind.start, hcall]
  audio past b s w := by
    rcases hcall : AudioSink.audio b s.out w with ⟨reply, out, w'⟩
    simp [AudioSink.audio, JournalBlind.audio, hcall]
  done past s w := by
    rcases hcall : AudioSink.done s.out w with ⟨out, w'⟩
    simp [AudioSink.done, JournalBlind.done, hcall]
  error past s w := by
    rcases hcall : AudioSink.error s.out w with ⟨out, w'⟩
    simp [AudioSink.error, JournalBlind.error, hcall]

/-! ## Playing -/

namespace Playback

theorem deliver_after (past : List Note) (p : Playback) (s : σ) (w : World) (bs : List Bytes) :
    p.deliver s (Ends.after past w) bs = Ends.after past (p.deliver s w bs) := by
  induction bs generalizing p s w with
  | nil =>
    rcases hcall : AudioSink.done s w with ⟨s', w'⟩
    simp [deliver, JournalBlind.done, hcall]
  | cons b bs ih =>
    cases hstop : p.stopping with
    | true =>
      rcases hcall : AudioSink.done s w with ⟨s', w'⟩
      simp [deliver, hstop, JournalBlind.done, hcall]
    | false =>
      rcases hcall : AudioSink.audio b s w with ⟨⟨e | _, stop⟩, s', w'⟩
      · simp [deliver, hstop, JournalBlind.audio, hcall]
      · simp [deliver, hstop, JournalBlind.audio, hcall, ih]

theorem play_after (past : List Note) (p : Playback) (t : Track) (s : σ) (w : World) :
    p.play t s (Ends.after past w) = Ends.after past (p.play t s w) := by
  rcases hcall : AudioSink.start t.announcement s w with ⟨⟨e | _, stop⟩, s', w'⟩
  · simp [play, JournalBlind.start, hcall]
  · simp [play, JournalBlind.start, hcall, deliver_after]

theorem stream_after (past : List Note) (p : Playback) (wave : Bytes) (s : σ) (w : World) :
    p.stream wave s (Ends.after past w) = Ends.after past (p.stream wave s w) := by
  cases htrack : p.track wave with
  | error f => simp [stream, htrack]
  | ok t => simp [stream, htrack, play_after]

end Playback

/-! ## Programs -/

theorem World.keep_after (past : List Note) (w : World) (written : List (String × Bytes)) :
    (Ends.after past w).keep written = Ends.after past (w.keep written) := by
  induction written generalizing w with
  | nil => rfl
  | cons x written ih =>
    obtain ⟨path, content⟩ := x
    cases hwrite : w.disk.writeFile (.ofString path) content with
    | error e => simpa [World.keep, hwrite] using ih w
    | ok disk =>
      simp only [World.keep, List.foldl_cons, disk_after, hwrite]
      exact ih { w with disk }

theorem World.reserve_after (past : List Note) (w : World) (path : String) :
    (Ends.after past w).reserve path = (w.reserve path).map (Ends.after past) := by
  cases hwrite : w.disk.writeFile (.ofString path) [] with
  | error e => simp [World.reserve, hwrite, Except.map]
  | ok disk =>
    simp only [World.reserve, disk_after, hwrite]
    rfl

theorem World.discard_after (past : List Note) (w : World) (path : String) :
    (Ends.after past w).discard path = Ends.after past (w.discard path) := by
  cases hremove : w.disk.removeFile (.ofString path) with
  | error e => simp [World.discard, hremove]
  | ok disk =>
    simp only [World.discard, disk_after, hremove]
    rfl

@[simp] theorem World.launch_after (past : List Note) (w : World) (p : Path) (arguments : List String) :
    (Ends.after past w).launch p arguments = w.launch p arguments := rfl

theorem World.run_after (past : List Note) (w : World) (p : Path) (arguments : List String) :
    (Ends.after past w).run p arguments = Ends.after past (w.run p arguments) := by
  cases hlaunch : w.launch p arguments with
  | error e => simp [World.run, hlaunch]
  | ok outcome => simp [World.run, hlaunch, World.keep_after]

/-! ## Engines -/

theorem Pico.wave_after (past : List Note) (p : Pico) (text : String) (w : World) :
    p.wave text (Ends.after past w) = Ends.after past (p.wave text w) := by
  rcases hrun : w.run p.program (p.arguments text) with ⟨fault | outcome, w'⟩
  · simp [wave, World.run_after, hrun]
  · simp [wave, World.run_after, hrun]

theorem Pico.utter_after (past : List Note) (text : String) (s : σ) (p : Pico) (w : World) :
    p.utter text s (Ends.after past w) = Ends.after past (p.utter text s w) := by
  cases hreserve : w.reserve scratchFile with
  | error fault => simp [utter, World.reserve_after, hreserve, Except.map]
  | ok reserved =>
    rcases hwave : p.wave text reserved with ⟨error | wave, w'⟩
    · simp [utter, World.reserve_after, hreserve, Except.map, wave_after, hwave, World.discard_after]
    · rcases hstream : p.playback.stream wave s w' with ⟨r, s', playback, w''⟩
      simp [utter, World.reserve_after, hreserve, Except.map, wave_after, hwave, Playback.stream_after,
        hstream, World.discard_after]

theorem Espeak.wave_after (past : List Note) (e : Espeak) (text : String) (w : World) :
    e.wave text (Ends.after past w) = Ends.after past (e.wave text w) := by
  rcases hrun : w.run e.program (e.arguments text) with ⟨fault | outcome, w'⟩
  · simp [wave, World.run_after, hrun]
  · simp [wave, World.run_after, hrun]

theorem Espeak.utter_after (past : List Note) (text : String) (s : σ) (e : Espeak) (w : World) :
    e.utter text s (Ends.after past w) = Ends.after past (e.utter text s w) := by
  rcases hwave : e.wave text w with ⟨error | wave, w'⟩
  · simp [utter, wave_after, hwave]
  · rcases hstream : e.playback.stream wave s w' with ⟨r, s', playback, w''⟩
    simp [utter, wave_after, hwave, Playback.stream_after, hstream]

theorem CommandEngine.utter_after (past : List Note) (text : String) (s : σ) (e : CommandEngine)
    (w : World) :
    SpeechEngine.utter text s e (Ends.after past w) =
      Ends.after past (SpeechEngine.utter text s e w) := by
  cases e with
  | pico p =>
    rcases hutter : p.utter text s w with ⟨r, s', p', w'⟩
    simp [SpeechEngine.utter, Pico.utter_after, hutter]
  | espeak e =>
    rcases hutter : e.utter text s w with ⟨r, s', e', w'⟩
    simp [SpeechEngine.utter, Espeak.utter_after, hutter]

end SpeechHost
