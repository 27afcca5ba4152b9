import SpeechHost.Audio.WaveFile
import SpeechHost.Engine.Playback
import SpeechHost.Proofs.Audio.Listener
import SpeechHost.Rehearsal.Sink
/-!
# Sinks that stand by

A sink may change the world as it likes. One that leaves alone what can be seen of the world in some respect
(`Bystander`) does so for as long as audio is played into it.
-/

namespace SpeechHost

open SpeechHost.Audio SpeechHost.Storage

/-- A sink that leaves alone what `f` shows of the world. -/
class Bystander {κ : Type} (f : World → κ) (σ : Type) [AudioSink σ] : Prop where
  start (a : Announcement) (s : σ) (w : World) : f (AudioSink.start a s w).2.2 = f w
  audio (b : Bytes) (s : σ) (w : World) : f (AudioSink.audio b s w).2.2 = f w
  done (s : σ) (w : World) : f (AudioSink.done s w).2 = f w

instance {κ : Type} (f : World → κ) (σ : Type) [AudioSink σ] [Bystander f σ] :
    Bystander f (Listener σ) where
  start a l w := Bystander.start a l.out w
  audio b l w := Bystander.audio b l.out w
  done l w := Bystander.done l.out w

namespace Playback

variable {κ σ : Type} {f : World → κ} [AudioSink σ] [Bystander f σ]

theorem bystander_deliver (p : Playback) (s : σ) (w : World) (bs : List Bytes) :
    f (p.deliver s w bs).2.2.2 = f w := by
  induction bs generalizing p s w with
  | nil => exact Bystander.done s w
  | cons b bs ih =>
    cases hstop : p.stopping with
    | true => simpa [deliver, hstop] using Bystander.done (f := f) s w
    | false =>
      have haudio := Bystander.audio (f := f) b s w
      rcases hcall : AudioSink.audio b s w with ⟨⟨e | _, stop⟩, s', w'⟩
      · simpa [deliver, hstop, hcall] using haudio
      · simp only [hcall] at haudio
        simp [deliver, hstop, hcall, ih, haudio]

theorem bystander_stream (p : Playback) (wave : Bytes) (s : σ) (w : World) :
    f (p.stream wave s w).2.2.2 = f w := by
  cases htrack : p.track wave with
  | error x => simp [stream, htrack]
  | ok t =>
    have hstart := Bystander.start (f := f) t.announcement s w
    rcases hcall : AudioSink.start t.announcement s w with ⟨⟨e | _, stop⟩, s', w'⟩
    · simpa [stream, htrack, play, hcall] using hstart
    · simp only [hcall] at hstart
      simp [stream, htrack, play, hcall, bystander_deliver, hstart]

end Playback

end SpeechHost
