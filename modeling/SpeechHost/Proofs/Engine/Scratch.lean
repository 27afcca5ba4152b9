import SpeechHost.Engine.Command
import SpeechHost.Proofs.Engine.Bystander
import SpeechHost.Proofs.Storage.Scratch
import SpeechHost.Rehearsal.Sink
/-!
# What an engine leaves in the file tree

A Pico engine has its program write a file, and removes it again. When programs write nothing else
(`Program.Tidy`), and nothing stands where that file goes, an utterance leaves the file tree as it was,
however it ends (`CommandEngine.ground_utter`).
-/

namespace SpeechHost

open SpeechHost.Audio SpeechHost.Storage SpeechHost.Storage.Disk

/-- What a world has besides its journal. -/
def World.ground (w : World) : Disk × Option String :=
  (w.disk, w.searchPath)

/-! ## Sinks -/

/-- A sink that changes nothing but the journal. -/
class Harmless (σ : Type) [AudioSink σ] : Prop where
  start (a : Announcement) (s : σ) (w : World) : (AudioSink.start a s w).2.2.ground = w.ground
  audio (b : Bytes) (s : σ) (w : World) : (AudioSink.audio b s w).2.2.ground = w.ground
  done (s : σ) (w : World) : (AudioSink.done s w).2.ground = w.ground
  error (s : σ) (w : World) : (AudioSink.error s w).2.ground = w.ground

instance : Harmless Rehearsal.Probe where
  start _ _ _ := rfl
  audio _ _ _ := rfl
  done _ _ := rfl
  error _ _ := rfl

variable {σ : Type} [AudioSink σ] [Harmless σ]

instance : Bystander World.ground σ where
  start := Harmless.start
  audio := Harmless.audio
  done := Harmless.done

/-! ## Programs -/

/-- A program that writes no other file than the one that it is told to write. -/
def Storage.Program.Tidy (p : Program) : Prop :=
  ∀ arguments outcome, p.start arguments = .ok outcome →
    ∀ x ∈ outcome.written, arguments.take 2 = ["-w", x.1]

/-- A file tree where all programs are tidy, and where nothing is in the way of the file that one of them may
be told to write. -/
structure Storage.Disk.Tidy (d : Disk) : Prop where
  programs : ∀ l p, d.find? l = some (.program p) → p.Tidy
  scratch : d.find? (d.destination (.ofString Pico.scratchFile)) = none

theorem Storage.Disk.Tidy.of_entries {d : Disk} (h : ∀ l p, (l, .program p) ∈ d.entries → p.Tidy)
    (hscratch : d.find? (d.destination (.ofString Pico.scratchFile)) = none) : d.Tidy := by
  refine ⟨fun l p hfind => h l p ?_, hscratch⟩
  have hl : l ≠ [] := by
    rintro rfl
    simp at hfind
  rw [find?_of_ne_nil d hl, List.lookup_eq_some_iff] at hfind
  obtain ⟨before, after, hentries, -⟩ := hfind
  simp [hentries]

theorem program?_ok {d : Disk} {p : Path} {q : Program} (h : d.program? p = .ok q) :
    ∃ l, d.find? l = some (.program q) := by
  obtain ⟨l, -, h⟩ := bind_ok h
  refine ⟨l, ?_⟩
  split at h
  · contradiction
  · rename_i q' hfind
    split_ifs at h
    rw [hfind, Except.ok.inj h]
  · contradiction

theorem firstProgram_ok {d : Disk} {name : Path} {denied : Bool} {places : List Path} {q : Program}
    (h : firstProgram d name denied places = .ok q) : ∃ l, d.find? l = some (.program q) := by
  induction places generalizing denied with
  | nil => contradiction
  | cons place places ih =>
    rw [firstProgram] at h
    split at h
    · rename_i p hp
      exact program?_ok (hp.trans h)
    · exact ih h
    · exact ih h
    · exact ih h
    · contradiction

theorem World.program_ok {w : World} {p : Path} {q : Program} (h : w.program p = .ok q) :
    ∃ l, w.disk.find? l = some (.program q) := by
  unfold World.program at h
  split_ifs at h
  · exact program?_ok h
  · exact firstProgram_ok h

theorem World.launch_ok {w : World} {p : Path} {arguments : List String} {outcome : Run}
    (h : w.launch p arguments = .ok outcome) :
    ∃ q, w.program p = .ok q ∧ q.start arguments = .ok outcome := by
  unfold World.launch at h
  split_ifs at h
  cases hprogram : w.program p with
  | error f =>
    rw [hprogram] at h
    contradiction
  | ok q =>
    rw [hprogram] at h
    exact ⟨q, rfl, h⟩

theorem World.run_cases (w : World) (p : Path) (arguments : List String) :
    (∃ f, w.run p arguments = (.error f, w)) ∨
      ∃ outcome, w.launch p arguments = .ok outcome ∧
        w.run p arguments = (.ok outcome, (w.note (.ran arguments)).keep outcome.written) := by
  unfold World.run
  cases w.launch p arguments with
  | error f => exact .inl ⟨f, rfl⟩
  | ok outcome => exact .inr ⟨outcome, rfl, rfl⟩

/-- The world with perhaps a file at a path. -/
def World.Littered (path : String) (w w' : World) : Prop :=
  Disk.Littered (.ofString path) w.disk w'.disk ∧ w'.searchPath = w.searchPath

theorem World.Littered.keep {path : String} {written : List (String × Bytes)} {w w' : World}
    (h : w.Littered path w') (hwritten : ∀ x ∈ written, x.1 = path) :
    w.Littered path (w'.keep written) := by
  induction written generalizing w' with
  | nil => exact h
  | cons x written ih =>
    obtain ⟨path', content⟩ := x
    obtain rfl : path' = path := hwritten _ List.mem_cons_self
    have hrest : ∀ x ∈ written, x.1 = path' := fun x hx => hwritten x (List.mem_cons_of_mem _ hx)
    cases hwrite : w'.disk.writeFile (.ofString path') content with
    | error f => simpa [World.keep, hwrite] using ih h hrest
    | ok disk =>
      have hnext : w.Littered path' { w' with disk } := ⟨h.1.writeFile hwrite, h.2⟩
      simpa [World.keep, hwrite] using ih hnext hrest

theorem World.Littered.reserve {path : String} {w w' : World} (h : w.reserve path = .ok w') :
    w.Littered path w' := by
  unfold World.reserve at h
  cases hwrite : w.disk.writeFile (.ofString path) [] with
  | error f => simp [hwrite] at h
  | ok disk =>
    obtain rfl : { w with disk } = w' := by simpa [hwrite] using h
    exact ⟨Disk.Littered.writeFile (.inl rfl) hwrite, rfl⟩

theorem World.Littered.run {path : String} {w w' : World} (h : w.Littered path w') {p : Path}
    {arguments : List String}
    (hwritten : ∀ outcome, w'.launch p arguments = .ok outcome → ∀ x ∈ outcome.written, x.1 = path) :
    w.Littered path (w'.run p arguments).2 := by
  rcases w'.run_cases p arguments with ⟨f, hrun⟩ | ⟨outcome, hlaunch, hrun⟩
  · rw [hrun]
    exact h
  · rw [hrun]
    have hnoted : w.Littered path (w'.note (.ran arguments)) := h
    exact hnoted.keep (hwritten outcome hlaunch)

theorem World.Littered.congr {path : String} {w w' w'' : World} (h : w.Littered path w')
    (hground : w''.ground = w'.ground) : w.Littered path w'' := by
  simp only [World.ground, Prod.mk.injEq] at hground
  rwa [World.Littered, hground.1, hground.2]

theorem World.Littered.discard {path : String} {w w' : World} (h : w.Littered path w')
    (hfree : w.disk.find? (w.disk.destination (.ofString path)) = none) :
    (w'.discard path).ground = w.ground := by
  rcases h.1.removeFile hfree with ⟨heq, f, hremove⟩ | hremove
  · rw [World.discard, hremove]
    exact Prod.ext heq h.2
  · rw [World.discard, hremove]
    exact Prod.ext rfl h.2

/-! ## Engines -/

theorem Pico.ground_utter (text : String) (s : σ) (p : Pico) {w : World} (h : w.disk.Tidy) :
    (p.utter text s w).2.2.2.ground = w.ground := by
  cases hreserve : w.reserve scratchFile with
  | error fault => simp [utter, hreserve]
  | ok reserved =>
    have hreserved : w.Littered scratchFile reserved := .reserve hreserve
    have hwritten : ∀ outcome, reserved.launch p.program (p.arguments text) = .ok outcome →
        ∀ x ∈ outcome.written, x.1 = scratchFile := by
      intro outcome hlaunch x hx
      obtain ⟨q, hprogram, hstart⟩ := World.launch_ok hlaunch
      obtain ⟨l, hfind⟩ := World.program_ok hprogram
      have htold := h.programs l q (hreserved.1.find?_program hfind) _ _ hstart x hx
      simpa [arguments, eq_comm] using htold
    have hran := hreserved.run hwritten
    rw [← wave_world] at hran
    rcases hwave : p.wave text reserved with ⟨error | wave, w'⟩
    · simp only [utter, hreserve, hwave]
      rw [hwave] at hran
      exact hran.discard h.scratch
    · simp only [utter, hreserve, hwave]
      rw [hwave] at hran
      exact (hran.congr (p.playback.bystander_stream (f := World.ground) ..)).discard h.scratch

theorem Espeak.ground_wave (e : Espeak) (text : String) {w : World} (h : w.disk.Tidy) :
    (e.wave text w).2.ground = w.ground := by
  rw [wave_world]
  rcases w.run_cases e.program (e.arguments text) with ⟨f, hrun⟩ | ⟨outcome, hlaunch, hrun⟩
  · rw [hrun]
  · obtain ⟨q, hprogram, hstart⟩ := World.launch_ok hlaunch
    obtain ⟨l, hfind⟩ := World.program_ok hprogram
    have hwritten : outcome.written = [] := by
      refine List.eq_nil_iff_forall_not_mem.2 fun x hx => ?_
      have htold := h.programs l q hfind _ _ hstart x hx
      simp [arguments] at htold
    rw [hrun, hwritten]
    rfl

theorem Espeak.ground_utter (text : String) (s : σ) (e : Espeak) {w : World} (h : w.disk.Tidy) :
    (e.utter text s w).2.2.2.ground = w.ground := by
  have hground := e.ground_wave text h
  rcases hwave : e.wave text w with ⟨error | wave, w'⟩
  · rw [hwave] at hground
    simpa [utter, hwave] using hground
  · rw [hwave] at hground
    simp only [utter, hwave]
    exact (e.playback.bystander_stream (f := World.ground) ..).trans hground

theorem CommandEngine.ground_utter (text : String) (s : σ) (e : CommandEngine) {w : World}
    (h : w.disk.Tidy) : (SpeechEngine.utter text s e w).2.2.2.ground = w.ground := by
  cases e with
  | pico p => exact p.ground_utter text s h
  | espeak e => exact e.ground_utter text s h

end SpeechHost
