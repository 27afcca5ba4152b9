import SpeechHost.Proofs.Engine.Past
import SpeechHost.Proofs.Service.Lasting
import SpeechHost.Rehearsal.StandIn
/-!
# Requests leave nothing behind

What a request makes of a service depends on what lasts of its session and on the world but for its journal:
the rest is overwritten before it counts (`Shared.finish_alike`, `synthesize_after`). So a request is
answered alike after any two histories of a service, as long as the file tree stays as it is
(`synthesize_forgets`).
-/

namespace SpeechHost

open SpeechHost.Audio SpeechHost.Storage

variable {σ τ : Type} [AudioSink σ] [AudioSink τ]

/-! ## Two engines that differ in what is overwritten -/

namespace Shared

open CommandEngine

variable {r : SpeechRequest} {s s' : Session CommandEngine}

theorem tell_of_not_released (hs : s.released = false) (k : Setting) (w : World) :
    r.tell k s w =
      ((s.engine.settle (change w.disk r s.engine k)).1,
        { s with engine := (s.engine.settle (change w.disk r s.engine k)).2 }, w) := by
  simp only [SpeechRequest.tell_eq, Session.request, hs, ask_eq]
  rfl

/-- What a request that is under way does with two engines of which the same lasts, when all settings that
are not still to come have been made alike. -/
theorem finish_alike (hs : s.released = false) (hs' : s'.released = false)
    (hunset : s.engine.unset = s'.engine.unset) {ks : List Setting}
    (hread : ∀ k, k ∉ ks → read k s.engine = read k s'.engine) (out : σ) (w : World) :
    (finish r out ks s w).1 = (finish r out ks s' w).1 ∧
      (finish r out ks s w).2.1 = (finish r out ks s' w).2.1 ∧
      (finish r out ks s w).2.2.2 = (finish r out ks s' w).2.2.2 := by
  induction ks generalizing s s' with
  | nil =>
    have hengine := eq_of_read hunset fun k => hread k (by simp)
    simp only [finish, Session.speak, Session.enterSpeech, Session.request, hs, hs', SpeechEngine.accept,
      Session.finishSpeech, hengine]
    exact ⟨rfl, rfl, rfl⟩
  | cons k ks ih =>
    have hchange : (change w.disk r s.engine k).map (fun _ => ()) =
        (change w.disk r s'.engine k).map (fun _ => ()) := by
      rw [change_unset, hunset, ← change_unset]
    simp only [finish, tell_of_not_released hs, tell_of_not_released hs']
    cases hf : change w.disk r s.engine k with
    | error x =>
      cases hf' : change w.disk r s'.engine k with
      | error x' =>
        obtain rfl : x = x' := by simpa [hf, hf', Except.map] using hchange
        exact ⟨rfl, rfl, rfl⟩
      | ok f' => simp [hf, hf', Except.map] at hchange
    | ok f =>
      cases hf' : change w.disk r s'.engine k with
      | error x' => simp [hf, hf', Except.map] at hchange
      | ok f' =>
        have hunset' : f.unset = f'.unset := by
          rw [unset_change hf, unset_change hf', hunset]
        have hread' : ∀ k', k' ∉ ks → read k' f = read k' f' := by
          intro k' hk'
          rw [(change_ok hf).1 k', (change_ok hf').1 k']
          split_ifs with heq
          · rw [← meant_unset, hunset, meant_unset]
          · exact hread k' (by simp [heq, hk'])
        refine ih ?_ ?_ ?_ ?_
        · exact hs
        · exact hs'
        · exact hunset'
        · exact hread'

end Shared

/-! ## A journal with notes from before -/

section After

variable [JournalBlind σ]

theorem Shared.finish_after (past : List Note) (r : SpeechRequest) (out : σ) (ks : List Setting)
    (s : Session CommandEngine) (w : World) :
    finish r out ks s (Ends.after past w) = Ends.after past (finish r out ks s w) := by
  induction ks generalizing s w with
  | nil =>
    cases hs : s.released with
    | true => simp [finish, Session.speak, Session.enterSpeech, Session.request, hs]
    | false =>
      rcases hutter : SpeechEngine.utter r.text out (s.engine.withPlayback s.engine.playback.begin) w
        with ⟨result, out', engine, w'⟩
      simp [finish, Session.speak, Session.enterSpeech, Session.request, hs, SpeechEngine.accept,
        Session.finishSpeech, CommandEngine.utter_after, hutter]
  | cons k ks ih =>
    have htell : r.tell k s (Ends.after past w) = Ends.after past (r.tell k s w) := by
      cases hs : s.released with
      | true => simp [SpeechRequest.tell_eq, Session.request, hs]
      | false => simp [tell_of_not_released hs]
    rcases hcall : r.tell k s w with ⟨e | _, s', w'⟩
    · simp [finish, htell, hcall]
    · simp [finish, htell, hcall, ih]

namespace Service

theorem report_after (past : List Note) (result : Except EngineError Unit) (out : σ) (w : World) :
    report result out (Ends.after past w) = Ends.after past (report result out w) := by
  cases result with
  | ok => rfl
  | error e => exact JournalBlind.error past out w

theorem synthesize_after (past : List Note) (r : SpeechRequest) (out : σ) (v : Service CommandEngine)
    (w : World) :
    v.synthesize r out (Ends.after past w) = Ends.after past (v.synthesize r out w) := by
  obtain ⟨identifier, config, session⟩ := v
  cases session with
  | none =>
    rcases herror : AudioSink.error out w with ⟨out', w'⟩
    simp [synthesize, enterSpeech, request, report, JournalBlind.error, herror]
  | some s =>
    rcases hfinish : Shared.finish r out [.language, .rate, .pitch] s w with ⟨result, out', s', w'⟩
    rcases hreport : report result out' w' with ⟨out'', w''⟩
    simp [Shared.synthesize_eq, Shared.finish_after, hfinish, report_after, hreport]

end Service

end After

/-! ## Histories -/

namespace Service

variable {identifier : String} {config : Option String} {disk : Disk} {searchPath : Option String}

/-- What was asked of a service before, from its beginning to a session that is open. Whatever it was, the
engine is always configured alike, and nobody changes the file tree or the search path. -/
structure History (σ : Type) [AudioSink σ] (identifier : String) (config : Option String) (disk : Disk)
    (searchPath : Option String) where
  start : World
  operations : List (Operation σ)
  configured : ∀ c, .create c ∈ operations → c = config
  undisturbed : Undisturbed disk searchPath (.new identifier config) start operations
  isOpen : (run CommandEngine.loader (.new identifier config) start operations).1.session.isSome = true

namespace History

def finish (h : History σ identifier config disk searchPath) : Service CommandEngine × World :=
  run CommandEngine.loader (.new identifier config) h.start h.operations

theorem finish_spec (h : History σ identifier config disk searchPath) :
    (∃ c s s₀, h.finish.1 = ⟨identifier, c, some s⟩ ∧
        opened identifier config ⟨disk, searchPath, []⟩ = .ok s₀ ∧ s.lasting = s₀.lasting) ∧
      h.finish.2 = Ends.after h.finish.2.journal ⟨disk, searchPath, []⟩ := by
  have hnew : LikeNew identifier config ⟨disk, searchPath, []⟩ (.new identifier config) :=
    ⟨rfl, by simp [Service.new]⟩
  have hrun := hnew.run h.configured h.undisturbed
  have hopen := h.isOpen
  rw [show Service.run CommandEngine.loader (.new identifier config) h.start h.operations = h.finish
    from rfl] at hrun hopen
  generalize h.finish = d at hrun hopen ⊢
  obtain ⟨⟨i, c, session⟩, w⟩ := d
  obtain ⟨⟨rfl, hsession⟩, hground⟩ := hrun
  obtain ⟨rfl, rfl⟩ : w.disk = disk ∧ w.searchPath = searchPath := by simpa [World.ground] using hground
  obtain ⟨s, rfl⟩ := Option.isSome_iff_exists.1 hopen
  obtain ⟨s₀, hopened, hlasting⟩ := hsession s rfl
  exact ⟨⟨c, s, s₀, rfl, hopened, hlasting⟩, (after_journal w).symm⟩

end History

/-- A request is answered alike after any two histories: with the same result, with the same calls to its
sink and with the same runs of programs, all of which are noted in the journal. -/
theorem synthesize_forgets {σ' : Type} [AudioSink σ'] [JournalBlind τ]
    (h : History σ identifier config disk searchPath) (h' : History σ' identifier config disk searchPath)
    (r : SpeechRequest) (out : τ) :
    ∃ (result : Except EngineError Unit) (l : Listener τ) (v v' : Service CommandEngine) (w : World),
      h.finish.1.synthesize r (Listener.new out) h.finish.2 =
          (result, l, v, Ends.after h.finish.2.journal w) ∧
        h'.finish.1.synthesize r (Listener.new out) h'.finish.2 =
          (result, l, v', Ends.after h'.finish.2.journal w) := by
  obtain ⟨⟨c, s, s₀, hv, hopened, hs⟩, hw⟩ := h.finish_spec
  obtain ⟨⟨c', s', s₀', hv', hopened', hs'⟩, hw'⟩ := h'.finish_spec
  obtain rfl := Except.ok.inj (hopened.symm.trans hopened')
  have hreleased := released_opened hopened
  simp only [Session.lasting, hreleased, Prod.mk.injEq] at hs hs'
  -- a request sets everything that can be set
  have hread : ∀ k, k ∉ [Setting.language, .rate, .pitch] →
      CommandEngine.read k s.engine = CommandEngine.read k s'.engine := by
    intro k hk
    cases k <;> simp at hk
  obtain ⟨hresult, hout, hworld⟩ := Shared.finish_alike (r := r) hs.1 hs'.1 (hs.2.trans hs'.2.symm) hread
    (Listener.new out) ⟨disk, searchPath, []⟩
  generalize h.finish.2.journal = past, h'.finish.2.journal = past' at hw hw' ⊢
  rw [hw, hw', hv, hv', synthesize_after, synthesize_after, Shared.synthesize_eq, Shared.synthesize_eq]
  simp only [hresult, hout, hworld]
  exact ⟨_, _, _, _, _, rfl, rfl⟩

/-- A program that is started like Pico's, and writes three samples for any text. -/
def scribe : Program where
  executable := true
  start := fun
    | "-w" :: path :: _ =>
      .ok ⟨[], [(path, Rehearsal.plainWave 16000 1 8 [0, 128, 255])], [], .ended true⟩
    | _ => .ok ⟨[], [], [], .ended false⟩

/-- A program that is started like Pico's, and the data of the German voice. -/
def workshop : Disk :=
  ⟨[], [(["tmp"], .directory), (["bin"], .directory), (["bin", "pico2wave"], .program scribe),
    (["data"], .directory), (["data", "de-DE_ta.bin"], .file []),
    (["data", "de-DE_gl0_sg.bin"], .file [])]⟩

theorem tidy_workshop : workshop.Tidy := by
  refine .of_entries (fun l p hmem arguments outcome hstart x hx => ?_) (by decide +kernel)
  obtain rfl : p = scribe := by simp_all [workshop]
  simp only [scribe] at hstart
  split at hstart
  · obtain rfl := Except.ok.inj hstart
    obtain rfl := List.mem_singleton.1 hx
    rfl
  · obtain rfl := Except.ok.inj hstart
    contradiction

def german : SpeechRequest := ⟨"Hallo", ⟨"deu", "DEU", ""⟩, 150, 80⟩

def spanish : SpeechRequest := ⟨"Hola", ⟨"spa", "ESP", ""⟩, 50, 120⟩

/-- A history with a text that is stopped while it is spoken, one without a voice, and a stop at the end. -/
def busy : History Rehearsal.Probe "/bin/pico2wave" (some "/data") workshop none where
  start := ⟨workshop, none, []⟩
  operations := [.create (some "/data"), .synthesize german { Rehearsal.Probe.quiet with stopAt := some 0 },
    .synthesize spanish .quiet, .stop]
  configured := by simp
  undisturbed := undisturbed_of_tidy tidy_workshop rfl _ _
  isOpen := by decide +kernel

def idle : History Rehearsal.Probe "/bin/pico2wave" (some "/data") workshop none where
  start := ⟨workshop, none, []⟩
  operations := [.create (some "/data")]
  configured := by simp
  undisturbed := undisturbed_of_tidy tidy_workshop rfl _ _
  isOpen := by decide +kernel

theorem synthesize_forgets_busy :
    JournalBlind Rehearsal.Probe ∧
      ∃ (result : Except EngineError Unit) (l : Listener Rehearsal.Probe) (v v' : Service CommandEngine)
        (w : World),
        busy.finish.1.synthesize german (Listener.new .quiet) busy.finish.2 =
            (result, l, v, Ends.after busy.finish.2.journal w) ∧
          idle.finish.1.synthesize german (Listener.new .quiet) idle.finish.2 =
            (result, l, v', Ends.after idle.finish.2.journal w) :=
  ⟨inferInstance, synthesize_forgets busy idle german Rehearsal.Probe.quiet⟩

end Service

end SpeechHost
