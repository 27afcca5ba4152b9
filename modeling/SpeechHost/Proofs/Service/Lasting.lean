import SpeechHost.Proofs.Engine.Scratch
import SpeechHost.Proofs.Engine.Unset
import SpeechHost.Proofs.Service.Lifecycle
/-!
# What lasts of a service

No request changes what lasts of the engine of a service (`CommandEngine.unset`), and a creation brings up
the same engine each time in the same file tree. So whatever session there is after some operations is as a
creation would bring it up, but for what does not last (`LikeNew.run`).

Only speech has to do with the file tree, and where programs are tidy and sinks are harmless it leaves the
file tree as it was (`undisturbed_of_tidy`).
-/

namespace SpeechHost

open SpeechHost.Audio SpeechHost.Storage

variable {σ : Type} [AudioSink σ]

/-- A request that has nothing to do with the world, and that leaves what `f` shows of a state as it was. -/
def Request.Keeps {ε κ α : Type} (f : ε → κ) (ask : Request ε α) : Prop :=
  ∀ e w, f (ask e w).2.1 = f e ∧ (ask e w).2.2 = w

namespace CommandEngine

theorem keeps_ask (r : SpeechRequest) (k : Setting) : Request.Keeps unset (r.ask k) := by
  intro e w
  rw [ask_eq]
  cases h : change w.disk r e k with
  | error x => exact ⟨rfl, rfl⟩
  | ok f => exact ⟨unset_change h, rfl⟩

theorem keeps_stop : Request.Keeps unset (SpeechEngine.stop : Request CommandEngine _) :=
  fun _ _ => ⟨unset_withPlayback rfl, rfl⟩

theorem unset_accept (text : String) (e : CommandEngine) (w : World) :
    (SpeechEngine.accept text e w).1.unset = e.unset :=
  have hshelf : e.playback.begin.shelf = e.playback.shelf := rfl
  unset_withPlayback hshelf

end CommandEngine

namespace Session

/-- What lasts of a session. -/
def lasting (s : Session CommandEngine) : Bool × CommandEngine :=
  (s.released, s.engine.unset)

theorem keeps_request {α : Type} {ask : Request CommandEngine α} (h : Request.Keeps CommandEngine.unset ask)
    (released : α) : Request.Keeps lasting (Session.request released ask) := by
  intro s w
  cases hs : s.released with
  | true => simp [Session.request, hs]
  | false => simp [Session.request, hs, lasting, h s.engine w]

theorem keeps_tell (r : SpeechRequest) (k : Setting) : Request.Keeps lasting (r.tell k) := by
  rw [SpeechRequest.tell_eq]
  exact keeps_request (CommandEngine.keeps_ask r k) _

theorem keeps_enterSpeech (text : String) : Request.Keeps lasting (Session.enterSpeech text) :=
  keeps_request (fun e w => ⟨CommandEngine.unset_accept text e w, rfl⟩) _

end Session

namespace Service

variable {identifier : String} {config : Option String} {v : Service CommandEngine} {w : World}

def lasting (v : Service CommandEngine) : String × Option (Bool × CommandEngine) :=
  (v.identifier, v.session.map Session.lasting)

/-! ## Requests -/

theorem keeps_request {α : Type} {ask : Request (Session CommandEngine) α}
    (h : Request.Keeps Session.lasting ask) (absent : α) : Request.Keeps lasting (request absent ask) := by
  intro v w
  cases hs : v.session with
  | none => simp [request, hs]
  | some s => simp [request, hs, lasting, h s w]

theorem keeps_inTurn {asks : List (Request (Session CommandEngine) (Except EngineError Unit))}
    (h : ∀ ask ∈ asks, Request.Keeps Session.lasting ask) :
    Request.Keeps Session.lasting (inTurn asks) := by
  induction asks with
  | nil => exact fun _ _ => ⟨rfl, rfl⟩
  | cons ask asks ih =>
    intro s w
    obtain ⟨hask, hworld⟩ := h ask List.mem_cons_self s w
    rcases hcall : ask s w with ⟨e | _, s', w'⟩
    all_goals
      rw [hcall] at hask hworld
      obtain rfl : w' = w := hworld
    · simpa [inTurn, hcall] using hask
    · obtain ⟨hasks, hworlds⟩ := ih (fun ask' hmem => h ask' (List.mem_cons_of_mem _ hmem)) s' w'
      simp only [inTurn, hcall]
      exact ⟨hasks.trans hask, hworlds⟩

theorem keeps_loadLanguage (l : Locale) :
    Request.Keeps lasting (loadLanguage l : Request (Service CommandEngine) _) := by
  refine keeps_request (fun s w => ?_) _
  have havailable :
      Request.Keeps Session.lasting (Session.availability l : Request (Session CommandEngine) _) :=
    Session.keeps_request (fun _ _ => ⟨rfl, rfl⟩) _
  have hset : Request.Keeps Session.lasting (Session.setLanguage l) :=
    Session.keeps_tell ⟨"", l, 0, 0⟩ .language
  obtain ⟨hfirst, hworld⟩ := havailable s w
  rcases hcall : s.availability l w with ⟨level, s', w'⟩
  rw [hcall] at hfirst hworld
  obtain rfl : w' = w := hworld
  cases hlevel : level.isAvailable with
  | false => simpa [hcall, hlevel] using hfirst
  | true =>
    obtain ⟨hsecond, hworld'⟩ := hset s' w'
    rcases hcall' : s'.setLanguage l w' with ⟨e | _, s'', w''⟩
    all_goals
      rw [hcall'] at hsecond hworld'
      simpa [hcall, hlevel, hcall'] using And.intro (hsecond.trans hfirst) hworld'

theorem keeps_enterSpeech (r : SpeechRequest) :
    Request.Keeps lasting (enterSpeech r : Request (Service CommandEngine) _) := by
  refine keeps_request (keeps_inTurn fun ask hask => ?_) _
  simp only [List.mem_cons, List.not_mem_nil, or_false] at hask
  rcases hask with rfl | rfl | rfl | rfl
  · exact Session.keeps_tell r .language
  · exact Session.keeps_tell r .rate
  · exact Session.keeps_tell r .pitch
  · exact Session.keeps_enterSpeech r.text

theorem lasting_finishSpeech (r : SpeechRequest) (out : σ) (v : Service CommandEngine) (w : World) :
    (v.finishSpeech r out w).2.2.1.lasting = v.lasting := by
  cases hs : v.session with
  | none => simp [finishSpeech, hs]
  | some s =>
    simp [finishSpeech, hs, lasting, Session.lasting, Session.finishSpeech, CommandEngine.unset_utter]

theorem lasting_synthesize (r : SpeechRequest) (out : σ) (v : Service CommandEngine) (w : World) :
    (v.synthesize r out w).2.2.1.lasting = v.lasting := by
  obtain ⟨hentered, -⟩ := keeps_enterSpeech r v w
  rcases hcall : v.enterSpeech r w with ⟨e | _, v', w'⟩
  all_goals rw [hcall] at hentered
  · simpa [synthesize, hcall] using hentered
  · simpa [synthesize, hcall] using (lasting_finishSpeech r out v' w').trans hentered

/-! ## Creations -/

theorem destroy_command (v : Service CommandEngine) (w : World) :
    v.destroy w = ({ v with session := none }, w) := by
  obtain ⟨identifier, config, session⟩ := v
  cases session with
  | none => rfl
  | some s =>
    cases hs : s.released with
    | true => simp [destroy, beginRelease, endRelease, Session.beginShutdown, hs]
    | false =>
      simp [destroy, beginRelease, endRelease, Session.beginShutdown, Session.endShutdown, hs,
        SpeechEngine.stop, SpeechEngine.shutdown]

/-- The session that comes up in a world, if one does. -/
def opened (identifier : String) (config : Option String) (w : World) :
    Except ConfigurationError (Session CommandEngine) := do
  let e ← CommandEngine.load w identifier (config.getD "")
  match e.configure (.forEngine identifier) with
  | (.ok (), e) => return ⟨identifier, .forEngine identifier, e, false⟩
  | (.error x, _) => throw (.filterRejected x.message)

theorem open?_command (identifier : String) (config : Option String) (w : World) :
    Session.open? CommandEngine.loader identifier (config.getD "") w = (opened identifier config w, w) := by
  cases hload : CommandEngine.load w identifier (config.getD "") with
  | error x => simp [Session.open?, opened, CommandEngine.loader, hload]
  | ok e =>
    rcases hconfigure : e.configure (.forEngine identifier) with ⟨x | _, e'⟩
    all_goals
      simp [Session.open?, opened, CommandEngine.loader, hload, FilterSpec.applyTo,
        SpeechEngine.configure, hconfigure, SpeechEngine.shutdown]

theorem released_opened {s : Session CommandEngine} (h : opened identifier config w = .ok s) :
    s.released = false := by
  obtain ⟨e, -, h⟩ := bind_ok h
  split at h
  · rw [← Except.ok.inj h]
  · contradiction

theorem opened_congr {w' : World} (h : w'.ground = w.ground) (identifier : String) (config : Option String) :
    opened identifier config w' = opened identifier config w := by
  obtain ⟨disk, searchPath, journal⟩ := w
  obtain ⟨disk', searchPath', journal'⟩ := w'
  obtain ⟨rfl, rfl⟩ : disk' = disk ∧ searchPath' = searchPath := by simpa [World.ground] using h
  rfl

/-! ## Operations -/

/-- The session of a service, if there is one, is as a creation would bring it up, but for what does not
last. -/
def LikeNew (identifier : String) (config : Option String) (w : World) (v : Service CommandEngine) : Prop :=
  v.identifier = identifier ∧ ∀ s, v.session = some s →
    ∃ s₀, opened identifier config w = .ok s₀ ∧ s.lasting = s₀.lasting

theorem LikeNew.of_lasting {v' : Service CommandEngine} (h : LikeNew identifier config w v)
    (hv : v'.lasting = v.lasting) : LikeNew identifier config w v' := by
  obtain ⟨hidentifier, hsession⟩ := h
  simp only [lasting, Prod.mk.injEq] at hv
  refine ⟨hv.1.trans hidentifier, fun s' hs' => ?_⟩
  have hmap : v.session.map Session.lasting = some s'.lasting := by
    rw [← hv.2, hs', Option.map_some]
  obtain ⟨s, hs, heq⟩ := Option.map_eq_some_iff.1 hmap
  obtain ⟨s₀, hopened, hlasting⟩ := hsession s hs
  exact ⟨s₀, hopened, heq.symm.trans hlasting⟩

theorem perform_create (v : Service CommandEngine) (w : World) (config : Option String) :
    perform CommandEngine.loader v w (.create config : Operation σ) =
      match opened v.identifier config w with
      | .error _ => (⟨v.identifier, config, none⟩, w)
      | .ok s => (⟨v.identifier, config, some s⟩, w) := by
  cases hopened : opened v.identifier config w with
  | error x => simp [perform, createWith, create, destroy_command, openSession, open?_command, hopened]
  | ok s => simp [perform, createWith, create, destroy_command, openSession, open?_command, hopened]

theorem LikeNew.perform (h : LikeNew identifier config w v) {op : Operation σ}
    (hconfig : ∀ c, op = .create c → c = config) :
    LikeNew identifier config w (perform CommandEngine.loader v w op).1 := by
  cases op with
  | create c =>
    obtain rfl := hconfig c rfl
    rw [perform_create, h.1]
    cases hopened : opened identifier c w with
    | error x => exact ⟨rfl, by simp⟩
    | ok s => exact ⟨rfl, fun s' hs' => ⟨s, hopened, by rw [Option.some.inj hs']⟩⟩
  | destroy =>
    simp only [Service.perform, destroy_command]
    exact ⟨h.1, by simp⟩
  | language =>
    exact h.of_lasting (keeps_request (Session.keeps_request (fun _ _ => ⟨rfl, rfl⟩) _) _ v w).1
  | availability l =>
    exact h.of_lasting (keeps_request (Session.keeps_request (fun _ _ => ⟨rfl, rfl⟩) _) _ v w).1
  | loadLanguage l => exact h.of_lasting (keeps_loadLanguage l v w).1
  | stop => exact h.of_lasting (keeps_request (Session.keeps_request CommandEngine.keeps_stop _) _ v w).1
  | synthesize r out => exact h.of_lasting (lasting_synthesize r out v w)

/-- A platform finds this file tree and this search path before the first operation, between any two and
after the last. -/
def Undisturbed (disk : Disk) (searchPath : Option String) :
    Service CommandEngine → World → List (Operation σ) → Prop
  | _, w, [] => w.ground = (disk, searchPath)
  | v, w, op :: ops =>
    w.ground = (disk, searchPath) ∧
      Undisturbed disk searchPath (perform CommandEngine.loader v w op).1
        (perform CommandEngine.loader v w op).2 ops

variable {disk : Disk} {searchPath : Option String}

/-- Operations in an undisturbed world bring up no other session than the first one of them would. -/
theorem LikeNew.run {ops : List (Operation σ)} (h : LikeNew identifier config ⟨disk, searchPath, []⟩ v)
    (hconfig : ∀ c, .create c ∈ ops → c = config) (hu : Undisturbed disk searchPath v w ops) :
    LikeNew identifier config ⟨disk, searchPath, []⟩ (run CommandEngine.loader v w ops).1 ∧
      (run CommandEngine.loader v w ops).2.ground = (disk, searchPath) := by
  induction ops generalizing v w with
  | nil => exact ⟨h, hu⟩
  | cons op ops ih =>
    obtain ⟨hground, hrest⟩ := hu
    have hcongr := opened_congr (w := ⟨disk, searchPath, []⟩) hground identifier config
    have hthere : LikeNew identifier config w v := by rwa [LikeNew, hcongr]
    have hperform := hthere.perform fun c hop => hconfig c (hop ▸ List.mem_cons_self)
    rw [LikeNew, hcongr] at hperform
    exact ih hperform (fun c hc => hconfig c (List.mem_cons_of_mem _ hc)) hrest

/-! ## Tidy programs and harmless sinks -/

section Tidy

variable [Harmless σ]

theorem ground_finishSpeech (r : SpeechRequest) (out : σ) (v : Service CommandEngine) (h : w.disk.Tidy) :
    (v.finishSpeech r out w).2.2.2.ground = w.ground := by
  cases hs : v.session with
  | none => simp [finishSpeech, hs]
  | some s =>
    simp only [finishSpeech, hs, Session.finishSpeech]
    exact s.engine.ground_utter r.text out h

theorem ground_report (result : Except EngineError Unit) (out : σ) (w : World) :
    (report result out w).2.ground = w.ground := by
  cases result with
  | ok => rfl
  | error e => exact Harmless.error out w

theorem ground_synthesize (r : SpeechRequest) (out : σ) (v : Service CommandEngine) (h : w.disk.Tidy) :
    (v.synthesize r out w).2.2.2.ground = w.ground := by
  obtain ⟨-, hworld⟩ := keeps_enterSpeech r v w
  rcases hcall : v.enterSpeech r w with ⟨e | _, v', w'⟩
  all_goals
    rw [hcall] at hworld
    obtain rfl : w' = w := hworld
  · simp [synthesize, hcall, ground_report]
  · simp [synthesize, hcall, ground_report, ground_finishSpeech r out v' h]

theorem ground_perform (v : Service CommandEngine) (op : Operation σ) (h : w.disk.Tidy) :
    (perform CommandEngine.loader v w op).2.ground = w.ground := by
  cases op with
  | create c =>
    rw [perform_create]
    cases opened v.identifier c w <;> rfl
  | destroy => simp [perform, destroy_command]
  | language =>
    exact congrArg _ (keeps_request (Session.keeps_request (fun _ _ => ⟨rfl, rfl⟩) _) _ v w).2
  | availability l =>
    exact congrArg _ (keeps_request (Session.keeps_request (fun _ _ => ⟨rfl, rfl⟩) _) _ v w).2
  | loadLanguage l => exact congrArg _ (keeps_loadLanguage l v w).2
  | stop => exact congrArg _ (keeps_request (Session.keeps_request CommandEngine.keeps_stop _) _ v w).2
  | synthesize r out => exact ground_synthesize r out v h

/-- Tidy programs and harmless sinks disturb nothing, whatever is asked of a service. -/
theorem undisturbed_of_tidy (h : disk.Tidy) (hground : w.ground = (disk, searchPath))
    (v : Service CommandEngine) (ops : List (Operation σ)) : Undisturbed disk searchPath v w ops := by
  induction ops generalizing v w with
  | nil => exact hground
  | cons op ops ih =>
    have hdisk : w.disk = disk := congrArg Prod.fst hground
    have htidy : w.disk.Tidy := by rwa [hdisk]
    exact ⟨hground, ih ((ground_perform v op htidy).trans hground) _⟩

end Tidy

end Service

end SpeechHost
