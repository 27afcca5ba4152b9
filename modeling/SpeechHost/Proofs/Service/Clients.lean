import Mathlib.Logic.Function.Basic
import Mathlib.Tactic.SplitIfs
import SpeechHost.Service
/-!
# Clients of one session

A request of the service is made in four calls on the session: it chooses a language, a rate and a
pitch, and then it speaks. Each call is made at once, but the calls of several clients may come in any
order. `Shared.step` is the next call of a client, and a client that is alone does what the service
does (`run_alone`).

What an engine was told last counts. `TunedEngine` says that its three settings can be read, that a call
which succeeds sets one of them, and that nothing else does.
-/

namespace SpeechHost

open SpeechHost.Audio

/-- What a request sets before it speaks. -/
inductive Setting where
  | language
  | rate
  | pitch
  deriving DecidableEq

/-- How far a client has come. -/
inductive RequestStage where
  | sets (k : Setting)
  | speaks
  | ended (r : Except EngineError Unit)

def Setting.next : Setting → RequestStage
  | language => .sets .rate
  | rate => .sets .pitch
  | pitch => .speaks

variable {ε σ ι : Type} [SpeechEngine ε] [AudioSink σ] [DecidableEq ι]

namespace SpeechRequest

def ask (r : SpeechRequest) : Setting → Request ε (Except EngineError Unit)
  | .language => SpeechEngine.setLanguage r.locale
  | .rate => SpeechEngine.setProperty "rate" (toString r.rate)
  | .pitch => SpeechEngine.setProperty "pitch" (toString r.pitch)

/-- Makes one setting of a request. -/
def tell (r : SpeechRequest) : Setting → Request (Session ε) (Except EngineError Unit)
  | .language => Session.setLanguage r.locale
  | .rate => Session.setRate r.rate
  | .pitch => Session.setPitch r.pitch

theorem tell_eq (r : SpeechRequest) (k : Setting) :
    (r.tell k : Request (Session ε) _) = Session.request (.error .released) (r.ask k) := by
  cases k <;> rfl

end SpeechRequest

/-- An engine whose settings can be read. -/
class TunedEngine (ε : Type) [SpeechEngine ε] where
  Reading : Type
  read : Setting → ε → Reading
  /-- What a setting is when the call of a request has succeeded. -/
  meant : Setting → ε → SpeechRequest → Reading
  read_ask : ∀ (r : SpeechRequest) (k k' : Setting) (e : ε) (w : World),
    read k' (r.ask k e w).2.1 = if (r.ask k e w).1.isOk ∧ k' = k then meant k e r else read k' e
  meant_ask : ∀ (r r' : SpeechRequest) (k k' : Setting) (e : ε) (w : World),
    meant k' (r.ask k e w).2.1 r' = meant k' e r'
  read_synthesize : ∀ {σ : Type} [AudioSink σ] (k : Setting) (text : String) (s : σ) (e : ε)
    (w : World), read k (SpeechEngine.synthesize text s e w).2.2.1 = read k e
  meant_synthesize : ∀ {σ : Type} [AudioSink σ] (k : Setting) (r : SpeechRequest) (text : String)
    (s : σ) (e : ε) (w : World),
    meant k (SpeechEngine.synthesize text s e w).2.2.1 r = meant k e r

structure Client (σ : Type) where
  request : SpeechRequest
  out : σ
  stage : RequestStage

structure Shared (ε σ ι : Type) where
  session : Session ε
  world : World
  clients : ι → Client σ

namespace Shared

/-- The next call of a client. One that fails is the last, and the sink hears of it. -/
def step (f : Shared ε σ ι) (i : ι) : Shared ε σ ι :=
  let c := f.clients i
  match c.stage with
  | .sets k =>
    match c.request.tell k f.session f.world with
    | (.ok (), session, world) =>
      ⟨session, world, Function.update f.clients i { c with stage := k.next }⟩
    | (.error e, session, world) =>
      let (out, world) := Service.report (.error e) c.out world
      ⟨session, world, Function.update f.clients i ⟨c.request, out, .ended (.error e)⟩⟩
  | .speaks =>
    let (r, out, session, world) := f.session.speak c.request.text c.out f.world
    let (out, world) := Service.report r out world
    ⟨session, world, Function.update f.clients i ⟨c.request, out, .ended r⟩⟩
  | .ended _ => f

def run (f : Shared ε σ ι) (is : List ι) : Shared ε σ ι :=
  is.foldl step f

@[simp] theorem run_nil (f : Shared ε σ ι) : f.run [] = f := rfl

@[simp] theorem run_cons (f : Shared ε σ ι) (i : ι) (is : List ι) :
    f.run (i :: is) = (f.step i).run is := rfl

/-! ## What a call does -/

def makes (f : Shared ε σ ι) (k : Setting) (i : ι) : Bool :=
  match (f.clients i).stage with
  | .sets k' => k' == k && ((f.clients i).request.tell k' f.session f.world).1.isOk
  | _ => false

theorem step_sets_ok {f : Shared ε σ ι} {i : ι} {k : Setting} {s : Session ε} {w : World}
    (hk : (f.clients i).stage = .sets k)
    (h : (f.clients i).request.tell k f.session f.world = (.ok (), s, w)) :
    f.step i = ⟨s, w, Function.update f.clients i { f.clients i with stage := k.next }⟩ := by
  simp [step, hk, h]

theorem step_sets_error {f : Shared ε σ ι} {i : ι} {k : Setting} {e : EngineError} {s : Session ε}
    {w : World} (hk : (f.clients i).stage = .sets k)
    (h : (f.clients i).request.tell k f.session f.world = (.error e, s, w)) :
    f.step i =
      ⟨s, (Service.report (.error e) (f.clients i).out w).2, Function.update f.clients i
        ⟨(f.clients i).request, (Service.report (.error e) (f.clients i).out w).1,
          .ended (.error e)⟩⟩ := by
  simp [step, hk, h]

theorem step_speaks {f : Shared ε σ ι} {i : ι} {r : Except EngineError Unit} {out : σ}
    {s : Session ε} {w : World} (hk : (f.clients i).stage = .speaks)
    (h : f.session.speak (f.clients i).request.text (f.clients i).out f.world = (r, out, s, w)) :
    f.step i =
      ⟨s, (Service.report r out w).2, Function.update f.clients i
        ⟨(f.clients i).request, (Service.report r out w).1, .ended r⟩⟩ := by
  simp [step, hk, h]

theorem step_ended {f : Shared ε σ ι} {i : ι} {r : Except EngineError Unit}
    (hk : (f.clients i).stage = .ended r) : f.step i = f := by
  simp [step, hk]

theorem clients_step_of_ne (f : Shared ε σ ι) {i j : ι} (h : j ≠ i) :
    (f.step i).clients j = f.clients j := by
  cases hk : (f.clients i).stage with
  | sets k =>
    rcases hcall : (f.clients i).request.tell k f.session f.world with ⟨e | _, s, w⟩
    · rw [step_sets_error hk hcall]
      exact Function.update_of_ne h ..
    · rw [step_sets_ok hk hcall]
      exact Function.update_of_ne h ..
  | speaks =>
    rcases hcall : f.session.speak (f.clients i).request.text (f.clients i).out f.world
      with ⟨r, out, s, w⟩
    rw [step_speaks hk hcall]
    exact Function.update_of_ne h ..
  | ended r => rw [step_ended hk]

theorem request_step (f : Shared ε σ ι) (i j : ι) :
    ((f.step i).clients j).request = (f.clients j).request := by
  rcases eq_or_ne j i with rfl | h
  case inr => rw [clients_step_of_ne f h]
  cases hk : (f.clients j).stage with
  | sets k =>
    rcases hcall : (f.clients j).request.tell k f.session f.world with ⟨e | _, s, w⟩
    · simp [step_sets_error hk hcall]
    · simp [step_sets_ok hk hcall]
  | speaks =>
    rcases hcall : f.session.speak (f.clients j).request.text (f.clients j).out f.world
      with ⟨r, out, s, w⟩
    simp [step_speaks hk hcall]
  | ended r => rw [step_ended hk]

/-! ## A client that is alone -/

theorem run_ended {f : Shared ε σ ι} {i : ι} {r : Except EngineError Unit}
    (h : (f.clients i).stage = .ended r) {is : List ι} (his : ∀ j ∈ is, j = i) : f.run is = f := by
  induction is with
  | nil => rfl
  | cons j is ih =>
    obtain rfl := his j (by simp)
    rw [run_cons, step_ended h]
    exact ih fun j hj => his j (by simp [hj])

/-- The settings of a request that are left, and its speech, one after the other. -/
def finish (r : SpeechRequest) (out : σ) : List Setting → Session ε → World →
    Except EngineError Unit × σ × Session ε × World
  | [], s, w => s.speak r.text out w
  | k :: ks, s, w =>
    match r.tell k s w with
    | (.error e, s, w) => (.error e, out, s, w)
    | (.ok (), s, w) => finish r out ks s w

/-- What a request leaves behind when it is over. -/
def close (f : Shared ε σ ι) (i : ι) (r : SpeechRequest)
    (a : Except EngineError Unit × σ × Session ε × World) : Shared ε σ ι :=
  ⟨a.2.2.1, (Service.report a.1 a.2.1 a.2.2.2).2,
    Function.update f.clients i ⟨r, (Service.report a.1 a.2.1 a.2.2.2).1, .ended a.1⟩⟩

variable {f : Shared ε σ ι} {i : ι} {r : SpeechRequest} {out : σ} {k : Setting}

theorem run_speaks (h : f.clients i = ⟨r, out, .speaks⟩) :
    f.run [i] = f.close i r (finish r out [] f.session f.world) := by
  rw [run_cons, run_nil, step_speaks (by rw [h]) rfl, h]
  rfl

theorem run_sets (h : f.clients i = ⟨r, out, .sets k⟩) {ks : List Setting} {is : List ι}
    (his : ∀ j ∈ is, j = i)
    (hrest : ∀ g : Shared ε σ ι, g.clients i = ⟨r, out, k.next⟩ →
      g.run is = g.close i r (finish r out ks g.session g.world)) :
    f.run (i :: is) = f.close i r (finish r out (k :: ks) f.session f.world) := by
  have hstage : (f.clients i).stage = .sets k := by rw [h]
  rw [finish]
  rcases hcall : r.tell k f.session f.world with ⟨e | _, s, w⟩
  · have hcall' : (f.clients i).request.tell k f.session f.world = (.error e, s, w) := by
      rw [h]
      exact hcall
    rw [run_cons, step_sets_error hstage hcall', run_ended (r := .error e) (by simp) his, h]
    rfl
  · have hcall' : (f.clients i).request.tell k f.session f.world = (.ok (), s, w) := by
      rw [h]
      exact hcall
    rw [run_cons, step_sets_ok hstage hcall', h, hrest _ (by simp)]
    simp [close]

theorem finish_eq (ks : List Setting) (s : Session ε) (w : World) :
    finish r out ks s w =
      match Service.inTurn (ks.map r.tell ++ [Session.enterSpeech r.text]) s w with
      | (.ok (), s, w) => s.finishSpeech r.text out w
      | (.error e, s, w) => (.error e, out, s, w) := by
  induction ks generalizing s w with
  | nil =>
    rcases henter : s.enterSpeech r.text w with ⟨e | _, s', w'⟩
    · simp [finish, Session.speak, Service.inTurn, henter]
    · simp [finish, Session.speak, Service.inTurn, henter]
  | cons k ks ih =>
    rcases hcall : r.tell k s w with ⟨e | _, s', w'⟩
    · simp [finish, Service.inTurn, hcall]
    · simp [finish, Service.inTurn, hcall, ih]

theorem synthesize_eq (s : Session ε) (w : World) (identifier : String) (config : Option String) :
    Service.synthesize r out ⟨identifier, config, some s⟩ w =
      let a := finish r out [.language, .rate, .pitch] s w
      (a.1, (Service.report a.1 a.2.1 a.2.2.2).1, ⟨identifier, config, some a.2.2.1⟩,
        (Service.report a.1 a.2.1 a.2.2.2).2) := by
  have henter : Service.enterSpeech r ⟨identifier, config, some s⟩ w =
      let a := Service.inTurn
        ([Setting.language, .rate, .pitch].map r.tell ++ [Session.enterSpeech r.text]) s w
      (a.1, ⟨identifier, config, some a.2.1⟩, a.2.2) := rfl
  rw [finish_eq]
  generalize Service.inTurn ([Setting.language, .rate, .pitch].map r.tell ++
    [Session.enterSpeech r.text]) s w = a at henter ⊢
  rcases a with ⟨e | _, s', w'⟩
  · simp [Service.synthesize, henter]
  · simp [Service.synthesize, henter, Service.finishSpeech]

/-- A request whose calls follow one another is spoken as by the service. -/
theorem run_alone (h : f.clients i = ⟨r, out, .sets .language⟩) (identifier : String)
    (config : Option String) :
    ∃ x, ((f.run [i, i, i, i]).clients i).stage = .ended x ∧
      Service.synthesize r out ⟨identifier, config, some f.session⟩ f.world =
        (x, ((f.run [i, i, i, i]).clients i).out,
          ⟨identifier, config, some (f.run [i, i, i, i]).session⟩, (f.run [i, i, i, i]).world) := by
  have hrun : f.run [i, i, i, i] =
      f.close i r (finish r out [.language, .rate, .pitch] f.session f.world) :=
    run_sets h (by simp) fun g hg =>
      run_sets hg (by simp) fun g hg =>
        run_sets hg (by simp) fun g hg => run_speaks hg
  rw [hrun, synthesize_eq]
  refine ⟨(finish r out [.language, .rate, .pitch] f.session f.world).1, ?_, ?_⟩
  · simp [close]
  · simp [close]

end Shared

end SpeechHost
