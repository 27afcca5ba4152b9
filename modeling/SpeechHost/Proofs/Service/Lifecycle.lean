import SpeechHost.Proofs.Session.Calls
import SpeechHost.Rehearsal.Engine
import SpeechHost.Rehearsal.Sink
import SpeechHost.Service
/-!
# The lives of the engines of a service

Whatever is asked of a service, one after the other: an engine that was loaded goes through its whole life
before the next one comes, and the engine of a session is in the middle of its own (`Standing`). So at most
one engine has not been let go at any time, and the last one is let go when the service goes away
(`engine_lifecycle`).

What was done is written down as a list of deeds. It is what the engines themselves remember, when they
remember anything (`questions_of_made`).
-/

namespace SpeechHost

open SpeechHost.Audio

variable {ε : Type} [SpeechEngine ε] {σ : Type} [AudioSink σ]

/-! ## Deeds -/

/-- The engines that were loaded, in order and as they are now, and the world. -/
structure Hall (ε : Type) where
  engines : List ε
  world : World

/-- What is done with engines. -/
inductive Deed where
  /-- An engine was loaded. It has the next number. -/
  | load
  /-- A question to the engine with a number. -/
  | ask (n : Nat) (q : Question)

/-- What was done, from one state of things to another. Loads that fail and sinks that hear of a failure
are no deeds. -/
inductive Made (σ : Type) [AudioSink σ] (loader : Loader ε) :
    Hall ε → List Deed → Hall ε → Prop where
  | done (h) : Made σ loader h [] h
  | load {identifier config w e w' es ds h} (hload : loader identifier config w = (.ok e, w'))
      (rest : Made σ loader ⟨es ++ [e], w'⟩ ds h) : Made σ loader ⟨es, w⟩ (.load :: ds) h
  | loadFails {identifier config w x w' es ds h}
      (hload : loader identifier config w = (.error x, w')) (rest : Made σ loader ⟨es, w'⟩ ds h) :
      Made σ loader ⟨es, w⟩ ds h
  | ask {es : List ε} {n e q w e' w' ds h} (hn : es[n]? = some e) (hask : Asks σ q e w e' w')
      (rest : Made σ loader ⟨es.set n e', w'⟩ ds h) : Made σ loader ⟨es, w⟩ (.ask n q :: ds) h
  | hear {es ds h w} (out : σ)
      (rest : Made σ loader ⟨es, (AudioSink.error out w).2⟩ ds h) : Made σ loader ⟨es, w⟩ ds h

def loads : List Deed → Nat
  | [] => 0
  | .load :: ds => loads ds + 1
  | .ask _ _ :: ds => loads ds

def questionsTo (n : Nat) : List Deed → List Question
  | [] => []
  | .load :: ds => questionsTo n ds
  | .ask m q :: ds => if m = n then q :: questionsTo n ds else questionsTo n ds

/-- The engine with a number was loaded and not let go. -/
def Alive (ds : List Deed) (n : Nat) : Prop :=
  n < loads ds ∧ ∀ granted, ⟨.shutdown, granted⟩ ∉ questionsTo n ds

section Deeds

variable {loader : Loader ε} {h h' h'' : Hall ε} {ds ds' : List Deed}

theorem Made.trans (hd : Made σ loader h ds h') (hd' : Made σ loader h' ds' h'') :
    Made σ loader h (ds ++ ds') h'' := by
  induction hd with
  | done => exact hd'
  | load hload _ ih => exact .load hload (ih hd')
  | loadFails hload _ ih => exact .loadFails hload (ih hd')
  | ask hn hask _ ih => exact .ask hn hask (ih hd')
  | hear out _ ih => exact .hear out (ih hd')

theorem Serves.made {qs : List Question} {e e' : ε} {w w' : World} (hs : Serves σ qs e w e' w')
    (loader : Loader ε) (gone : List ε) :
    Made σ loader ⟨gone ++ [e], w⟩ (qs.map (.ask gone.length)) ⟨gone ++ [e'], w'⟩ := by
  induction hs with
  | nil => exact .done _
  | @cons q qs e e₁ e' w w₁ w' hask _ ih =>
    have hlast : (gone ++ [e])[gone.length]? = some e := by simp
    have hset : (gone ++ [e]).set gone.length e₁ = gone ++ [e₁] := by simp
    exact .ask hlast hask (hset ▸ ih)

@[simp] theorem loads_append (ds ds' : List Deed) : loads (ds ++ ds') = loads ds + loads ds' := by
  induction ds with
  | nil => simp [loads]
  | cons d ds ih =>
    cases d with
    | load => simp only [List.cons_append, loads, ih]; omega
    | ask => simp only [List.cons_append, loads, ih]

@[simp] theorem loads_map_ask (n : Nat) (qs : List Question) : loads (qs.map (.ask n)) = 0 := by
  induction qs with
  | nil => rfl
  | cons q qs ih => exact ih

@[simp] theorem questionsTo_append (n : Nat) (ds ds' : List Deed) :
    questionsTo n (ds ++ ds') = questionsTo n ds ++ questionsTo n ds' := by
  induction ds with
  | nil => rfl
  | cons d ds ih =>
    cases d with
    | load => exact ih
    | ask m q =>
      simp only [List.cons_append, questionsTo, ih]
      split <;> rfl

@[simp] theorem questionsTo_map_self (n : Nat) (qs : List Question) :
    questionsTo n (qs.map (.ask n)) = qs := by
  induction qs with
  | nil => rfl
  | cons q qs ih => simp [questionsTo, ih]

theorem questionsTo_map_of_ne {m n : Nat} (hne : m ≠ n) (qs : List Question) :
    questionsTo n (qs.map (.ask m)) = [] := by
  induction qs with
  | nil => rfl
  | cons q qs ih => simp [questionsTo, hne, ih]

/-- Engines that remember what they were asked remember what was written down. -/
theorem questions_of_made {loader : Loader (Recorder ε)}
    (hnew : ∀ {identifier config w e w'}, loader identifier config w = (.ok e, w') → e.questions = [])
    {h h' : Hall (Recorder ε)} (hd : Made σ loader h ds h') {n : Nat} {e : Recorder ε}
    (he : h'.engines[n]? = some e) :
    e.questions = (h.engines[n]?.elim [] (·.questions)) ++ questionsTo n ds := by
  induction hd with
  | done => simp [he, questionsTo]
  | @load _ _ _ e' _ es _ _ hload _ ih =>
    rw [ih he]
    simp only [questionsTo]
    rcases Nat.lt_trichotomy n es.length with hn | rfl | hn
    · rw [List.getElem?_append_left hn]
    · simp [hnew hload]
    · have hbefore : es[n]? = none := List.getElem?_eq_none (by omega)
      have hafter : (es ++ [e'])[n]? = none := List.getElem?_eq_none (by simp; omega)
      rw [hbefore, hafter]
  | loadFails _ _ ih => exact ih he
  | @ask es m e₁ q w e₂ w' ds h hm hask _ ih =>
    rw [ih he]
    by_cases hn : m = n
    · subst hn
      have hlt : m < es.length := (List.getElem?_eq_some_iff.1 hm).1
      have hset : (es.set m e₂)[m]? = some e₂ := by simp [hlt]
      simp [questionsTo, hm, hset, Recorder.questions_asks hask]
    · simp [questionsTo, hn]
  | hear _ _ ih => exact ih he

end Deeds

/-! ## Operations -/

namespace Service

/-- What a platform asks of a service. What the engine is to be configured with is found out anew for
every creation. A service that is dropped is destroyed. -/
inductive Operation (σ : Type) where
  | create (config : Option String)
  | destroy
  | language
  | availability (l : Locale)
  | loadLanguage (l : Locale)
  | stop
  | synthesize (r : SpeechRequest) (out : σ)

/-- Whether a session may come of an operation. -/
def Operation.Creates : Operation σ → Prop
  | .create _ => True
  | _ => False

/-- Brings up a new session with what the engine is configured with now. -/
def createWith (config : Option String) (loader : Loader ε) (v : Service ε) (w : World) :
    Except ConfigurationError Unit × Service ε × World :=
  create loader { v with config } w

def perform (loader : Loader ε) (v : Service ε) (w : World) : Operation σ → Service ε × World
  | .create config => (v.createWith config loader w).2
  | .destroy => v.destroy w
  | .language => (v.language w).2
  | .availability l => (v.availability l w).2
  | .loadLanguage l => (v.loadLanguage l w).2
  | .stop => (v.stop w).2
  | .synthesize r out => (v.synthesize r out w).2.2

def run (loader : Loader ε) (v : Service ε) (w : World) (ops : List (Operation σ)) : Service ε × World :=
  ops.foldl (fun d op => perform loader d.1 d.2 op) (v, w)

/-- A sink heard of a failure, or nothing happened. -/
inductive Heard (σ : Type) [AudioSink σ] : World → World → Prop where
  | nothing (w) : Heard σ w w
  | error (out : σ) (w) : Heard σ w (AudioSink.error out w).2

section Operations

variable {loader : Loader ε} {v : Service ε} {w : World} {op : Operation σ}

theorem heard_report (result : Except EngineError Unit) (out : σ) (w : World) :
    Heard σ w (report result out w).2 := by
  cases result with
  | ok => exact .nothing w
  | error => exact .error out w

variable (loader) in
theorem perform_absent (w : World) (h : v.session = none) (hop : ¬ op.Creates) :
    (perform loader v w op).1 = v ∧ Heard σ w (perform loader v w op).2 := by
  cases op with
  | create => exact absurd trivial hop
  | destroy =>
    have hdestroy : v.destroy w = (v, w) := by simp [destroy, beginRelease, endRelease, h]
    simp only [perform, hdestroy]
    exact ⟨trivial, .nothing w⟩
  | synthesize r out =>
    have hspeech : v.synthesize r out w =
        (.error .released, (AudioSink.error out w).1, v, (AudioSink.error out w).2) := by
      simp [synthesize, enterSpeech, request, h, report]
    simp only [perform, hspeech]
    exact ⟨trivial, .error out w⟩
  | _ =>
    simp only [perform, language, availability, loadLanguage, stop, request, h]
    exact ⟨trivial, .nothing w⟩

variable {s : Session ε}

theorem used_request {α : Type} (h : v.session = some s) (absent : α)
    {ask : Request (Session ε) α} (hask : Session.Used σ s w (ask s w).2.1 (ask s w).2.2) :
    ∃ s', (v.request absent ask w).2.1 = { v with session := some s' } ∧
      Session.Used σ s w s' (v.request absent ask w).2.2 := by
  simp only [request, h]
  exact ⟨_, rfl, hask⟩

theorem used_inTurn {asks : List (Request (Session ε) (Except EngineError Unit))}
    (hasks : ∀ ask ∈ asks, ∀ (s : Session ε) w, s.released = false →
      Session.Used σ s w (ask s w).2.1 (ask s w).2.2)
    (hs : s.released = false) (w : World) :
    Session.Used σ s w (inTurn asks s w).2.1 (inTurn asks s w).2.2 := by
  induction asks generalizing s w with
  | nil => exact .refl hs w
  | cons ask rest ih =>
    have hfirst := hasks ask (by simp) s w hs
    rcases hask : ask s w with ⟨_ | _, s', w'⟩
    · simpa only [inTurn, hask] using hfirst
    · simp only [inTurn, hask]
      rw [hask] at hfirst
      exact hfirst.trans (ih (fun ask' hask' => hasks ask' (by simp [hask'])) hfirst.released w')

theorem used_loadLanguage (h : v.session = some s) (hs : s.released = false) (l : Locale)
    (w : World) :
    ∃ s', (v.loadLanguage l w).2.1 = { v with session := some s' } ∧
      Session.Used σ s w s' (v.loadLanguage l w).2.2 := by
  refine used_request h _ ?_
  have hlevel := Session.used_availability (σ := σ) hs l w
  rcases havailability : s.availability l w with ⟨level, s', w'⟩
  rw [havailability] at hlevel
  have hset := Session.used_setLanguage (σ := σ) hlevel.released l w'
  cases havailable : level.isAvailable with
  | false => simpa only [havailability, havailable, Bool.false_eq_true, if_false] using hlevel
  | true =>
    rcases hlanguage : s'.setLanguage l w' with ⟨_ | _, s'', w''⟩
    all_goals
      rw [hlanguage] at hset
      simpa only [havailability, havailable, hlanguage, if_true] using hlevel.trans hset

theorem used_synthesize (h : v.session = some s) (hs : s.released = false) (r : SpeechRequest)
    (out : σ) (w : World) :
    ∃ s' w', (v.synthesize r out w).2.2.1 = { v with session := some s' } ∧
      Session.Used σ s w s' w' ∧ Heard σ w' (v.synthesize r out w).2.2.2 := by
  obtain ⟨s', hv, hused⟩ :
      ∃ s', (v.enterSpeech r w).2.1 = { v with session := some s' } ∧
        Session.Used σ s w s' (v.enterSpeech r w).2.2 := by
    refine used_request h _ (used_inTurn ?_ hs w)
    simp only [List.forall_mem_cons]
    exact ⟨fun _ w hs => Session.used_setLanguage hs _ w,
      fun _ w hs => Session.used_setProperty hs _ _ w,
      fun _ w hs => Session.used_setProperty hs _ _ w,
      fun _ w hs => Session.used_enterSpeech hs _ w, by simp⟩
  rcases hentered : v.enterSpeech r w with ⟨_ | _, v', w'⟩
  · rw [hentered] at hv hused
    simp only [synthesize, hentered]
    exact ⟨s', w', hv, hused, heard_report _ out w'⟩
  · rw [hentered] at hv hused
    simp only at hv hused
    subst hv
    have hspeech := Session.used_finishSpeech hused.released r.text out w'
    simp only [synthesize, hentered, finishSpeech]
    exact ⟨_, _, rfl, hused.trans hspeech, heard_report _ _ _⟩

variable (loader) in
theorem perform_used (w : World) (h : v.session = some s) (hs : s.released = false) (hop : ¬ op.Creates)
    (hdestroy : op ≠ .destroy) :
    ∃ s' w', (perform loader v w op).1 = { v with session := some s' } ∧ Session.Used σ s w s' w' ∧
      Heard σ w' (perform loader v w op).2 := by
  cases op with
  | create => exact absurd trivial hop
  | destroy => exact absurd rfl hdestroy
  | language =>
    obtain ⟨s', hv, hused⟩ := used_request (σ := σ) h none (Session.used_language hs w)
    exact ⟨s', _, hv, hused, .nothing _⟩
  | availability l =>
    obtain ⟨s', hv, hused⟩ := used_request (σ := σ) h .notSupported (Session.used_availability hs l w)
    exact ⟨s', _, hv, hused, .nothing _⟩
  | loadLanguage l =>
    obtain ⟨s', hv, hused⟩ := used_loadLanguage (σ := σ) h hs l w
    exact ⟨s', _, hv, hused, .nothing _⟩
  | stop =>
    obtain ⟨s', hv, hused⟩ := used_request (σ := σ) h (.error .released) (Session.used_stop hs w)
    exact ⟨s', _, hv, hused, .nothing _⟩
  | synthesize r out => exact used_synthesize h hs r out w

end Operations

/-! ## One engine after the other -/

/-- The deeds of so many engines, each of which went through its life before the next one was loaded. -/
inductive Through : List Deed → Nat → Prop where
  | nil : Through [] 0
  | next {ds n qs} (before : Through ds n) (life : Life.Complete qs) :
      Through (ds ++ .load :: qs.map (.ask n)) (n + 1)

section Through

variable {ds p : List Deed} {m n : Nat} {qs : List Question}

theorem Through.loads (h : Through ds n) : loads ds = n := by
  induction h with
  | nil => rfl
  | next _ _ ih => simp [SpeechHost.loads, ih]

theorem Through.questionsTo_of_le (h : Through ds n) (hm : n ≤ m) : questionsTo m ds = [] := by
  induction h with
  | nil => rfl
  | @next ds n qs _ _ ih =>
    have hne : n ≠ m := by omega
    simp [questionsTo, ih (by omega), questionsTo_map_of_ne hne]

theorem Through.complete (h : Through ds n) (hm : m < n) : Life.Complete (questionsTo m ds) := by
  induction h with
  | nil => omega
  | @next ds n qs hbefore hlife ih =>
    by_cases hmn : m = n
    · subst hmn
      simpa [questionsTo, hbefore.questionsTo_of_le (Nat.le_refl m)] using hlife
    · have hrest := questionsTo_map_of_ne (Ne.symm hmn) qs
      simpa [questionsTo, hrest] using ih (by omega)

/-- While the next engine is asked, it alone has not been let go. -/
theorem Through.alive_next (h : Through ds n) (hm : Alive (ds ++ .load :: qs.map (.ask n)) m) :
    m = n := by
  obtain ⟨hlt, hnot⟩ := hm
  have hloads : SpeechHost.loads (ds ++ .load :: qs.map (.ask n)) = n + 1 := by
    simp [SpeechHost.loads, h.loads]
  apply Decidable.byContradiction
  intro hmn
  have hlife := h.complete (m := m) (by omega)
  refine hnot true ?_
  rw [questionsTo_append]
  exact List.mem_append_left _ hlife.shutdown

theorem prefix_next (hp : p <+: ds ++ .load :: qs.map (.ask n)) :
    p <+: ds ∨ ∃ qs' : List Question, p = ds ++ .load :: qs'.map (.ask n) := by
  obtain ⟨t, ht⟩ := hp
  rcases List.append_eq_append_iff.1 ht with ⟨a, rfl, -⟩ | ⟨c, rfl, hc⟩
  · exact .inl (List.prefix_append p a)
  · cases c with
    | nil =>
      rw [List.append_nil]
      exact .inl List.prefix_rfl
    | cons d c =>
      -- the part ends among the questions, and `c` are those that it holds
      rw [List.cons_append] at hc
      obtain ⟨rfl, hrest⟩ := List.cons_eq_cons.1 hc
      have htake : c = (qs.take c.length).map (.ask n) := by
        rw [List.map_take, hrest, List.take_left]
      exact .inr ⟨qs.take c.length, by rw [← htake]⟩

theorem Through.alive_unique (h : Through ds n) (hp : p <+: ds) {m' : Nat} (hm : Alive p m)
    (hm' : Alive p m') : m = m' := by
  induction h with
  | nil =>
    obtain rfl := List.prefix_nil.1 hp
    exact absurd hm.1 (by simp [SpeechHost.loads])
  | next hbefore _ ih =>
    rcases prefix_next hp with hp | ⟨qs', rfl⟩
    · exact ih hp
    · rw [hbefore.alive_next hm, hbefore.alive_next hm']

end Through

/-- How far the engines of a service are: each has been let go, but that of the session, which may be
used. -/
inductive Standing (v : Service ε) : List ε → List Deed → Prop where
  | vacant {es ds} (hnone : v.session = none) (through : Through ds es.length) : Standing v es ds
  | busy {gone ds s qs} (hsome : v.session = some s) (hs : s.released = false)
      (through : Through ds gone.length) (life : Life.Serving qs) :
      Standing v (gone ++ [s.engine]) (ds ++ .load :: qs.map (.ask gone.length))

section Standing

variable {loader : Loader ε} {v : Service ε} {es : List ε} {ds : List Deed}

omit [SpeechEngine ε] in
theorem Standing.congr (h : Standing v es ds) {u : Service ε} (hu : u.session = v.session) :
    Standing u es ds := by
  cases h with
  | vacant hnone through => exact .vacant (hu.trans hnone) through
  | busy hsome hs through life => exact .busy (hu.trans hsome) hs through life

theorem Heard.made {w w' : World} (h : Heard σ w w') (loader : Loader ε) (es : List ε) :
    Made σ loader ⟨es, w⟩ [] ⟨es, w'⟩ := by
  cases h with
  | nothing => exact .done _
  | error out => exact .hear out (.done _)

theorem vacant_destroy (v : Service ε) (w : World) :
    (v.destroy w).1 = { v with session := none } := by
  cases hsession : v.session with
  | none =>
    simp only [Service.destroy, beginRelease, endRelease, hsession]
    rw [← hsession]
  | some s =>
    rcases hbegin : s.beginShutdown w with ⟨_ | _, s', w'⟩
    · simp [Service.destroy, beginRelease, endRelease, hsession, hbegin]
    · simp [Service.destroy, beginRelease, endRelease, hsession, hbegin]

variable (σ loader) in
theorem Standing.destroy (h : Standing v es ds) (w : World) :
    ∃ ds' es', Made σ loader ⟨es, w⟩ ds' ⟨es', (v.destroy w).2⟩ ∧ es'.length = es.length ∧
      Through (ds ++ ds') es'.length := by
  cases h with
  | vacant hnone through =>
    have hdestroy : v.destroy w = (v, w) := by simp [Service.destroy, beginRelease, endRelease, hnone]
    rw [hdestroy]
    exact ⟨[], es, .done _, rfl, by simpa using through⟩
  | @busy gone ds s qs hsome hs through life =>
    have hdestroy : v.destroy w = ({ v with session := none }, (s.shutdown w).2) := by
      simp [Service.destroy, beginRelease, endRelease, hsome, Session.shutdown, Session.beginShutdown, hs]
    obtain ⟨granted, hserves⟩ := Session.serves_shutdown (σ := σ) hs w
    rw [hdestroy]
    refine ⟨_, gone ++ [(s.shutdown w).1.engine], hserves.made loader gone, by simp, ?_⟩
    have hnext := Through.next through (.inr ⟨qs, granted, life, rfl⟩)
    simpa using hnext

variable (σ loader) in
theorem Standing.openSession (hnone : v.session = none) (h : Through ds es.length) (w : World) :
    ∃ ds' es', Made σ loader ⟨es, w⟩ ds' ⟨es', (v.openSession loader w).2.2⟩ ∧
      Standing (v.openSession loader w).2.1 es' (ds ++ ds') ∧
      (v.openSession loader w).2.1.identifier = v.identifier := by
  rcases hopen : Session.open? loader v.identifier (v.config.getD "") w with ⟨x | s, w'⟩
  · have hv : v.openSession loader w = (.error x, v, w') := by simp [Service.openSession, hopen]
    rw [hv]
    rcases Session.open?_error (σ := σ) hopen with hload | ⟨e, w₁, e', qs, hload, hlife, hserves⟩
    · exact ⟨[], es, .loadFails hload (.done _), .vacant hnone (by simpa using h), rfl⟩
    · refine ⟨.load :: qs.map (.ask es.length), es ++ [e'], .load hload (hserves.made loader es),
        .vacant hnone ?_, rfl⟩
      simpa using h.next (.inl hlife)
  · have hv : v.openSession loader w = (.ok (), { v with session := some s }, w') := by
      simp [Service.openSession, hopen]
    rw [hv]
    obtain ⟨e, w₁, hload, hs, -, -, hserves⟩ := Session.open?_ok (σ := σ) hopen
    exact ⟨_, es ++ [s.engine], .load hload (hserves.made loader es),
      .busy rfl hs h ⟨_, _, [], rfl, by simp⟩, rfl⟩

variable (loader) in
theorem Standing.perform (h : Standing v es ds) (w : World) (op : Operation σ) :
    ∃ ds' es', Made σ loader ⟨es, w⟩ ds' ⟨es', (perform loader v w op).2⟩ ∧
      Standing (perform loader v w op).1 es' (ds ++ ds') ∧
      (perform loader v w op).1.identifier = v.identifier := by
  by_cases hcreates : op.Creates
  · -- the session there is ends first, so the new one is opened with every engine let go
    cases op with
    | create config =>
      have hu : Standing { v with config } es ds := h.congr rfl
      obtain ⟨ds₁, es₁, hmade₁, -, hthrough⟩ := hu.destroy σ loader w
      have hv := vacant_destroy { v with config } w
      obtain ⟨ds₂, es₂, hmade₂, hstanding, hidentifier⟩ :=
        Standing.openSession σ loader (v := { v with config, session := none }) rfl hthrough
          (Service.destroy { v with config } w).2
      refine ⟨ds₁ ++ ds₂, es₂, hmade₁.trans ?_, ?_, ?_⟩
      · simpa only [Service.perform, createWith, create, hv] using hmade₂
      · simpa only [Service.perform, createWith, create, hv, List.append_assoc] using hstanding
      · simpa only [Service.perform, createWith, create, hv] using hidentifier
    | _ => exact hcreates.elim
  by_cases hdestroy : op = .destroy
  · subst hdestroy
    obtain ⟨ds', es', hmade, -, hthrough⟩ := h.destroy σ loader w
    have hv := vacant_destroy v w
    exact ⟨ds', es', hmade, .vacant (by rw [Service.perform, hv]) hthrough,
      by rw [Service.perform, hv]⟩
  cases h with
  | vacant hnone through =>
    obtain ⟨hv, hheard⟩ := perform_absent loader w hnone hcreates
    refine ⟨[], es, hheard.made loader es, ?_⟩
    rw [hv, List.append_nil]
    exact ⟨.vacant hnone through, rfl⟩
  | @busy gone ds s qs hsome hs through life =>
    obtain ⟨s', w', hv, hused, hheard⟩ :=
      perform_used loader w hsome hs hcreates hdestroy
    obtain ⟨uses, huses, hserves⟩ := hused.served
    refine ⟨_, gone ++ [s'.engine], (hserves.made loader gone).trans (hheard.made loader _), ?_,
      by rw [hv]⟩
    have hbusy := Standing.busy (v := (Service.perform loader v w op).1) (by rw [hv]) hused.released
      through (life.append huses)
    simpa using hbusy

theorem createWith_error {w : World} {config : Option String} {x : ConfigurationError}
    (hfails : (v.createWith config loader w).1 = .error x) :
    (v.createWith config loader w).2.1 = .new v.identifier config := by
  have hv := vacant_destroy { v with config } w
  simp only [createWith, create, hv, Service.openSession] at hfails ⊢
  split at hfails
  · rfl
  · simp at hfails

end Standing

/-! ## A run -/

section Run

variable {loader : Loader ε} {v : Service ε} {es : List ε} {ds : List Deed}

theorem run_cons (v : Service ε) (w : World) (op : Operation σ) (ops : List (Operation σ)) :
    run loader v w (op :: ops) = run loader (perform loader v w op).1 (perform loader v w op).2 ops :=
  rfl

variable (loader) in
theorem Standing.run (h : Standing v es ds) (w : World) (ops : List (Operation σ)) :
    ∃ ds' es', Made σ loader ⟨es, w⟩ ds' ⟨es', (run loader v w ops).2⟩ ∧
      Standing (run loader v w ops).1 es' (ds ++ ds') ∧
      (run loader v w ops).1.identifier = v.identifier := by
  induction ops generalizing v w es ds with
  | nil => exact ⟨[], es, .done _, by simpa [Service.run] using h, rfl⟩
  | cons op ops ih =>
    obtain ⟨ds₁, es₁, hmade₁, h₁, hidentifier₁⟩ := h.perform loader w op
    obtain ⟨ds₂, es₂, hmade₂, h₂, hidentifier₂⟩ := ih h₁ (Service.perform loader v w op).2
    rw [List.append_assoc] at h₂
    exact ⟨ds₁ ++ ds₂, es₂, hmade₁.trans hmade₂, h₂, hidentifier₂.trans hidentifier₁⟩

theorem run_absent (h : v.session = none) {ops : List (Operation σ)} (hops : ∀ op ∈ ops, ¬ op.Creates)
    (w : World) (es : List ε) :
    (run loader v w ops).1 = v ∧ Made σ loader ⟨es, w⟩ [] ⟨es, (run loader v w ops).2⟩ := by
  induction ops generalizing w with
  | nil => exact ⟨rfl, .done _⟩
  | cons op ops ih =>
    obtain ⟨hv, hheard⟩ := perform_absent loader w h (hops op (by simp))
    obtain ⟨hrun, hmade⟩ :=
      ih (fun op' hop' => hops op' (by simp [hop'])) (Service.perform loader v w op).2
    rw [run_cons, hv]
    exact ⟨hrun, (hheard.made loader es).trans hmade⟩

omit [SpeechEngine ε] in
theorem Standing.alive_unique (h : Standing v es ds) {p : List Deed} (hp : p <+: ds) {m n : Nat}
    (hm : Alive p m) (hn : Alive p n) : m = n := by
  cases h with
  | vacant _ through => exact through.alive_unique hp hm hn
  | busy _ _ through _ =>
    rcases prefix_next hp with hp | ⟨qs', rfl⟩
    · exact through.alive_unique hp hm hn
    · rw [through.alive_next hm, through.alive_next hn]

omit [SpeechEngine ε] in
/-- Each engine of a service went through its life, or is that of the session and may be used. -/
theorem Standing.life (h : Standing v es ds) {n : Nat} (hn : n < es.length) :
    Life.Complete (questionsTo n ds) ∨
      Life.Serving (questionsTo n ds) ∧ ∃ s, v.session = some s ∧ es[n]? = some s.engine := by
  cases h with
  | vacant _ through => exact .inl (through.complete hn)
  | @busy gone ds s qs hsome hs through life =>
    by_cases hlast : n = gone.length
    · subst hlast
      refine .inr ⟨?_, s, hsome, by simp⟩
      simpa [questionsTo, through.questionsTo_of_le (Nat.le_refl _)] using life
    · have hrest := questionsTo_map_of_ne (Ne.symm hlast) qs
      rw [List.length_append, List.length_singleton] at hn
      simpa [questionsTo, hrest] using Or.inl (through.complete (m := n) (by omega))

/-- Whatever is asked of a new service, and however loads and engines turn out: at most one loaded engine
has not been let go at any time; each engine was told about its filter first and let go at once when it
rejected that, or else it was used, stopped and let go, but for the engine of the session, which is let go
when the service goes away. After a creation that failed, the service is as good as new, and nothing is
asked of any engine until the next creation. -/
theorem engine_lifecycle (loader : Loader ε) (identifier : String) (config : Option String)
    (ops : List (Operation σ)) (w : World) :
    let d := run loader (.new identifier config) w ops
    ∃ ds es, Made σ loader ⟨[], w⟩ ds ⟨es, d.2⟩ ∧
      (∀ p, p <+: ds → ∀ m n, Alive p m → Alive p n → m = n) ∧
      (∀ n < es.length, Life.Complete (questionsTo n ds) ∨
        Life.Serving (questionsTo n ds) ∧ ∃ s, d.1.session = some s ∧ es[n]? = some s.engine) ∧
      (∃ ds' es', Made σ loader ⟨es, d.2⟩ ds' ⟨es', (d.1.destroy d.2).2⟩ ∧ es'.length = es.length ∧
        ∀ n < es.length, Life.Complete (questionsTo n (ds ++ ds'))) ∧
      ∀ config x, (d.1.createWith config loader d.2).1 = .error x →
        ∀ later : List (Operation σ), (∀ op ∈ later, ¬ op.Creates) →
          let c := (d.1.createWith config loader d.2).2
          let f := run loader c.1 c.2 later
          c.1 = .new identifier config ∧ f.1 = .new identifier config ∧
            ∀ es, Made σ loader ⟨es, c.2⟩ [] ⟨es, f.2⟩ := by
  intro d
  have hnew : Standing (.new identifier config : Service ε) [] [] := .vacant rfl .nil
  obtain ⟨ds, es, hmade, hstanding, hidentifier⟩ := hnew.run loader w ops
  rw [List.nil_append] at hstanding
  refine ⟨ds, es, hmade, fun p hp m n hm hn => hstanding.alive_unique hp hm hn,
    fun n hn => hstanding.life hn, ?_, ?_⟩
  · obtain ⟨ds', es', hmade', hlength, hthrough⟩ := hstanding.destroy σ loader d.2
    exact ⟨ds', es', hmade', hlength, fun n hn => hthrough.complete (hlength ▸ hn)⟩
  · intro config x hfails later hlater c f
    have hc : c.1 = .new identifier config := by
      rw [createWith_error hfails, hidentifier]
      rfl
    have habsent : c.1.session = none := by rw [hc]; rfl
    exact ⟨hc, (run_absent habsent hlater c.2 []).1.trans hc,
      fun es => (run_absent habsent hlater c.2 es).2⟩

/-- Engines of which the second one cannot be loaded. -/
def secondMissing : Rehearsal.Script where
  loading := [none, some (.load "no data")]
  configure := none
  setLanguage := none
  setProperty := []
  synthesize := none
  stop := none
  availability := .available
  locale := none
  chunks := []
  waits := false

theorem engine_lifecycle_secondMissing :
    let loader := secondMissing.loader
    let d := run (σ := Rehearsal.Probe) loader (.new "x" none) ⟨.fresh [], none, []⟩
      [.create none, .language]
    let c := (d.1.createWith none loader d.2).2
    let f := run loader c.1 c.2 [.stop, .synthesize (.ofText "hi") Rehearsal.Probe.quiet]
    (d.1.createWith none loader d.2).1 = .error (.load "no data") ∧ c.2.journal.length = 6 ∧
      f.1 = .new "x" none ∧ f.2.journal = c.2.journal ++ [.sink .error] := by
  intro loader d c f
  have hfails : (d.1.createWith none loader d.2).1 = .error (.load "no data") := rfl
  obtain ⟨_, _, -, -, -, -, hlast⟩ := engine_lifecycle (σ := Rehearsal.Probe) loader "x" none
    [.create none, .language] ⟨.fresh [], none, []⟩
  obtain ⟨-, hnew, -⟩ := hlast none _ hfails
    [.stop, .synthesize (.ofText "hi") Rehearsal.Probe.quiet] (by simp [Operation.Creates])
  exact ⟨hfails, rfl, hnew, rfl⟩

end Run

end Service

end SpeechHost
