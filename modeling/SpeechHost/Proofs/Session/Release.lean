import SpeechHost.Engine.Command
import SpeechHost.Proofs.Session.Threads
import SpeechHost.Rehearsal.Sink
/-!
# Requests after the release

The thread that releases a session waits for the lock, but not for those who wait for the lock as well.
A request that has seen the engine before the release took it away asks the engine whenever its turn
comes, also when the engine has been let go. So the engine is left alone after its release, and later
requests are refused, if and only if no request stands between its look at the engine and its question
(`quiet_after_release_iff`).

The lock has at most one owner, who stands between taking it and giving it back (`Room.Sound`); a
request that waits can therefore always be brought to its question.
-/

namespace SpeechHost

open SpeechHost.Audio

variable {ε σ ι : Type}

/-- Whether a thread has the lock. -/
def Thread.Holds : Thread σ → Prop
  | .call _ .holding | .call _ (.called _) | .release .holding => True
  | _ => False

/-- Whether a request has seen the engine and not asked it yet. -/
def Thread.Between : Thread σ → Prop
  | .call _ .waiting | .call _ .holding => True
  | _ => False

/-- Whether a request has not come to the engine, nor been refused. -/
def Thread.Early : Thread σ → Prop
  | .call _ .ready | .call _ .waiting | .call _ .holding => True
  | _ => False

/-- Whether a release has taken the engine away and not let it go yet. -/
def Thread.Releasing : Thread σ → Prop
  | .release .taken | .release .stopped | .release .holding | .release .fenced => True
  | _ => False

namespace Room

/-- A room where nobody has begun. -/
structure Fresh (m : Room ε σ ι) : Prop where
  lock : m.lock = none
  threads : ∀ i, (∃ c, m.threads i = .call c .ready) ∨ m.threads i = .release .ready

/-- A room where the lock belongs to the thread that took it, and the engine is gone while it is being
released. -/
structure Sound (m : Room ε σ ι) : Prop where
  lock : ∀ i, m.lock = some i ↔ (m.threads i).Holds
  released : ∀ i, (m.threads i).Releasing → m.session.released = true

theorem Fresh.sound {m : Room ε σ ι} (h : m.Fresh) : m.Sound := by
  refine ⟨fun i => ?_, fun i hi => ?_⟩
  · rw [h.lock]
    rcases h.threads i with ⟨c, hi⟩ | hi <;> simp [hi, Thread.Holds]
  · rcases h.threads i with ⟨c, ht⟩ | ht <;> simp [ht, Thread.Releasing] at hi

/-! ## What a step can do -/

/-- The turn of a thread: where it stands, whether the engine is gone and who has the lock, each before
and after the step, and what is asked of the engine. -/
inductive Turn (i : ι) : Thread σ → Bool → Option ι → Thread σ → Bool → Option ι → List (Use ι) → Prop
    where
  /-- The thread is through, or the lock is not free. -/
  | rest (t b l) : Turn i t b l t b l []
  | look (c l) : Turn i (.call c .ready) false l (.call c .waiting) false l []
  | refuse (c l) : Turn i (.call c .ready) true l (.call c (.ended (.error .released))) true l []
  | enter (c b) : Turn i (.call c .waiting) b none (.call c .holding) b (some i) []
  | ask (c c' b l r) : Turn i (.call c .holding) b l (.call c' (.called r)) b l [.call i]
  | leave (c b l r) : Turn i (.call c (.called r)) b l (.call c (.ended r)) b none []
  | take (l) : Turn i (.release .ready) false l (.release .taken) true l []
  | late (l) : Turn i (.release .ready) true l (.release .ended) true l []
  | stop (b l) : Turn i (.release .taken) b l (.release .stopped) b l [.stop i]
  | fence (b) : Turn i (.release .stopped) b none (.release .holding) b (some i) []
  | unfence (b l) : Turn i (.release .holding) b l (.release .fenced) b none []
  | letGo (b l) : Turn i (.release .fenced) b l (.release .ended) b l [.shutdown i]

namespace Turn

variable {i : ι} {t t' : Thread σ} {b b' : Bool} {l l' : Option ι} {us : List (Use ι)}

theorem released (h : Turn i t b l t' b' l' us) (hb : b = true) : b' = true := by
  cases h <;> simp_all

theorem lock (h : Turn i t b l t' b' l' us) :
    (l' = l ∧ (t'.Holds ↔ t.Holds)) ∨ (l = none ∧ l' = some i ∧ t'.Holds) ∨
      (t.Holds ∧ l' = none ∧ ¬ t'.Holds) := by
  cases h <;> simp [Thread.Holds]

theorem releasing (h : Turn i t b l t' b' l' us) (hb : t.Releasing → b = true)
    (ht : t'.Releasing) : b' = true := by
  cases h <;> simp_all [Thread.Releasing]

/-- Once the engine is gone, nobody comes to see it. -/
theorem between (h : Turn i t true l t' b' l' us) (ht : t'.Between) : t.Between := by
  cases h <;> simp_all [Thread.Between]

theorem asked (h : Turn i t b l t' b' l' us) {j : ι} (hj : .call j ∈ us) : t.Between := by
  cases h <;> simp_all [Thread.Between]

end Turn

variable [SpeechEngine ε] [AudioSink σ] [DecidableEq ι]

theorem turn_step (m : Room ε σ ι) (i : ι) :
    ∃ us, (m.step i).uses = m.uses ++ us ∧
      Turn i (m.threads i) m.session.released m.lock ((m.step i).threads i)
        (m.step i).session.released (m.step i).lock us := by
  cases ht : m.threads i with
  | call c stage =>
    rw [step_call ht]
    cases stage with
    | ready =>
      refine ⟨[], by simp [stepCall], ?_⟩
      cases hr : m.session.released with
      | true => simpa [stepCall, hr] using .refuse c m.lock
      | false => simpa [stepCall, hr] using .look c m.lock
    | waiting =>
      refine ⟨[], ?_⟩
      cases hl : m.lock with
      | some j => simpa [stepCall, hl, ht] using .rest (.call c .waiting) _ _
      | none => simpa [stepCall, hl] using .enter c _
    | holding => exact ⟨[.call i], rfl, by simpa [stepCall] using .ask c _ _ _ _⟩
    | called r => exact ⟨[], by simp [stepCall], by simpa [stepCall] using .leave c _ _ r⟩
    | ended r => exact ⟨[], by simp [stepCall], by simpa [stepCall, ht] using .rest _ _ _⟩
  | release stage =>
    rw [step_release ht]
    cases stage with
    | ready =>
      refine ⟨[], ?_⟩
      cases hr : m.session.released with
      | true => simpa [stepRelease, hr] using .late m.lock
      | false => simpa [stepRelease, hr] using .take m.lock
    | taken => exact ⟨[.stop i], rfl, by simpa [stepRelease] using .stop _ _⟩
    | stopped =>
      refine ⟨[], ?_⟩
      cases hl : m.lock with
      | some j => simpa [stepRelease, hl, ht] using .rest (.release .stopped) _ _
      | none => simpa [stepRelease, hl] using .fence _
    | holding => exact ⟨[], by simp [stepRelease], by simpa [stepRelease] using .unfence _ _⟩
    | fenced => exact ⟨[.shutdown i], rfl, by simpa [stepRelease] using .letGo _ _⟩
    | ended => exact ⟨[], by simp [stepRelease], by simpa [stepRelease, ht] using .rest _ _ _⟩

/-! ## Soundness -/

theorem Sound.step {m : Room ε σ ι} (h : m.Sound) (i : ι) : (m.step i).Sound := by
  obtain ⟨us, -, hturn⟩ := turn_step m i
  constructor
  · refine owner_step h.lock (fun j hj => ?_) hturn.lock
    rw [threads_step_of_ne m hj]
  · intro j hj
    by_cases hji : j = i
    · subst hji
      exact hturn.releasing (h.released j) hj
    · rw [threads_step_of_ne m hji] at hj
      exact hturn.released (h.released j hj)

theorem Sound.run {m : Room ε σ ι} (h : m.Sound) (is : List ι) : (m.run is).Sound := by
  induction is generalizing m with
  | nil => exact h
  | cons i is ih => exact ih (h.step i)

/-! ## Nobody between -/

/-- A room whose engine is gone and where no request has seen it without having asked it. -/
structure Closed (m : Room ε σ ι) : Prop where
  released : m.session.released = true
  nobody : ∀ i, ¬ (m.threads i).Between

theorem Closed.step {m : Room ε σ ι} (h : m.Closed) (i : ι) :
    (m.step i).Closed ∧ ∃ us, (m.step i).uses = m.uses ++ us ∧ ∀ j, .call j ∉ us := by
  obtain ⟨us, huses, hturn⟩ := turn_step m i
  refine ⟨⟨hturn.released h.released, fun j hj => ?_⟩, us, huses, fun j hj => ?_⟩
  · by_cases hji : j = i
    · subst hji
      rw [h.released] at hturn
      exact h.nobody j (hturn.between hj)
    · rw [threads_step_of_ne m hji] at hj
      exact h.nobody j hj
  · exact h.nobody i (hturn.asked hj)

theorem Closed.run {m : Room ε σ ι} (h : m.Closed) (is : List ι) :
    ∃ us, (m.run is).uses = m.uses ++ us ∧ ∀ j, .call j ∉ us := by
  induction is generalizing m with
  | nil => exact ⟨[], by simp, by simp⟩
  | cons i is ih =>
    obtain ⟨hstep, us, huses, hnone⟩ := h.step i
    obtain ⟨us', huses', hnone'⟩ := ih hstep
    refine ⟨us ++ us', ?_, fun j hj => ?_⟩
    · rw [run_cons, huses', huses, List.append_assoc]
    · rcases List.mem_append.1 hj with hj | hj
      · exact hnone j hj
      · exact hnone' j hj

theorem threads_run_ended {m : Room ε σ ι} {i : ι} {c : Call σ} {r : Except EngineError Unit}
    (h : m.threads i = .call c (.ended r)) (is : List ι) :
    (m.run is).threads i = .call c (.ended r) := by
  induction is generalizing m with
  | nil => exact h
  | cons j is ih =>
    refine ih ?_
    by_cases hij : i = j
    · subst hij
      rw [step_call h]
      exact h
    · rw [threads_step_of_ne m hij, h]

/-- A request that begins when the engine is gone is refused in its first step. -/
theorem threads_run_ready {m : Room ε σ ι} (hm : m.session.released = true) {i : ι} {c : Call σ}
    (h : m.threads i = .call c .ready) (is : List ι) :
    (m.run is).threads i =
      .call c (if i ∈ is then .ended (.error .released) else .ready) := by
  induction is generalizing m with
  | nil => simpa using h
  | cons j is ih =>
    by_cases hij : i = j
    · subst hij
      have hended : (m.step i).threads i = .call c (.ended (.error .released)) := by
        simp [step_call h, stepCall, hm]
      rw [run_cons, threads_run_ended hended]
      simp
    · obtain ⟨us, -, hturn⟩ := turn_step m j
      have hnext : (m.step j).threads i = .call c .ready := by rw [threads_step_of_ne m hij, h]
      rw [run_cons, ih (hturn.released hm) hnext]
      simp [hij]

/-! ## Somebody between -/

theorem uses_run (m : Room ε σ ι) (is : List ι) : ∃ us, (m.run is).uses = m.uses ++ us := by
  induction is generalizing m with
  | nil => exact ⟨[], by simp⟩
  | cons i is ih =>
    obtain ⟨us, huses, -⟩ := turn_step m i
    obtain ⟨us', huses'⟩ := ih (m.step i)
    exact ⟨us ++ us', by rw [run_cons, huses', huses, List.append_assoc]⟩

theorem exists_unlock {m : Room ε σ ι} (h : m.Sound) {j : ι} (hj : m.lock = some j) :
    ∃ is, (m.run is).lock = none ∧ ∀ i, i ≠ j → (m.run is).threads i = m.threads i := by
  have hholds := (h.lock j).1 hj
  cases ht : m.threads j with
  | call c stage =>
    cases stage with
    | holding =>
      refine ⟨[j, j], by simp [step, stepCall, ht], fun i hi => ?_⟩
      rw [run_cons, run_cons, run_nil, threads_step_of_ne _ hi, threads_step_of_ne _ hi]
    | called r =>
      exact ⟨[j], by simp [step, stepCall, ht], fun i hi => threads_step_of_ne m hi⟩
    | _ => simp [ht, Thread.Holds] at hholds
  | release stage =>
    cases stage with
    | holding =>
      exact ⟨[j], by simp [step, stepRelease, ht], fun i hi => threads_step_of_ne m hi⟩
    | _ => simp [ht, Thread.Holds] at hholds

theorem uses_step_holding {m : Room ε σ ι} {i : ι} {c : Call σ}
    (h : m.threads i = .call c .holding) : (m.step i).uses = m.uses ++ [.call i] := by
  simp [step_call h, stepCall]

/-- A request that has seen the engine can be brought to ask it. -/
theorem exists_call {m : Room ε σ ι} (h : m.Sound) {i : ι} (hi : (m.threads i).Between) :
    ∃ is us, (m.run is).uses = m.uses ++ us ∧ .call i ∈ us := by
  cases ht : m.threads i with
  | release stage => simp [ht, Thread.Between] at hi
  | call c stage =>
    cases stage with
    | holding => exact ⟨[i], [.call i], uses_step_holding ht, by simp⟩
    | waiting =>
      obtain ⟨is, hfree, hthere⟩ : ∃ is, (m.run is).lock = none ∧
          (m.run is).threads i = .call c .waiting := by
        cases hl : m.lock with
        | none => exact ⟨[], hl, ht⟩
        | some j =>
          obtain ⟨is, hfree, hothers⟩ := exists_unlock h hl
          have hij : i ≠ j := by
            rintro rfl
            have hholds := (h.lock i).1 hl
            simp [ht, Thread.Holds] at hholds
          exact ⟨is, hfree, by rw [hothers i hij, ht]⟩
      obtain ⟨us, huses⟩ := uses_run m is
      have henter : ((m.run is).step i).threads i = .call c .holding := by
        simp [step_call hthere, stepCall, hfree]
      have hsame : ((m.run is).step i).uses = (m.run is).uses := by
        simp [step_call hthere, stepCall, hfree]
      refine ⟨is ++ [i, i], us ++ [.call i], ?_, by simp⟩
      rw [run_append, run_cons, run_cons, run_nil, uses_step_holding henter, hsame, huses,
        List.append_assoc]
    | _ => simp [ht, Thread.Between] at hi

/-! ## The release -/

/-- From here on, no request comes to the engine, and those that had not come to it are refused as soon
as it is their turn. -/
def Quiet (m : Room ε σ ι) : Prop :=
  ∀ is, (∀ us, (m.run is).uses = m.uses ++ us → ∀ i, .call i ∉ us) ∧
    ∀ i ∈ is, (m.threads i).Early →
      ∃ c, (m.run is).threads i = .call c (.ended (.error .released))

theorem Closed.quiet {m : Room ε σ ι} (h : m.Closed) : m.Quiet := by
  intro is
  constructor
  · intro us huses i
    obtain ⟨us', huses', hnone⟩ := h.run is
    obtain rfl := List.append_cancel_left (huses.symm.trans huses')
    exact hnone i
  · intro i hi hearly
    have hnot := h.nobody i
    cases ht : m.threads i with
    | release stage => simp [ht, Thread.Early] at hearly
    | call c stage =>
      cases stage with
      | ready =>
        refine ⟨c, ?_⟩
        rw [threads_run_ready h.released ht, if_pos hi]
      | waiting => simp [ht, Thread.Between] at hnot
      | holding => simp [ht, Thread.Between] at hnot
      | _ => simp [ht, Thread.Early] at hearly

/-- When the engine is let go, it is left alone from then on if and only if no request has seen it
without having asked it. -/
theorem quiet_after_release_iff {m : Room ε σ ι} (hm : m.Fresh) (is : List ι) {s : ι}
    (hs : (m.run is).threads s = .release .fenced) :
    ((m.run is).step s).Quiet ↔ ∀ i, ¬ ((m.run is).threads i).Between := by
  have hsound := hm.sound.run is
  have hreleased := hsound.released s (by simp [hs, Thread.Releasing])
  have hthreads : ∀ i, (((m.run is).step s).threads i).Between ↔ ((m.run is).threads i).Between := by
    intro i
    by_cases hi : i = s
    · subst hi
      simp [step_release hs, stepRelease, hs, Thread.Between]
    · rw [threads_step_of_ne _ hi]
  constructor
  · intro hquiet i hi
    obtain ⟨js, us, huses, hmem⟩ := exists_call (hsound.step s) ((hthreads i).2 hi)
    exact (hquiet js).1 us huses i hmem
  · intro hnobody
    obtain ⟨us, -, hturn⟩ := turn_step (m.run is) s
    refine Closed.quiet ⟨hturn.released hreleased, fun i hi => ?_⟩
    exact hnobody i ((hthreads i).1 hi)

/-! ## A request that comes too late -/

/-- A thread that sets a property, and one that releases the session. -/
def settingAndRelease : Room CommandEngine Rehearsal.Probe Bool where
  session :=
    ⟨"espeak-ng", .forEngine "espeak-ng", .espeak (.new (.ofString "/bin/espeak-ng") ""), false⟩
  world := ⟨⟨[], [(["bin"], .directory),
    (["bin", "espeak-ng"], .program ⟨true, fun _ => .ok ⟨[], [], [], .ended true⟩⟩)]⟩, none, []⟩
  lock := none
  threads i := if i then .release .ready else .call (.setProperty "rate" "100") .ready
  uses := []

theorem settingAndRelease_fresh : settingAndRelease.Fresh :=
  ⟨rfl, fun i => by cases i <;> simp [settingAndRelease]⟩

theorem quiet_after_release_iff_alone :
    (settingAndRelease.run [true, true, true, true]).threads true = .release .fenced ∧
      ((settingAndRelease.run [true, true, true, true]).step true).Quiet := by
  have hs : (settingAndRelease.run [true, true, true, true]).threads true = .release .fenced := rfl
  refine ⟨hs, (quiet_after_release_iff settingAndRelease_fresh _ hs).2 fun i => ?_⟩
  cases i with
  | true => rw [hs]; exact id
  | false => exact id

/-- A request that saw the engine before the release asks it when it has been let go. -/
theorem call_after_shutdown :
    settingAndRelease.Fresh ∧
      (settingAndRelease.run [false, true, true, true, true, true]).uses =
        [.stop true, .shutdown true] ∧
      (settingAndRelease.run [false, true, true, true, true, true]).threads false =
        .call (.setProperty "rate" "100") .waiting ∧
      (settingAndRelease.run [false, true, true, true, true, true, false, false, false]).uses =
        [.stop true, .shutdown true, .call false] ∧
      (settingAndRelease.run [false, true, true, true, true, true, false, false, false]).threads
          false = .call (.setProperty "rate" "100") (.ended (.ok ())) :=
  ⟨settingAndRelease_fresh, rfl, rfl, rfl, rfl⟩

end Room

end SpeechHost
