import Mathlib.Data.List.Induction
import SpeechHost.Proofs.Install.Flight
/-!
# The phase and the slot

The end of an attempt gives the slot back first and stores the phase afterwards. In between another try
can take the slot and store its own phase, over which the earlier attempt then writes. So where no thread
stands between its two sections, an installer is said to be installing exactly when it is, if and only if
no extraction under way had its phase stored already when an earlier attempt was settled
(`phase_agrees_iff`).
-/

namespace SpeechHost.Install

variable {κ ι : Type}

namespace Worker

/-- A thread that makes an extraction for an installer and has stored its phase. -/
def Stored (k : κ) : Worker κ → Prop
  | .marked k' _ _ | .running k' _ | .extracted k' _ => k' = k
  | _ => False

/-- A thread between the two sections of a beginning, or of an end. -/
def Between (k : κ) : Worker κ → Prop
  | .claimed k' _ | .finished k' _ => k' = k
  | _ => False

/-- A thread whose extraction has stored its phase, with nothing stored at its end yet. -/
def Backs (k : κ) (w : Worker κ) : Prop :=
  w.Stored k ∨ ∃ o, w = .finished k o

/-- A thread that will not store the phase of a beginning any more. -/
def Past : Worker κ → Prop
  | .resolving _ _ | .recalling _ | .asking _ _ | .claimed _ _ => False
  | _ => True

theorem Stored.past {k : κ} {w : Worker κ} (h : w.Stored k) : w.Past := by
  cases w <;> simp_all [Stored, Past]

theorem Stored.flight? {k : κ} {w : Worker κ} (h : w.Stored k) : w.flight? = some k := by
  cases w <;> simp_all [Stored, Worker.flight?]

theorem stored_of_flight? {k : κ} {w : Worker κ} (h : w.flight? = some k) (hb : ¬ w.Between k) :
    w.Stored k := by
  cases w <;> simp_all [Stored, Between, Worker.flight?]

theorem AtStart.not_stored {k : κ} {w : Worker κ} (h : w.AtStart) : ¬ w.Stored k := by
  intro hs
  have hflight := hs.flight?
  exact h.not_inFlight (by simp [InFlight, hflight])

end Worker

namespace Crew

variable [DecidableEq κ]

/-- A turn stores the phase of a beginning, or that of an end, or does not say anew whether an installer
is installing. -/
theorem Turn.phase {c d : Crew κ ι} {w w' : Worker κ} (h : Turn c w d w') (k : κ) :
    (∃ root es, w = .claimed k root ∧ w' = .marked k root es ∧
        (d.installers k).phase = .installing) ∨
      (∃ o es, w = .finished k o ∧ w' = .reporting k es ∧
        (d.installers k).phase ≠ .installing) ∨
      (¬ w.Between k ∧ (w'.Backs k ↔ w.Backs k) ∧ (w'.Stored k → w.Stored k) ∧
        ((d.installers k).phase = .installing ↔ (c.installers k).phase = .installing)) := by
  cases h with
  | resolve k' root =>
    refine .inr (.inr ⟨by simp [Worker.Between], by simp [Worker.Backs, Worker.Stored], id, ?_⟩)
    by_cases hk : k = k'
    · subst hk
      simp [store, Installer.resolveRoot]
    · simp [store, hk]
  | mark k' root =>
    by_cases hk : k = k'
    · subst hk
      exact .inl ⟨root, _, rfl, rfl, by simp [store, Installer.markInstalling]⟩
    · refine .inr (.inr ⟨?_, ?_, ?_, by simp [store, hk]⟩)
      all_goals simp [Worker.Between, Worker.Backs, Worker.Stored, Ne.symm hk]
  | settle k' o =>
    by_cases hk : k = k'
    · subst hk
      refine .inr (.inl ⟨o, _, rfl, rfl, ?_⟩)
      simp only [store, Function.update_self, Installer.settle]
      split_ifs <;> simp
    · refine .inr (.inr ⟨?_, ?_, ?_, by simp [store, hk]⟩)
      all_goals simp [Worker.Between, Worker.Backs, Worker.Stored, Ne.symm hk]
  | close k' =>
    refine .inr (.inr ⟨by simp [Worker.Between], by simp [Worker.Backs, Worker.Stored], id, ?_⟩)
    by_cases hk : k = k'
    · subst hk
      simp only [store, Function.update_self, Installer.close]
      split_ifs with hretry
      · simp [beq_iff_eq.1 hretry]
      · rfl
    · simp [store, hk]
  | rest w h =>
    refine .inr (.inr ⟨?_, Iff.rfl, id, Iff.rfl⟩)
    rcases h with rfl | ⟨k', rfl | rfl⟩ <;> exact id
  | _ =>
    refine .inr (.inr ⟨id, ?_, ?_, Iff.rfl⟩)
    all_goals simp [Worker.Backs, Worker.Stored]

theorem Turn.past {c d : Crew κ ι} {w w' : Worker κ} (h : Turn c w d w') (hw : w.Past) :
    w'.Past := by
  cases h <;> simp_all [Worker.Past]

variable [DecidableEq ι]

theorem past_run {c : Crew κ ι} {i : ι} (h : (c.workers i).Past) (ms : List (ι × Bool)) :
    ((c.run ms).workers i).Past :=
  workers_run_of_turn Turn.past h ms

/-! ## An installer that is said to be installing -/

/-- Where an installer is said to be installing, a thread stands for it. -/
def Backed (c : Crew κ ι) (k : κ) : Prop :=
  (c.installers k).phase = .installing → ∃ i, (c.workers i).Backs k

theorem Backed.step {c : Crew κ ι} {k : κ} (h : c.Backed k) (i : ι) (luck : Bool) :
    (c.step i luck).Backed k := by
  intro hphase
  obtain ⟨d, w, hturn, hstep⟩ := c.turn_step i luck
  have hself : (c.step i luck).workers i = w := by rw [hstep, workers_move]
  have hinstallers : (c.step i luck).installers = d.installers := by rw [hstep]; rfl
  rw [hinstallers] at hphase
  rcases hturn.phase k with ⟨root, es, -, hw', -⟩ | ⟨o, es, -, -, hnot⟩ | ⟨-, hbacks, -, hsame⟩
  · exact ⟨i, .inl (by rw [hself, hw']; rfl)⟩
  · exact absurd hphase hnot
  · obtain ⟨j, hj⟩ := h (hsame.1 hphase)
    refine ⟨j, ?_⟩
    by_cases hji : j = i
    · subst hji
      rw [hself]
      exact hbacks.2 hj
    · rwa [workers_step_of_ne c hji]

theorem Backed.run {c : Crew κ ι} {k : κ} (h : c.Backed k) (ms : List (ι × Bool)) :
    (c.run ms).Backed k := by
  induction ms generalizing c with
  | nil => exact h
  | cons m ms ih => exact ih (h.step m.1 m.2)

/-! ## An attempt that is settled late -/

/-- An attempt for an installer was settled when another thread had already stored the phase of its own
extraction. -/
def Overtaken (c : Crew κ ι) (ms : List (ι × Bool)) (k : κ) (i : ι) : Prop :=
  ∃ as m o, as ++ [m] <+: ms ∧ (c.run as).workers m.1 = .finished k o ∧
    ((c.run as).workers i).Stored k

theorem overtaken_concat (c : Crew κ ι) (ms : List (ι × Bool)) (m : ι × Bool) (k : κ) (i : ι) :
    c.Overtaken (ms ++ [m]) k i ↔ c.Overtaken ms k i ∨
      (∃ o, (c.run ms).workers m.1 = .finished k o) ∧ ((c.run ms).workers i).Stored k := by
  constructor
  · rintro ⟨as, m', o, hpre, hfinished, hstored⟩
    rcases List.prefix_concat_iff.1 hpre with heq | hpre
    · obtain ⟨rfl, hm⟩ := List.append_inj' heq rfl
      obtain rfl := List.singleton_inj.1 hm
      exact .inr ⟨⟨o, hfinished⟩, hstored⟩
    · exact .inl ⟨as, m', o, hpre, hfinished, hstored⟩
  · rintro (⟨as, m', o, hpre, hfinished, hstored⟩ | ⟨⟨o, hfinished⟩, hstored⟩)
    · exact ⟨as, m', o, hpre.trans (List.prefix_append ..), hfinished, hstored⟩
    · exact ⟨ms, m, o, List.prefix_rfl, hfinished, hstored⟩

theorem Overtaken.past {c : Crew κ ι} {ms : List (ι × Bool)} {k : κ} {i : ι}
    (h : c.Overtaken ms k i) : ((c.run ms).workers i).Past := by
  obtain ⟨as, m, o, hpre, -, hstored⟩ := h
  obtain ⟨bs, rfl⟩ := (List.prefix_append as [m]).trans hpre
  rw [run_append]
  exact past_run hstored.past bs

/-- From the moment when it stored its phase, an extraction is told by it until another attempt is
settled. -/
theorem phase_of_stored {c : Crew κ ι} (hc : c.Fresh) (ms : List (ι × Bool)) {k : κ} {i : ι}
    (hi : ((c.run ms).workers i).Stored k) :
    ((c.run ms).installers k).phase = .installing ↔ ¬ c.Overtaken ms k i := by
  induction ms using List.reverseRecOn with
  | nil => exact absurd hi (hc.workers i).not_stored
  | append_singleton ms m ih =>
    obtain ⟨owner, howned⟩ := hc.owned.run ms
    obtain ⟨d, w, hturn, hstep⟩ := (c.run ms).turn_step m.1 m.2
    have hrun : c.run (ms ++ [m]) = (c.run ms).step m.1 m.2 := by rw [run_append]; rfl
    have hinstallers : ((c.run ms).step m.1 m.2).installers = d.installers := by rw [hstep]; rfl
    rw [hrun] at hi
    rw [hrun, hinstallers, overtaken_concat, not_or]
    have hsettles : ¬ ((c.run ms).workers m.1).Between k →
        ¬ ((∃ o, (c.run ms).workers m.1 = .finished k o) ∧ ((c.run ms).workers i).Stored k) := by
      rintro hnot ⟨⟨o, hfinished⟩, -⟩
      exact hnot (by rw [hfinished]; rfl)
    by_cases him : i = m.1
    · subst him
      rw [hstep, workers_move] at hi
      rcases hturn.phase k with ⟨root, es, hw, -, hphase⟩ | ⟨o, es, -, hw', -⟩ |
          ⟨hnot, -, hback, hsame⟩
      · refine iff_of_true hphase ⟨fun h => ?_, ?_⟩
        · simpa [hw, Worker.Past] using h.past
        · simp [hw]
      · simp [hw', Worker.Stored] at hi
      · rw [hsame, ih (hback hi)]
        exact (and_iff_left (hsettles hnot)).symm
    · rw [workers_step_of_ne _ him] at hi
      rcases hturn.phase k with ⟨root, es, hw, -, -⟩ | ⟨o, es, hw, -, hphase⟩ |
          ⟨hnot, -, -, hsame⟩
      · -- two extractions would be under way
        have hflight := hi.flight?
        exact absurd (howned.unique (by simp [Worker.InFlight, hflight]) (by rw [hw]; rfl)) him
      · exact iff_of_false hphase fun h => h.2 ⟨⟨o, hw⟩, hi⟩
      · rw [hsame, ih hi]
        exact (and_iff_left (hsettles hnot)).symm

/-- Where no thread stands between its two sections, an installer is said to be installing exactly when
an extraction is under way for it, if and only if no attempt was settled after that extraction had stored
its phase. -/
theorem phase_agrees_iff {c : Crew κ ι} (hc : c.Fresh) {k : κ}
    (hk : (c.installers k).phase ≠ .installing) (ms : List (ι × Bool))
    (hrest : ∀ i, ¬ ((c.run ms).workers i).Between k) :
    (((c.run ms).installers k).phase = .installing ↔
        ∃ i, ((c.run ms).workers i).flight? = some k) ↔
      ∀ i, ((c.run ms).workers i).flight? = some k → ¬ c.Overtaken ms k i := by
  have hbacked : c.Backed k := fun h => absurd h hk
  constructor
  · intro hagrees i hi
    have hstored := Worker.stored_of_flight? hi (hrest i)
    exact (phase_of_stored hc ms hstored).1 (hagrees.2 ⟨i, hi⟩)
  · intro hnever
    constructor
    · intro hphase
      obtain ⟨i, hstored | ⟨o, hfinished⟩⟩ := hbacked.run ms hphase
      · exact ⟨i, hstored.flight?⟩
      · exact absurd (by rw [hfinished]; rfl) (hrest i)
    · rintro ⟨i, hi⟩
      have hstored := Worker.stored_of_flight? hi (hrest i)
      exact (phase_of_stored hc ms hstored).2 (hnever i hi)

/-- The threads around one installer: its directory comes, another try is asked for, it is closed. -/
inductive Caller where
  | resolver
  | retrier
  | closer
  deriving DecidableEq

def oneInstaller : Crew Unit Caller where
  slot := .fresh
  installers _ := .fresh
  workers
    | .resolver => .resolving () .empty
    | .retrier => .recalling ()
    | .closer => .closing ()
  reports := []

theorem oneInstaller_fresh : oneInstaller.Fresh := by
  refine ⟨rfl, fun i => ?_⟩
  cases i <;> exact trivial

/-- The first attempt fails and gives the slot back. -/
def firstFails : List (Caller × Bool) :=
  .replicate 5 (.resolver, true) ++ [(.resolver, false), (.resolver, true)]

/-- The other try begins, up to its extraction. -/
def otherTry : List (Caller × Bool) :=
  .replicate 5 (.retrier, true)

theorem phase_agrees_iff_oneInstaller :
    let ms := firstFails ++ [(.resolver, true), (.resolver, true)] ++ otherTry
    (∀ i, ¬ ((oneInstaller.run ms).workers i).Between ()) ∧
      ((oneInstaller.run ms).workers .retrier).flight? = some () ∧
      ∀ i, ((oneInstaller.run ms).workers i).flight? = some () →
        ¬ oneInstaller.Overtaken ms () i := by
  intro ms
  have hrest : ∀ i, ¬ ((oneInstaller.run ms).workers i).Between () := by
    intro i
    cases i <;> exact id
  have hflight : ((oneInstaller.run ms).workers .retrier).flight? = some () := rfl
  refine ⟨hrest, hflight, ?_⟩
  exact (phase_agrees_iff oneInstaller_fresh (by simp [oneInstaller, Installer.fresh]) ms hrest).1
    (iff_of_true rfl ⟨.retrier, hflight⟩)

/-- A first attempt that is settled while the other try extracts: another try is offered, the installer
reports an error when it is closed, and a success afterwards. -/
theorem not_phase_agrees :
    let d := oneInstaller.run (firstFails ++ otherTry ++ [(.resolver, true), (.resolver, true)])
    oneInstaller.Fresh ∧ (∀ i, ¬ (d.workers i).Between ()) ∧
      d.workers .retrier = .running () .empty ∧ (d.installers ()).phase = .awaitingRetry ∧
      (d.run (.replicate 2 (.closer, true) ++ .replicate 5 (.retrier, true))).reports =
        [((), .showInstalling), ((), .showInstalling), ((), .offerRetry),
          ((), .dataInstalled .error), ((), .dataInstalled .success), ((), .close)] := by
  refine ⟨oneInstaller_fresh, fun i => ?_, rfl, rfl, rfl⟩
  cases i <;> exact id

end Crew

end SpeechHost.Install
