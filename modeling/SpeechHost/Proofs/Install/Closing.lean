import Mathlib.Data.List.Induction
import Mathlib.Data.List.Infix
import SpeechHost.Proofs.Install.Flight
import SpeechHost.Proofs.Install.Team
/-!
# Closing an installer while it extracts

One attempt is made for an installer, and any number of threads close it, each whenever its turn comes.
Who reports that the extraction failed is decided by the order of the sections: the end of the attempt
finds the installer closing and reports an error, or it offers another try and the first closing that
comes later turns that down (`Racing`). Either way those who wait for the data are told once
(`close_racing_attempt`).
-/

namespace SpeechHost.Install

variable {κ ι : Type}

namespace Worker

/-- The installer for which a thread works. -/
def installer? : Worker κ → Option κ
  | .resolving k _ | .recalling k | .asking k _ | .refused k | .claimed k _ | .marked k _ _
  | .running k _ | .extracted k _ | .finished k _ | .closing k | .reporting k _ => some k
  | .resetting | .ended => none

/-- A thread that has nothing left to do. -/
def Returned : Worker κ → Prop
  | .refused _ | .reporting _ [] | .ended => True
  | _ => False

/-- A thread on the way of an attempt, up to the section that stores the phase of its end. -/
def Attempts (k : κ) : Worker κ → Prop
  | .resolving k' _ | .recalling k' | .asking k' _ | .refused k' | .claimed k' _ | .marked k' _ _
  | .running k' _ | .extracted k' _ | .finished k' _ => k' = k
  | _ => False

/-- What a thread on the way of an attempt will still report before the extraction. -/
def toAnnounce : Worker κ → List Event
  | .resolving _ _ | .recalling _ | .asking _ _ | .refused _ | .claimed _ _ => [.showInstalling]
  | .marked _ _ es => es
  | _ => []

/-- What came of the extraction, as long as that is not stored. -/
def outcome? : Worker κ → Option Outcome
  | .extracted _ o | .finished _ o => some o
  | _ => none

/-- A thread that makes no extraction for an installer. -/
def Aside (k : κ) : Worker κ → Prop
  | .claimed k' _ | .marked k' _ _ | .running k' _ | .extracted k' _ | .finished k' _ => k' ≠ k
  | _ => True

/-- A thread that closes an installer, or has closed it. -/
def Closes (k : κ) (w : Worker κ) : Prop :=
  w = .closing k ∨ ∃ es, w = .reporting k es

/-- A thread that is past the question whether it gets the slot. -/
def Served : Worker κ → Prop
  | .resolving _ _ | .recalling _ | .asking _ _ | .refused _ => False
  | _ => True

end Worker

/-- What is reported in all when the phase that the end of an attempt stores is final. -/
def lastReports (o : Outcome) : List Event :=
  if o = .success then [.showInstalling, .dataInstalled .success, .close]
  else [.showInstalling, .dataInstalled .error]

/-- An attempt has failed, and that was told once. -/
structure FailedOnce (a : Installer) (es : List Event) : Prop where
  phase : a.phase = .failed
  error : es.count (.dataInstalled .error) = 1
  success : es.count (.dataInstalled .success) = 0
  offer : es.count .offerRetry ≤ 1
  close : es.count .close = 0

/-- An attempt has succeeded, and that was told once. -/
structure InstalledOnce (a : Installer) (es : List Event) : Prop where
  phase : a.phase = .completed
  success : es.count (.dataInstalled .success) = 1
  close : es.count .close = 1
  error : es.count (.dataInstalled .error) = 0
  offer : es.count .offerRetry = 0

namespace Crew

variable [DecidableEq κ]

/-! ## One turn -/

section Turns

variable {c d : Crew κ ι} {w w' : Worker κ} {j k : κ}

@[simp] theorem installers_store_self (a : Installer) : (c.store k a).installers k = a :=
  Function.update_self ..

@[simp] theorem installers_store_of_ne (h : k ≠ j) (a : Installer) :
    (c.store j a).installers k = c.installers k :=
  Function.update_of_ne h ..

@[simp] theorem reports_store (a : Installer) : (c.store k a).reports = c.reports := rfl

omit [DecidableEq κ] in
@[simp] theorem installers_report (e : Event) : (c.report k e).installers = c.installers := rfl

@[simp] theorem reportsBy_report_self (e : Event) :
    reportsBy k (c.report k e).reports = reportsBy k c.reports ++ [e] := by
  have hsaid := reportsBy_append c.reports ([e].map (k, ·)) (k := k)
  rw [reportsBy_map_self] at hsaid
  exact hsaid

@[simp] theorem reportsBy_report_of_ne (h : k ≠ j) (e : Event) :
    reportsBy k (c.report j e).reports = reportsBy k c.reports := by
  have hsaid := reportsBy_append c.reports ([e].map (j, ·)) (k := k)
  rw [reportsBy_map_of_ne h.symm, List.append_nil] at hsaid
  exact hsaid

theorem Turn.installer? (h : Turn c w d w') : w'.installer? = w.installer? := by
  cases h <;> rfl

theorem Turn.closes (h : Turn c w d w') (hw : w.Closes k) : w'.Closes k := by
  rcases hw with rfl | ⟨es, rfl⟩
  · cases h with
    | close => exact .inr ⟨_, rfl⟩
    | rest _ h => simp at h
  · cases h with
    | report _ e es => exact .inr ⟨es, rfl⟩
    | rest => exact .inr ⟨es, rfl⟩

theorem Turn.served (h : Turn c w d w') (hw : w.Served) : w'.Served := by
  cases h <;> simp_all [Worker.Served]

theorem Turn.aside (h : Turn c w d w') (hw : w.Aside k) (hw' : ∀ root, w' ≠ .claimed k root) :
    w'.Aside k ∧
      ((d.installers k).phase = (c.installers k).phase ∧
          (d.installers k).closing = (c.installers k).closing ∧
          reportsBy k d.reports = reportsBy k c.reports ∧
          (∀ fs, w' = .reporting k fs ↔ w = .reporting k fs) ∨
        w = .closing k ∧ w' = .reporting k (c.installers k).close.2 ∧
          d.installers k = (c.installers k).close.1 ∧
          reportsBy k d.reports = reportsBy k c.reports ∨
        ∃ e es, w = .reporting k (e :: es) ∧ w' = .reporting k es ∧
          d.installers k = c.installers k ∧
          reportsBy k d.reports = reportsBy k c.reports ++ [e]) := by
  cases h with
  | resolve j root =>
    refine ⟨trivial, .inl ⟨?_, ?_, rfl, by simp⟩⟩
    all_goals
      by_cases hj : k = j
      · subst hj
        simp [Installer.resolveRoot]
      · simp [hj]
  | claim j root =>
    have hj : k ≠ j := by
      rintro rfl
      exact hw' root rfl
    exact ⟨hj.symm, .inl ⟨rfl, rfl, rfl, by simp⟩⟩
  | mark j root =>
    have hj : k ≠ j := Ne.symm hw
    exact ⟨hw, .inl ⟨by simp [hj], by simp [hj], rfl, by simp⟩⟩
  | announce j root e es =>
    have hj : k ≠ j := Ne.symm hw
    exact ⟨hw, .inl ⟨rfl, rfl, by simp [hj], by simp⟩⟩
  | settle j o =>
    have hj : k ≠ j := Ne.symm hw
    exact ⟨trivial, .inl ⟨by simp [hj], by simp [hj], rfl, by simp [hj.symm]⟩⟩
  | close j =>
    refine ⟨trivial, ?_⟩
    by_cases hj : k = j
    · subst hj
      exact .inr (.inl ⟨rfl, rfl, by simp, rfl⟩)
    · exact .inl ⟨by simp [hj], by simp [hj], rfl, by simp [Ne.symm hj]⟩
  | report j e es =>
    refine ⟨trivial, ?_⟩
    by_cases hj : k = j
    · subst hj
      exact .inr (.inr ⟨e, es, rfl, rfl, rfl, by simp⟩)
    · exact .inl ⟨rfl, rfl, by simp [hj], by simp [Ne.symm hj]⟩
  | rest => exact ⟨hw, .inl ⟨rfl, rfl, rfl, fun _ => Iff.rfl⟩⟩
  | _ => exact ⟨hw, .inl ⟨rfl, rfl, rfl, by simp⟩⟩

theorem Turn.attempts (h : Turn c w d w') (hw : w.Attempts k) :
    (w'.Attempts k ∧
        reportsBy k d.reports ++ w'.toAnnounce = reportsBy k c.reports ++ w.toAnnounce ∧
        ((d.installers k).phase = (c.installers k).phase ∨
          (d.installers k).phase = .installing) ∧
        (d.installers k).closing = (c.installers k).closing ∧
        ∀ o, w'.outcome? = some o ↔ w.outcome? = some o ∨ w' = .extracted k o) ∨
      ∃ o, w = .finished k o ∧ w' = .reporting k ((c.installers k).settle o).2 ∧
        d.installers k = ((c.installers k).settle o).1 ∧
        reportsBy k d.reports = reportsBy k c.reports := by
  cases h with
  | resolve j root =>
    obtain rfl := hw
    refine .inl ⟨rfl, rfl, ?_⟩
    simp [Installer.resolveRoot, Worker.outcome?]
  | mark j root =>
    obtain rfl := hw
    refine .inl ⟨rfl, rfl, ?_⟩
    simp [Installer.markInstalling, Worker.outcome?]
  | announce j root e es =>
    obtain rfl := hw
    refine .inl ⟨rfl, ?_, ?_⟩
    · simp [Worker.toAnnounce]
    · simp [Worker.outcome?]
  | settle j o =>
    obtain rfl := hw
    exact .inr ⟨o, rfl, rfl, by simp, rfl⟩
  | close => exact hw.elim
  | report => exact hw.elim
  | reset => exact hw.elim
  | rest w h =>
    refine .inl ⟨hw, rfl, .inl rfl, rfl, fun o => ?_⟩
    rcases h with rfl | ⟨j, rfl | rfl⟩ <;> simp
  | _ =>
    obtain rfl := hw
    refine .inl ⟨rfl, rfl, .inl rfl, rfl, fun o => ?_⟩
    simp [Worker.outcome?]

end Turns

variable [DecidableEq ι]

/-! ## The race -/

/-- How far the race is between the attempt that a thread makes for an installer and the threads that
close it, and what the extraction came to. -/
inductive Racing (c : Crew κ ι) (k : κ) (i : ι) : Option Outcome → Prop where
  /-- The end of the attempt is not stored. -/
  | under (hat : (c.workers i).Attempts k)
      (hsaid : reportsBy k c.reports ++ (c.workers i).toAnnounce = [.showInstalling])
      (hphase : (c.installers k).phase ≠ .awaitingRetry)
      (hclosed : ∀ j ≠ i, ∀ fs, c.workers j = .reporting k fs →
        fs = [] ∧ (c.installers k).closing = true) :
      Racing c k i (c.workers i).outcome?
  /-- The end of the attempt was final. -/
  | settled (o : Outcome) (es : List Event) (hat : c.workers i = .reporting k es)
      (hsaid : (reportsBy k c.reports ++ es).Perm (lastReports o))
      (hphase : (c.installers k).phase = if o = .success then .completed else .failed)
      (hclosed : ∀ j ≠ i, ∀ fs, c.workers j = .reporting k fs → fs = []) :
      Racing c k i (some o)
  /-- Another try is offered, and nobody has closed. -/
  | offered (o : Outcome) (ho : o ≠ .success) (es : List Event)
      (hat : c.workers i = .reporting k es)
      (hsaid : (reportsBy k c.reports ++ es).Perm [.showInstalling, .offerRetry])
      (hphase : (c.installers k).phase = .awaitingRetry)
      (hclosed : ∀ j ≠ i, ∀ fs, c.workers j ≠ .reporting k fs) :
      Racing c k i (some o)
  /-- Another try was offered, and a thread that closed has turned it down. -/
  | abandoned (o : Outcome) (ho : o ≠ .success) (es fs : List Event) (b : ι) (hb : b ≠ i)
      (hat : c.workers i = .reporting k es) (hcloser : c.workers b = .reporting k fs)
      (hsaid : (reportsBy k c.reports ++ es ++ fs).Perm
        [.showInstalling, .offerRetry, .dataInstalled .error])
      (hphase : (c.installers k).phase = .failed)
      (hclosed : ∀ j ≠ i, j ≠ b → ∀ fs, c.workers j = .reporting k fs → fs = []) :
      Racing c k i (some o)

section Race

variable {c d : Crew κ ι} {k : κ} {i j : ι} {r : Option Outcome}

omit [DecidableEq ι] in
theorem Racing.congr (h : Racing c k i r) (hi : d.workers i = c.workers i)
    (hphase : (d.installers k).phase = (c.installers k).phase)
    (hclosing : (d.installers k).closing = (c.installers k).closing)
    (hsaid : reportsBy k d.reports = reportsBy k c.reports)
    (hothers : ∀ j fs, d.workers j = .reporting k fs ↔ c.workers j = .reporting k fs) :
    Racing d k i r := by
  cases h with
  | under hat hs hp hc =>
    rw [← hi] at hat hs ⊢
    refine .under hat (hsaid ▸ hs) (hphase ▸ hp) fun j hj fs hfs => ?_
    rw [hclosing]
    exact hc j hj fs ((hothers j fs).1 hfs)
  | settled o es hat hs hp hc =>
    exact .settled o es (hi.trans hat) (hsaid ▸ hs) (hphase.trans hp) fun j hj fs hfs =>
      hc j hj fs ((hothers j fs).1 hfs)
  | offered o ho es hat hs hp hc =>
    exact .offered o ho es (hi.trans hat) (hsaid ▸ hs) (hphase.trans hp) fun j hj fs hfs =>
      hc j hj fs ((hothers j fs).1 hfs)
  | abandoned o ho es fs b hb hat hcloser hs hp hc =>
    exact .abandoned o ho es fs b hb (hi.trans hat) ((hothers b fs).2 hcloser) (hsaid ▸ hs)
      (hphase.trans hp) fun j hj hjb fs hfs => hc j hj hjb fs ((hothers j fs).1 hfs)

omit [DecidableEq ι] in
theorem Racing.close (h : Racing c k i r) (hj : j ≠ i) (hwas : c.workers j = .closing k)
    (hat : d.workers j = .reporting k (c.installers k).close.2)
    (hne : ∀ x ≠ j, d.workers x = c.workers x)
    (hinstaller : d.installers k = (c.installers k).close.1)
    (hsaid : reportsBy k d.reports = reportsBy k c.reports) : Racing d k i r := by
  have hi := hne i hj.symm
  -- where no other try is offered, a closing owes nothing and keeps the phase
  have hkeeps : (c.installers k).phase ≠ .awaitingRetry →
      (∀ fs, d.workers j = .reporting k fs → fs = []) ∧
        (d.installers k).phase = (c.installers k).phase ∧ (d.installers k).closing = true := by
    intro hphase
    have hclose : (c.installers k).close = ({ c.installers k with closing := true }, []) := by
      simp [Installer.close, hphase]
    rw [hinstaller, hat, hclose]
    refine ⟨fun fs hfs => ?_, rfl, rfl⟩
    cases hfs
    rfl
  cases h with
  | under hatt hs hp hc =>
    obtain ⟨hnothing, hphase, hclosing⟩ := hkeeps hp
    rw [← hi] at hatt hs ⊢
    refine .under hatt (hsaid ▸ hs) (hphase ▸ hp) fun x hx fs hfs => ?_
    by_cases hxj : x = j
    · subst hxj
      exact ⟨hnothing fs hfs, hclosing⟩
    · rw [hne x hxj] at hfs
      exact ⟨(hc x hx fs hfs).1, hclosing⟩
  | settled o es hati hs hp hc =>
    obtain ⟨hnothing, hphase, -⟩ := hkeeps (by rw [hp]; split_ifs <;> simp)
    refine .settled o es (hi.trans hati) (hsaid ▸ hs) (hphase.trans hp) fun x hx fs hfs => ?_
    by_cases hxj : x = j
    · subst hxj
      exact hnothing fs hfs
    · rw [hne x hxj] at hfs
      exact hc x hx fs hfs
  | offered o ho es hati hs hp hc =>
    have hclose : (c.installers k).close =
        ({ c.installers k with closing := true, phase := .failed }, [.dataInstalled .error]) := by
      simp [Installer.close, hp]
    rw [hclose] at hat hinstaller
    refine .abandoned o ho es _ j hj (hi.trans hati) hat ?_ (by rw [hinstaller])
      fun x hx hxj fs hfs => ?_
    · rw [hsaid]
      exact hs.append_right [.dataInstalled .error]
    · rw [hne x hxj] at hfs
      exact absurd hfs (hc x hx fs)
  | abandoned o ho es fs b hb hati hcloser hs hp hc =>
    obtain ⟨hnothing, hphase, -⟩ := hkeeps (by rw [hp]; simp)
    have hbj : b ≠ j := by
      rintro rfl
      simp [hwas] at hcloser
    refine .abandoned o ho es fs b hb (hi.trans hati) ((hne b hbj).trans hcloser) (hsaid ▸ hs)
      (hphase.trans hp) fun x hx hxb gs hgs => ?_
    by_cases hxj : x = j
    · subst hxj
      exact hnothing gs hgs
    · rw [hne x hxj] at hgs
      exact hc x hx hxb gs hgs

omit [DecidableEq ι] in
theorem Racing.tell (h : Racing c k i r) (hj : j ≠ i) {e : Event} {es : List Event}
    (hwas : c.workers j = .reporting k (e :: es)) (hat : d.workers j = .reporting k es)
    (hne : ∀ x ≠ j, d.workers x = c.workers x) (hinstaller : d.installers k = c.installers k)
    (hsaid : reportsBy k d.reports = reportsBy k c.reports ++ [e]) : Racing d k i r := by
  cases h with
  | under _ _ _ hc => exact absurd (hc j hj _ hwas).1 (by simp)
  | settled _ _ _ _ _ hc => exact absurd (hc j hj _ hwas) (by simp)
  | offered _ _ _ _ _ _ hc => exact absurd hwas (hc j hj _)
  | abandoned o ho gs fs b hb hati hcloser hs hp hc =>
    have hbj : b = j := by
      by_contra hbj
      exact absurd (hc j hj (Ne.symm hbj) _ hwas) (by simp)
    subst hbj
    obtain rfl : e :: es = fs := by simpa [hwas] using hcloser
    refine .abandoned o ho gs es b hb ((hne i hj.symm).trans hati) hat ?_ (hinstaller ▸ hp)
      fun x hx hxb hs hhs => ?_
    · have hmoved : (e :: (gs ++ es)).Perm (gs ++ e :: es) := List.perm_middle.symm
      rw [hsaid]
      refine List.Perm.trans ?_ hs
      have hleft := hmoved.append_left (reportsBy k c.reports)
      simpa only [List.append_assoc, List.singleton_append, List.cons_append, List.nil_append]
        using hleft
    · rw [hne x hxb] at hhs
      exact hc x hx hxb _ hhs

theorem Racing.step_aside (h : Racing c k i r) (hj : j ≠ i) (haside : (c.workers j).Aside k)
    {luck : Bool} (hclaim : ∀ root, (c.step j luck).workers j ≠ .claimed k root) :
    Racing (c.step j luck) k i r ∧ ((c.step j luck).workers j).Aside k := by
  obtain ⟨d, w, hturn, hstep⟩ := c.turn_step j luck
  have hat := workers_step_self hstep
  have hne : ∀ x ≠ j, (c.step j luck).workers x = c.workers x := fun x hx =>
    workers_step_of_ne c hx luck
  have hinstallers : (c.step j luck).installers = d.installers := by rw [hstep]; rfl
  have hreports : (c.step j luck).reports = d.reports := by rw [hstep]; rfl
  rw [hat] at hclaim ⊢
  obtain ⟨haside', hcases⟩ := hturn.aside haside hclaim
  refine ⟨?_, haside'⟩
  obtain ⟨hphase, hclosing, hsaid, hsame⟩ | ⟨hwas, rfl, hinstaller, hsaid⟩ |
    ⟨e, es, hwas, rfl, hinstaller, hsaid⟩ := hcases
  · refine h.congr (hne i hj.symm) (by rw [hinstallers, hphase]) (by rw [hinstallers, hclosing])
      (by rw [hreports, hsaid]) fun x fs => ?_
    by_cases hx : x = j
    · subst hx
      rw [hat]
      exact hsame fs
    · rw [hne x hx]
  · exact h.close hj hwas hat hne (by rw [hinstallers, hinstaller]) (by rw [hreports, hsaid])
  · exact h.tell hj hwas hat hne (by rw [hinstallers, hinstaller]) (by rw [hreports, hsaid])

theorem step_reporting {es : List Event} (hi : c.workers i = .reporting k es) (luck : Bool) :
    ∃ fs, (c.step i luck).workers i = .reporting k fs ∧
      (c.step i luck).installers = c.installers ∧
      reportsBy k (c.step i luck).reports ++ fs = reportsBy k c.reports ++ es := by
  cases es with
  | nil =>
    have hstep : c.step i luck = c := by simp only [step, hi]
    rw [hstep]
    exact ⟨[], hi, rfl, rfl⟩
  | cons e es =>
    have hstep : c.step i luck = (c.report k e).move i (.reporting k es) := by
      simp only [step, hi]
    refine ⟨es, workers_step_self hstep, by rw [hstep]; rfl, ?_⟩
    have hreports : (c.step i luck).reports = (c.report k e).reports := by rw [hstep]; rfl
    simp [hreports]

omit [DecidableEq ι] in
theorem Racing.settle {o : Outcome} (hat : d.workers i = .reporting k ((c.installers k).settle o).2)
    (hinstaller : d.installers k = ((c.installers k).settle o).1)
    (hsaid : reportsBy k d.reports = [.showInstalling])
    (hclosed : ∀ j ≠ i, ∀ fs, d.workers j = .reporting k fs →
      fs = [] ∧ (c.installers k).closing = true) :
    Racing d k i (some o) := by
  have hnothing : ∀ j ≠ i, ∀ fs, d.workers j = .reporting k fs → fs = [] := fun j hj fs hfs =>
    (hclosed j hj fs hfs).1
  unfold Installer.settle at hat hinstaller
  by_cases ho : o = .success
  · subst ho
    refine .settled .success _ hat ?_ (by simp [hinstaller]) hnothing
    simp [hsaid, lastReports]
  · cases hclosing : (c.installers k).closing with
    | true =>
      simp only [beq_iff_eq, ho, hclosing, if_true, if_false] at hat hinstaller
      refine .settled o _ hat ?_ (by simp [hinstaller, ho]) hnothing
      simp [hsaid, lastReports, ho]
    | false =>
      simp only [beq_iff_eq, ho, hclosing, if_false, Bool.false_eq_true] at hat hinstaller
      refine .offered o ho _ hat ?_ (by rw [hinstaller]) fun j hj fs hfs => ?_
      · simp [hsaid]
      · exact absurd (hclosed j hj fs hfs).2 (by simp [hclosing])

theorem Racing.step_self (h : Racing c k i r) (luck : Bool) :
    ∃ s, Racing (c.step i luck) k i s ∧
      ∀ o, s = some o ↔ r = some o ∨ (c.step i luck).workers i = .extracted k o := by
  have hne : ∀ x ≠ i, (c.step i luck).workers x = c.workers x := fun x hx =>
    workers_step_of_ne c hx luck
  cases h with
  | under hat hs hp hc =>
    obtain ⟨d, w, hturn, hstep⟩ := c.turn_step i luck
    have hw := workers_step_self hstep
    have hinstallers : (c.step i luck).installers = d.installers := by rw [hstep]; rfl
    have hreports : (c.step i luck).reports = d.reports := by rw [hstep]; rfl
    obtain ⟨hatt, hsaid, hphase, hclosing, hout⟩ | ⟨o, hwas, rfl, hinstaller, hsaid⟩ :=
      hturn.attempts hat
    · refine ⟨w.outcome?, ?_, by rwa [hw]⟩
      rw [← hw] at hatt hsaid ⊢
      refine .under hatt (by rw [hreports, hsaid, hs]) ?_ fun j hj fs hfs => ?_
      · rw [hinstallers]
        rcases hphase with hphase | hphase
        · rwa [hphase]
        · simp [hphase]
      · rw [hne j hj] at hfs
        rw [hinstallers, hclosing]
        exact hc j hj fs hfs
    · have hannounced : reportsBy k c.reports = [.showInstalling] := by
        simpa [hwas, Worker.toAnnounce] using hs
      refine ⟨some o, Racing.settle hw (by rw [hinstallers, hinstaller])
        (by rw [hreports, hsaid, hannounced]) fun j hj fs hfs => ?_, ?_⟩
      · rw [hne j hj] at hfs
        exact hc j hj fs hfs
      · simp [hw, hwas, Worker.outcome?]
  | settled o es hat hs hp hc =>
    obtain ⟨fs, hat', hinstallers, hsaid⟩ := step_reporting hat luck
    refine ⟨some o, .settled o fs hat' (hsaid ▸ hs) (by rw [hinstallers, hp]) fun j hj gs hgs => ?_,
      by simp [hat']⟩
    rw [hne j hj] at hgs
    exact hc j hj gs hgs
  | offered o ho es hat hs hp hc =>
    obtain ⟨fs, hat', hinstallers, hsaid⟩ := step_reporting hat luck
    refine ⟨some o, .offered o ho fs hat' (hsaid ▸ hs) (by rw [hinstallers, hp]) fun j hj gs => ?_,
      by simp [hat']⟩
    rw [hne j hj]
    exact hc j hj gs
  | abandoned o ho es gs b hb hat hcloser hs hp hc =>
    obtain ⟨fs, hat', hinstallers, hsaid⟩ := step_reporting hat luck
    refine ⟨some o, .abandoned o ho fs gs b hb hat' ((hne b hb).trans hcloser) (hsaid ▸ hs)
      (by rw [hinstallers, hp]) fun j hj hjb hs hhs => ?_, by simp [hat']⟩
    rw [hne j hj] at hhs
    exact hc j hj hjb hs hhs

end Race

/-! ## A run -/

/-- A thread gets the slot for an installer in a run. -/
def Starts (c : Crew κ ι) (ms : List (ι × Bool)) (k : κ) (i : ι) : Prop :=
  ∃ as root, as <+: ms ∧ (c.run as).workers i = .claimed k root

/-- The extraction that a thread makes for an installer is over in a run, with an outcome. -/
def Ends (c : Crew κ ι) (ms : List (ι × Bool)) (k : κ) (i : ι) (o : Outcome) : Prop :=
  ∃ as, as <+: ms ∧ (c.run as).workers i = .extracted k o

/-- Threads of which none has begun its work for an installer that knows nothing yet, and of which one
at least will close it. What other installers and the slot are like is left open. -/
structure Race (c : Crew κ ι) (k : κ) : Prop where
  fresh : c.installers k = .fresh
  unheard : reportsBy k c.reports = []
  start : ∀ i, (c.workers i).installer? = some k → (c.workers i).AtStart
  closer : ∃ i, c.workers i = .closing k

section Run

variable {c : Crew κ ι} {k : κ} {i : ι} {ms : List (ι × Bool)}

theorem Starts.mono (h : c.Starts ms k i) (m : ι × Bool) : c.Starts (ms ++ [m]) k i := by
  obtain ⟨as, root, has, hi⟩ := h
  exact ⟨as, root, has.trans (List.prefix_append ms [m]), hi⟩

theorem ends_concat (c : Crew κ ι) (ms : List (ι × Bool)) (m : ι × Bool) (k : κ) (i : ι)
    (o : Outcome) :
    c.Ends (ms ++ [m]) k i o ↔
      c.Ends ms k i o ∨ (c.run (ms ++ [m])).workers i = .extracted k o := by
  constructor
  · rintro ⟨as, has, hi⟩
    rcases List.prefix_concat_iff.1 has with rfl | has
    · exact .inr hi
    · exact .inl ⟨as, has, hi⟩
  · rintro (⟨as, has, hi⟩ | hi)
    · exact ⟨as, has.trans (List.prefix_append ms [m]), hi⟩
    · exact ⟨_, List.prefix_rfl, hi⟩

omit [DecidableEq ι] in
theorem Race.aside (hc : c.Race k) (i : ι) : (c.workers i).Aside k := by
  by_cases hi : (c.workers i).installer? = some k
  · have hstart := hc.start i hi
    cases hw : c.workers i <;> simp_all [Worker.AtStart, Worker.Aside]
  · cases hw : c.workers i <;> simp_all [Worker.installer?, Worker.Aside]

/-- The thread that gets the slot wanted an attempt from the beginning. -/
theorem Race.attempts (hc : c.Race k) (hi : c.Starts ms k i) : (c.workers i).Attempts k := by
  obtain ⟨as, root, -, hclaimed⟩ := hi
  have hk : (c.workers i).installer? = some k := by
    have hsame := workers_run_of_turn (P := fun w => w.installer? = (c.workers i).installer?)
      (fun hturn h => hturn.installer?.trans h) rfl as (c := c) (i := i)
    rw [← hsame, hclaimed]
    rfl
  have hnot : c.workers i ≠ .closing k := by
    intro hclosing
    have hcloses := workers_run_of_turn Turn.closes (.inl hclosing : (c.workers i).Closes k) as
    simp [hclaimed, Worker.Closes] at hcloses
  have hstart := hc.start i hk
  cases hw : c.workers i <;> simp_all [Worker.AtStart, Worker.installer?, Worker.Attempts]

theorem Race.racing (hc : c.Race k) (hi : (c.workers i).Attempts k)
    (hone : ∀ j, c.Starts ms k j → j = i) :
    ∃ r, Racing (c.run ms) k i r ∧ (∀ j ≠ i, ((c.run ms).workers j).Aside k) ∧
      ∀ o, c.Ends ms k i o ↔ r = some o := by
  induction ms using List.reverseRecOn with
  | nil =>
    have hstart : (c.workers i).AtStart := by
      refine hc.start i ?_
      cases hw : c.workers i <;> simp_all [Worker.Attempts, Worker.installer?]
    have hquiet : ∀ j fs, c.workers j ≠ .reporting k fs := by
      intro j fs hj
      have hat := hc.start j (by rw [hj]; rfl)
      simp [hj, Worker.AtStart] at hat
    refine ⟨_, .under hi ?_ ?_ fun j _ fs hfs => absurd hfs (hquiet j fs), fun j _ => hc.aside j,
      fun o => ?_⟩
    · rw [run_nil, hc.unheard]
      cases hw : c.workers i <;> simp_all [Worker.AtStart, Worker.Attempts, Worker.toAnnounce]
    · simp [hc.fresh, Installer.fresh]
    · have hnone : ∀ o, c.workers i ≠ .extracted k o := by
        intro o ho
        simp [ho, Worker.AtStart] at hstart
      have hout : (c.workers i).outcome? = none := by
        cases hw : c.workers i <;> simp_all [Worker.AtStart, Worker.outcome?]
      simp [Ends, hnone, hout]
  | append_singleton ms m ih =>
    obtain ⟨j, luck⟩ := m
    obtain ⟨r, hracing, haside, hends⟩ := ih fun j hj => hone j (hj.mono _)
    have hrun : c.run (ms ++ [(j, luck)]) = (c.run ms).step j luck := by
      rw [run_append, run_cons, run_nil]
    by_cases hj : j = i
    · subst hj
      obtain ⟨s, hnext, hs⟩ := hracing.step_self luck
      refine ⟨s, hrun ▸ hnext, fun x hx => ?_, fun o => ?_⟩
      · rw [hrun, workers_step_of_ne _ hx]
        exact haside x hx
      · rw [ends_concat, hends, hs, hrun]
    · have hclaim : ∀ root, ((c.run ms).step j luck).workers j ≠ .claimed k root := by
        intro root hroot
        exact hj (hone j ⟨_, root, List.prefix_rfl, hrun ▸ hroot⟩)
      obtain ⟨hnext, haside'⟩ := hracing.step_aside hj (haside j hj) hclaim
      refine ⟨r, hrun ▸ hnext, fun x hx => ?_, fun o => ?_⟩
      · rw [hrun]
        by_cases hxj : x = j
        · subst hxj
          exact haside'
        · rw [workers_step_of_ne _ hxj]
          exact haside x hx
      · rw [ends_concat, hrun, workers_step_of_ne _ (Ne.symm hj), ← hends]
        exact or_iff_left_of_imp fun h => ⟨ms, List.prefix_rfl, h⟩

end Run

section Told

variable {a : Installer} {es : List Event} {o : Outcome}

theorem failedOnce_of_settled (ho : o ≠ .success) (hphase : a.phase = .failed)
    (hes : es.Perm (lastReports o)) : FailedOnce a es := by
  simp only [lastReports, if_neg ho] at hes
  refine ⟨hphase, hes.count_eq _, hes.count_eq _, ?_, hes.count_eq _⟩
  rw [hes.count_eq]
  decide

theorem failedOnce_of_abandoned (hphase : a.phase = .failed)
    (hes : es.Perm [.showInstalling, .offerRetry, .dataInstalled .error]) : FailedOnce a es := by
  refine ⟨hphase, hes.count_eq _, hes.count_eq _, ?_, hes.count_eq _⟩
  rw [hes.count_eq]
  decide

theorem installedOnce_of_settled (hphase : a.phase = .completed)
    (hes : es.Perm (lastReports .success)) : InstalledOnce a es :=
  ⟨hphase, hes.count_eq _, hes.count_eq _, hes.count_eq _, hes.count_eq _⟩

end Told

/-- One attempt is made for an installer that knows nothing yet, by the thread that gets the slot, and one
thread at least closes it, whatever the schedule. When all that work for the installer have returned, the
extraction came to an end; if it failed, an error was told once, and at most one other try was offered
before; if it succeeded, that was told once and the host was closed once. -/
theorem close_racing_attempt {c : Crew κ ι} {k : κ} (hc : c.Race k) {ms : List (ι × Bool)} {i : ι}
    (hone : ∀ j, c.Starts ms k j ↔ j = i)
    (hover : ∀ j, ((c.run ms).workers j).installer? = some k → ((c.run ms).workers j).Returned) :
    (∃ o, c.Ends ms k i o) ∧
      (∀ o, o ≠ .success → c.Ends ms k i o →
        FailedOnce ((c.run ms).installers k) (reportsBy k (c.run ms).reports)) ∧
      (c.Ends ms k i .success →
        InstalledOnce ((c.run ms).installers k) (reportsBy k (c.run ms).reports)) := by
  have hstarts : c.Starts ms k i := (hone i).2 rfl
  obtain ⟨r, hracing, -, hends⟩ := hc.racing (hc.attempts hstarts) fun j hj => (hone j).1 hj
  have hnothing : ∀ j es, (c.run ms).workers j = .reporting k es → es = [] := by
    intro j es hj
    have hreturned := hover j (by rw [hj]; rfl)
    cases es with
    | nil => rfl
    | cons e es => simp [hj, Worker.Returned] at hreturned
  simp only [hends]
  cases hracing with
  | under hat hsaid hphase hclosed =>
    -- a thread on its way returns only when it is refused, but this one got the slot
    obtain ⟨as, root, ⟨bs, rfl⟩, hclaimed⟩ := hstarts
    have hserved : (((c.run as).run bs).workers i).Served :=
      workers_run_of_turn Turn.served (by simp [hclaimed, Worker.Served]) bs
    rw [← run_append] at hserved
    have hreturned := hover i (by
      cases hw : (c.run (as ++ bs)).workers i <;> simp_all [Worker.Attempts, Worker.installer?])
    cases hw : (c.run (as ++ bs)).workers i <;>
      simp_all [Worker.Attempts, Worker.Returned, Worker.Served]
  | settled o es hat hsaid hphase hclosed =>
    obtain rfl := hnothing i es hat
    rw [List.append_nil] at hsaid
    refine ⟨⟨o, rfl⟩, ?_, ?_⟩
    · rintro o' ho' ⟨⟩
      exact failedOnce_of_settled ho' (by simpa [ho'] using hphase) hsaid
    · rintro ⟨⟩
      exact installedOnce_of_settled (by simpa using hphase) hsaid
  | offered o ho es hat hsaid hphase hclosed =>
    -- the thread that closes has returned, so it has stored its phase
    obtain ⟨j, hj⟩ := hc.closer
    have hcloses := workers_run_of_turn Turn.closes (.inl hj : (c.workers j).Closes k) ms
    have hji : j ≠ i := by
      rintro rfl
      have hatt := hc.attempts hstarts
      simp [hj, Worker.Attempts] at hatt
    rcases hcloses with hcloses | ⟨fs, hfs⟩
    · have hreturned := hover j (by rw [hcloses]; rfl)
      simp [hcloses, Worker.Returned] at hreturned
    · exact absurd hfs (hclosed j hji fs)
  | abandoned o ho es fs b hb hat hcloser hsaid hphase hclosed =>
    obtain rfl := hnothing i es hat
    obtain rfl := hnothing b fs hcloser
    rw [List.append_nil, List.append_nil] at hsaid
    refine ⟨⟨o, rfl⟩, fun _ _ _ => failedOnce_of_abandoned hphase hsaid, ?_⟩
    rintro ⟨⟩
    exact absurd rfl ho

/-- One thread makes an attempt, and two close the installer. -/
inductive Racer where
  | starter
  | closer
  | lateCloser
  deriving DecidableEq

def twoClosers : Crew Unit Racer where
  slot := .fresh
  installers _ := .fresh
  workers
    | .starter => .resolving () .empty
    | .closer => .closing ()
    | .lateCloser => .closing ()
  reports := []

theorem twoClosers_race : twoClosers.Race () := by
  refine ⟨rfl, rfl, fun i _ => ?_, .closer, rfl⟩
  cases i <;> exact trivial

/-- The extraction fails, and one thread turns the other try down before it is offered. -/
def lateClosing : List (Racer × Bool) :=
  .replicate 5 (.starter, true) ++
    [(.starter, false), (.starter, true), (.starter, true), (.closer, true), (.closer, true),
      (.starter, true), (.lateCloser, true)]

theorem close_racing_attempt_late :
    twoClosers.Race () ∧ (∀ j, twoClosers.Starts lateClosing () j ↔ j = .starter) ∧
      twoClosers.Ends lateClosing () .starter .failure ∧
      (twoClosers.run lateClosing).reports =
        [((), .showInstalling), ((), .dataInstalled .error), ((), .offerRetry)] ∧
      FailedOnce ((twoClosers.run lateClosing).installers ())
        (reportsBy () (twoClosers.run lateClosing).reports) := by
  have hnobody : ∀ j ≠ .starter, ∀ as ∈ lateClosing.inits,
      ((twoClosers.run as).workers j).flight? = none := by
    intro j hj
    cases j with
    | starter => exact absurd rfl hj
    | closer => decide
    | lateCloser => decide
  have hone : ∀ j, twoClosers.Starts lateClosing () j ↔ j = .starter := by
    intro j
    constructor
    · rintro ⟨as, root, has, hj⟩
      by_contra hne
      have hnone := hnobody j hne as ((List.mem_inits _ _).2 has)
      simp [hj, Worker.flight?] at hnone
    · rintro rfl
      exact ⟨lateClosing.take 2, .empty, List.take_prefix .., rfl⟩
  have hreturned : ∀ j, ((twoClosers.run lateClosing).workers j).Returned := by
    intro j
    cases j <;> exact trivial
  have hends : twoClosers.Ends lateClosing () .starter .failure :=
    ⟨lateClosing.take 6, List.take_prefix .., rfl⟩
  obtain ⟨-, hfailed, -⟩ := close_racing_attempt twoClosers_race hone fun j _ => hreturned j
  exact ⟨twoClosers_race, hone, hends, rfl, hfailed .failure (by decide) hends⟩

end Crew

end SpeechHost.Install
