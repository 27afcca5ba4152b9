import SpeechHost.Proofs.Install.Threads
/-!
# Installers that take turns

Any number of installers share one slot, and whatever is asked of them is done as a whole before the
next thing comes: an attempt up to the start of its extraction, the end of the extraction that is
running, a closing, a reset. `Team.step` is one of these moves. It is what the threads of a crew do
when nobody comes between the steps of one of them (`run_move_alone`).
-/

namespace SpeechHost.Install

open SpeechHost.Storage

inductive Move (κ : Type) where
  /-- The directory has come, and an attempt is wanted. -/
  | resolve (k : κ) (root : Path)
  /-- An attempt is wanted. -/
  | start (k : κ) (root : Path)
  /-- Another try is wanted. -/
  | retry (k : κ)
  | close (k : κ)
  | reset
  /-- The extraction that is running is over. -/
  | complete (o : Outcome)

/-- Installers that share a slot. -/
structure Team (κ : Type) where
  slot : Slot
  installers : κ → Installer
  /-- For whom an extraction is running, and where to. -/
  running : Option (κ × Path)
  reports : List (κ × Event)

variable {κ ι : Type} [DecidableEq κ]

/-- What one installer reported. -/
def reportsBy (k : κ) (reports : List (κ × Event)) : List Event :=
  (reports.filter (·.1 = k)).map (·.2)

section Reports

variable {k j : κ}

@[simp] theorem reportsBy_nil : reportsBy k [] = [] := rfl

@[simp] theorem reportsBy_append (a b : List (κ × Event)) :
    reportsBy k (a ++ b) = reportsBy k a ++ reportsBy k b := by
  simp [reportsBy]

@[simp] theorem reportsBy_map_self (es : List Event) : reportsBy k (es.map (k, ·)) = es := by
  simp [reportsBy, List.filter_map, Function.comp_def]

theorem reportsBy_map_of_ne (h : j ≠ k) (es : List Event) : reportsBy k (es.map (j, ·)) = [] := by
  simp [reportsBy, List.filter_map, Function.comp_def, h]

end Reports

namespace Team

/-- Puts an installer in the place of one and adds what it reports. -/
def tell (t : Team κ) (k : κ) (r : Installer × List Event) : Team κ :=
  { t with
    installers := Function.update t.installers k r.1
    reports := t.reports ++ r.2.map (k, ·) }

def start (t : Team κ) (k : κ) (root : Path) : Team κ :=
  match t.slot.tryBegin with
  | (true, slot) => { t.tell k (t.installers k).markInstalling with slot, running := some (k, root) }
  | (false, _) => t

def step (t : Team κ) : Move κ → Team κ
  | .resolve k root => (t.tell k ((t.installers k).resolveRoot root, [])).start k root
  | .start k root => t.start k root
  | .retry k =>
    match (t.installers k).root with
    | some root => t.start k root
    | none => t
  | .close k => t.tell k (t.installers k).close
  | .reset => { t with slot := t.slot.reset }
  | .complete o =>
    match t.running with
    | some (k, _) =>
      { t.tell k ((t.installers k).settle o) with slot := t.slot.finish o, running := none }
    | none => t

def run (t : Team κ) (ms : List (Move κ)) : Team κ :=
  ms.foldl step t

@[simp] theorem run_nil (t : Team κ) : t.run [] = t := rfl

@[simp] theorem run_cons (t : Team κ) (m : Move κ) (ms : List (Move κ)) :
    t.run (m :: ms) = (t.step m).run ms := rfl

/-! ## What a beginning comes to -/

theorem start_of_open {t : Team κ} (h : t.slot.isOpen = true) (k : κ) (root : Path) :
    t.start k root =
      { t.tell k (t.installers k).markInstalling with
        slot := { t.slot with installing := true }, running := some (k, root) } := by
  simp [start, Slot.tryBegin, h]

theorem start_of_shut {t : Team κ} (h : t.slot.isOpen = false) (k : κ) (root : Path) :
    t.start k root = t := by
  simp [start, Slot.tryBegin, h]

/-! ## A thread that is alone -/

variable [DecidableEq ι]

/-- A thread that is about to make a move. -/
def Makes (t : Team κ) (w : Worker κ) : Move κ → Prop
  | .resolve k root => w = .resolving k root
  | .start k root => w = .asking k root
  | .retry k => w = .recalling k
  | .close k => w = .closing k
  | .reset => w = .resetting
  | .complete o => o ≠ .unknown ∧ ∃ k root, t.running = some (k, root) ∧ w = .running k root

/-- The steps that a thread needs for a move. -/
def steps (i : ι) : Move κ → List (ι × Bool)
  | .resolve _ _ | .retry _ => .replicate 5 (i, true)
  | .start _ _ => .replicate 4 (i, true)
  | .close _ => .replicate 2 (i, true)
  | .reset => [(i, true)]
  | .complete o => (i, o == .success) :: .replicate 4 (i, true)

/-- A crew that has come as far as a team, with a thread for the extraction that is running. -/
structure Shows (c : Crew κ ι) (t : Team κ) : Prop where
  slot : c.slot = t.slot
  installers : c.installers = t.installers
  reports : c.reports = t.reports
  running : ∀ k root, t.running = some (k, root) → ∃ j, c.workers j = .running k root

variable {c d : Crew κ ι} {t : Team κ} {i : ι} {k : κ} {root : Path}

omit [DecidableEq κ] in
/-- A thread that is not extracting takes no extraction away. -/
theorem Shows.keeps_running (h : Shows c t) (hi : ∀ k root, c.workers i ≠ .running k root)
    {w : Worker κ} (hd : d.workers = Function.update c.workers i w) :
    ∀ k root, t.running = some (k, root) → ∃ j, d.workers j = .running k root := by
  intro k root hrunning
  obtain ⟨j, hj⟩ := h.running k root hrunning
  have hne : j ≠ i := by
    rintro rfl
    exact hi k root hj
  exact ⟨j, by rw [hd, Function.update_of_ne hne, hj]⟩

omit [DecidableEq κ] in
theorem Shows.move (h : Shows c t) (hi : ∀ k root, c.workers i ≠ .running k root) (w : Worker κ) :
    Shows (c.move i w) t :=
  ⟨h.slot, h.installers, h.reports, h.keeps_running hi rfl⟩

theorem Shows.start (h : Shows c t) (hi : c.workers i = .asking k root) :
    Shows (c.run (.replicate 4 (i, true))) (t.start k root) := by
  have hslot := h.slot
  cases hopen : t.slot.isOpen with
  | true =>
    have hrun : c.run (.replicate 4 (i, true)) =
        ⟨{ c.slot with installing := true },
          Function.update c.installers k (c.installers k).markInstalling.1,
          Function.update c.workers i (.running k root), c.reports ++ [(k, .showInstalling)]⟩ := by
      simp [Crew.step, hi, Slot.tryBegin, hslot, hopen, Crew.move, Crew.store, Crew.report,
        Installer.markInstalling, List.replicate]
    rw [start_of_open hopen, hrun]
    refine ⟨?_, ?_, ?_, ?_⟩
    · simp [hslot]
    · simp [tell, h.installers]
    · simp [tell, h.reports, Installer.markInstalling]
    · intro k' root' hsome
      obtain ⟨rfl, rfl⟩ : k = k' ∧ root = root' := by simpa using hsome
      exact ⟨i, Function.update_self ..⟩
  | false =>
    have hrun : c.run (.replicate 4 (i, true)) = c.move i (.refused k) := by
      simp [Crew.step, hi, Slot.tryBegin, hslot, hopen, Crew.move, List.replicate]
    rw [start_of_shut hopen, hrun]
    exact h.move (by simp [hi]) _

theorem Shows.resolve (h : Shows c t) (hi : c.workers i = .resolving k root) :
    Shows (c.run (.replicate 5 (i, true)))
      ((t.tell k ((t.installers k).resolveRoot root, [])).start k root) := by
  have hasked : c.step i true =
      (c.store k ((c.installers k).resolveRoot root)).move i (.asking k root) := by
    simp [Crew.step, hi]
  have hshows : Shows (c.step i true) (t.tell k ((t.installers k).resolveRoot root, [])) := by
    rw [hasked]
    refine ⟨h.slot, ?_, ?_, h.keeps_running (by simp [hi]) rfl⟩
    · simp [Crew.move, Crew.store, tell, h.installers]
    · simp [Crew.move, Crew.store, tell, h.reports]
  exact hshows.start (by rw [hasked, Crew.workers_move])

theorem Shows.retry (h : Shows c t) (hi : c.workers i = .recalling k) :
    Shows (c.run (.replicate 5 (i, true))) (t.step (.retry k)) := by
  cases hroot : (t.installers k).root with
  | none =>
    have hrun : c.run (.replicate 5 (i, true)) = c.move i (.refused k) := by
      simp [Crew.step, hi, h.installers, hroot, Crew.move, List.replicate]
    have hstep : t.step (.retry k) = t := by simp [step, hroot]
    rw [hrun, hstep]
    exact h.move (by simp [hi]) _
  | some root =>
    have hasked : c.step i true = c.move i (.asking k root) := by
      simp [Crew.step, hi, h.installers, hroot]
    have hstep : t.step (.retry k) = t.start k root := by simp [step, hroot]
    rw [hstep]
    refine Shows.start (c := c.step i true) ?_ (by rw [hasked, Crew.workers_move])
    rw [hasked]
    exact h.move (by simp [hi]) _

theorem Shows.close (h : Shows c t) (hi : c.workers i = .closing k) :
    Shows (c.run (.replicate 2 (i, true))) (t.tell k (t.installers k).close) := by
  have hrun : c.run (.replicate 2 (i, true)) =
      ⟨c.slot, Function.update c.installers k (c.installers k).close.1,
        Function.update c.workers i (.reporting k []),
        c.reports ++ (c.installers k).close.2.map (k, ·)⟩ := by
    cases hretry : ((c.installers k).phase == .awaitingRetry) with
    | true =>
      simp [Crew.step, hi, Crew.move, Crew.store, Crew.report, Installer.close, hretry,
        List.replicate]
    | false =>
      simp [Crew.step, hi, Crew.move, Crew.store, Installer.close, hretry, List.replicate]
  rw [hrun]
  refine ⟨h.slot, ?_, ?_, h.keeps_running (by simp [hi]) rfl⟩
  · simp [tell, h.installers]
  · simp [tell, h.installers, h.reports]

theorem Shows.complete (h : Shows c t) {o : Outcome} (ho : o ≠ .unknown)
    (hrunning : t.running = some (k, root)) (hi : c.workers i = .running k root) :
    Shows (c.run ((i, o == .success) :: .replicate 4 (i, true))) (t.step (.complete o)) := by
  have hluck : (if o == .success then Outcome.success else .failure) = o := by
    cases o <;> simp_all
  have hrun : c.run ((i, o == .success) :: .replicate 4 (i, true)) =
      ⟨c.slot.finish o, Function.update c.installers k ((c.installers k).settle o).1,
        Function.update c.workers i (.reporting k []),
        c.reports ++ ((c.installers k).settle o).2.map (k, ·)⟩ := by
    have hrun := Crew.run_running hi (o == .success)
    simp only [hluck] at hrun
    exact hrun
  rw [hrun]
  refine ⟨?_, ?_, ?_, ?_⟩
  · simp [step, hrunning, h.slot]
  · simp [step, hrunning, tell, h.installers]
  · simp [step, hrunning, tell, h.installers, h.reports]
  · intro k' root' hsome
    simp [step, hrunning] at hsome

/-- A move is what a thread does whose steps nobody interrupts. -/
theorem run_move_alone (h : Shows c t) {m : Move κ} (hi : t.Makes (c.workers i) m) :
    Shows (c.run (steps i m)) (t.step m) := by
  cases m with
  | resolve k root => exact h.resolve hi
  | start k root => exact h.start hi
  | retry k => exact h.retry hi
  | close k => exact h.close hi
  | reset =>
    replace hi : c.workers i = .resetting := hi
    have hrun : c.run (steps i (.reset : Move κ)) = { c with slot := c.slot.reset }.move i .ended := by
      simp [steps, Crew.step, hi]
    rw [hrun]
    refine ⟨?_, h.installers, h.reports, h.keeps_running (by simp [hi]) rfl⟩
    simp [Crew.move, step, h.slot]
  | complete o =>
    obtain ⟨ho, k, root, hrunning, hat⟩ := hi
    exact h.complete ho hrunning hat

end Team

end SpeechHost.Install
