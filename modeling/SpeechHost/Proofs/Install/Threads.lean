import Mathlib.Logic.Function.Basic
import Mathlib.Tactic.SplitIfs
import SpeechHost.Install.Attempt
/-!
# Installers on many threads

Any number of installers share one slot, and any number of threads work for them: they bring the
directory, ask for an attempt or for another try, extract, close an installer or reset the slot. What is
done under one lock is one step, `Crew.step`, and a schedule says which thread is next. A call that a host
makes when it gets a report is a thread of its own, which comes before the next step of the one that
reports.

A schedule also brings what is not up to the installers: whether a thread can be started, and whether an
extraction succeeds on a tree that others change as well.

When nobody comes between its steps, an attempt does what a site does at once (`run_attempt_alone`).
-/

namespace SpeechHost.Install

open SpeechHost.Storage

/-- A thread, by what it does next. An attempt goes from `asking` to `reporting`; its extraction goes on
on a thread of its own, when the caller has been told that it was started. -/
inductive Worker (κ : Type) where
  /-- The directory has come. -/
  | resolving (k : κ) (root : Path)
  /-- Another try is wanted. -/
  | recalling (k : κ)
  /-- An attempt is wanted. -/
  | asking (k : κ) (root : Path)
  /-- Nothing was started, and the caller was told so. -/
  | refused (k : κ)
  /-- The slot is taken. -/
  | claimed (k : κ) (root : Path)
  /-- The phase is stored, and this is to be reported before the extraction. -/
  | marked (k : κ) (root : Path) (events : List Event)
  /-- The extraction is running. -/
  | running (k : κ) (root : Path)
  /-- The extraction is over, or could not be started. -/
  | extracted (k : κ) (o : Outcome)
  /-- The slot is given back. -/
  | finished (k : κ) (o : Outcome)
  | closing (k : κ)
  /-- The phase is stored, and this is to be reported. -/
  | reporting (k : κ) (events : List Event)
  /-- The slot is to be reset. -/
  | resetting
  | ended

/-- Installers that share a slot, and the threads that work for them. -/
structure Crew (κ ι : Type) where
  slot : Slot
  installers : κ → Installer
  workers : ι → Worker κ
  reports : List (κ × Event)

namespace Crew

variable {κ ι : Type}

section Changes

variable [DecidableEq ι]

/-- Puts a thread elsewhere, and nothing else. -/
def move (c : Crew κ ι) (i : ι) (w : Worker κ) : Crew κ ι :=
  { c with workers := Function.update c.workers i w }

theorem workers_move (c : Crew κ ι) (i : ι) (w : Worker κ) : (c.move i w).workers i = w :=
  Function.update_self ..

theorem workers_move_of_ne (c : Crew κ ι) {i j : ι} (h : j ≠ i) (w : Worker κ) :
    (c.move i w).workers j = c.workers j :=
  Function.update_of_ne h ..

end Changes

variable [DecidableEq κ]

def store (c : Crew κ ι) (k : κ) (a : Installer) : Crew κ ι :=
  { c with installers := Function.update c.installers k a }

def report (c : Crew κ ι) (k : κ) (e : Event) : Crew κ ι :=
  { c with reports := c.reports ++ [(k, e)] }

variable [DecidableEq ι]

/-- One step of a thread. Luck says whether a thread can be started and whether an extraction succeeds,
and counts for no other step. -/
def step (c : Crew κ ι) (i : ι) (luck : Bool) : Crew κ ι :=
  match c.workers i with
  | .resolving k root => (c.store k ((c.installers k).resolveRoot root)).move i (.asking k root)
  | .recalling k =>
    match (c.installers k).root with
    | some root => c.move i (.asking k root)
    | none => c.move i (.refused k)
  | .asking k root =>
    match c.slot.tryBegin with
    | (true, slot) => { c with slot }.move i (.claimed k root)
    | (false, _) => c.move i (.refused k)
  | .claimed k root =>
    let (a, events) := (c.installers k).markInstalling
    (c.store k a).move i (.marked k root events)
  | .marked k root (e :: es) => (c.report k e).move i (.marked k root es)
  | .marked k root [] => c.move i (if luck then .running k root else .extracted k .failure)
  | .running k _ => c.move i (.extracted k (if luck then .success else .failure))
  | .extracted k o => { c with slot := c.slot.finish o }.move i (.finished k o)
  | .finished k o =>
    let (a, events) := (c.installers k).settle o
    (c.store k a).move i (.reporting k events)
  | .closing k =>
    let (a, events) := (c.installers k).close
    (c.store k a).move i (.reporting k events)
  | .reporting k (e :: es) => (c.report k e).move i (.reporting k es)
  | .resetting => { c with slot := c.slot.reset }.move i .ended
  | .refused _ | .reporting _ [] | .ended => c

def run (c : Crew κ ι) (ms : List (ι × Bool)) : Crew κ ι :=
  ms.foldl (fun c m => c.step m.1 m.2) c

@[simp] theorem run_nil (c : Crew κ ι) : c.run [] = c := rfl

@[simp] theorem run_cons (c : Crew κ ι) (i : ι) (luck : Bool) (ms : List (ι × Bool)) :
    c.run ((i, luck) :: ms) = (c.step i luck).run ms := rfl

theorem run_append (c : Crew κ ι) (ms ns : List (ι × Bool)) :
    c.run (ms ++ ns) = (c.run ms).run ns :=
  List.foldl_append ..

/-! ## What a step can do -/

/-- The turn of a thread: where it stands, what becomes of all that is shared, and where it stands then. -/
inductive Turn (c : Crew κ ι) : Worker κ → Crew κ ι → Worker κ → Prop where
  | resolve (k root) :
      Turn c (.resolving k root) (c.store k ((c.installers k).resolveRoot root)) (.asking k root)
  | recall (k root) (h : (c.installers k).root = some root) :
      Turn c (.recalling k) c (.asking k root)
  | lost (k) (h : (c.installers k).root = none) : Turn c (.recalling k) c (.refused k)
  | claim (k root) (h : c.slot.isOpen = true) :
      Turn c (.asking k root) { c with slot := { c.slot with installing := true } } (.claimed k root)
  | refuse (k root) (h : c.slot.isOpen = false) : Turn c (.asking k root) c (.refused k)
  | mark (k root) :
      Turn c (.claimed k root) (c.store k (c.installers k).markInstalling.1)
        (.marked k root (c.installers k).markInstalling.2)
  | announce (k root e es) : Turn c (.marked k root (e :: es)) (c.report k e) (.marked k root es)
  | start (k root) : Turn c (.marked k root []) c (.running k root)
  | startFails (k root) : Turn c (.marked k root []) c (.extracted k .failure)
  | extract (k root o) : Turn c (.running k root) c (.extracted k o)
  | finish (k o) : Turn c (.extracted k o) { c with slot := c.slot.finish o } (.finished k o)
  | settle (k o) :
      Turn c (.finished k o) (c.store k ((c.installers k).settle o).1)
        (.reporting k ((c.installers k).settle o).2)
  | close (k) :
      Turn c (.closing k) (c.store k (c.installers k).close.1)
        (.reporting k (c.installers k).close.2)
  | report (k e es) : Turn c (.reporting k (e :: es)) (c.report k e) (.reporting k es)
  | reset : Turn c .resetting { c with slot := c.slot.reset } .ended
  /-- Nothing is left to be done. -/
  | rest (w) (h : w = .ended ∨ ∃ k, w = .refused k ∨ w = .reporting k []) : Turn c w c w

theorem turn_step (c : Crew κ ι) (i : ι) (luck : Bool) :
    ∃ d w, Turn c (c.workers i) d w ∧ c.step i luck = d.move i w := by
  have hstay : c = c.move i (c.workers i) := by simp [move]
  cases hw : c.workers i with
  | recalling k =>
    cases hroot : (c.installers k).root with
    | some root => exact ⟨_, _, .recall k root hroot, by simp only [step, hw, hroot]⟩
    | none => exact ⟨_, _, .lost k hroot, by simp only [step, hw, hroot]⟩
  | asking k root =>
    cases hopen : c.slot.isOpen with
    | true => exact ⟨_, _, .claim k root hopen, by simp [step, hw, Slot.tryBegin, hopen]⟩
    | false => exact ⟨_, _, .refuse k root hopen, by simp [step, hw, Slot.tryBegin, hopen]⟩
  | marked k root events =>
    cases events with
    | cons e es => exact ⟨_, _, .announce k root e es, by simp only [step, hw]⟩
    | nil =>
      cases luck with
      | true => exact ⟨_, _, .start k root, by simp [step, hw]⟩
      | false => exact ⟨_, _, .startFails k root, by simp [step, hw]⟩
  | reporting k events =>
    cases events with
    | cons e es => exact ⟨_, _, .report k e es, by simp only [step, hw]⟩
    | nil => exact ⟨_, _, .rest _ (.inr ⟨k, .inr rfl⟩), by simpa only [step, hw] using hstay⟩
  | resolving k root => exact ⟨_, _, .resolve k root, by simp only [step, hw]⟩
  | claimed k root => exact ⟨_, _, .mark k root, by simp only [step, hw]⟩
  | running k root =>
    exact ⟨_, _, .extract k root (if luck then .success else .failure), by simp only [step, hw]⟩
  | extracted k o => exact ⟨_, _, .finish k o, by simp only [step, hw]⟩
  | finished k o => exact ⟨_, _, .settle k o, by simp only [step, hw]⟩
  | closing k => exact ⟨_, _, .close k, by simp only [step, hw]⟩
  | resetting => exact ⟨_, _, .reset, by simp only [step, hw]⟩
  | refused k => exact ⟨_, _, .rest _ (.inr ⟨k, .inl rfl⟩), by simpa only [step, hw] using hstay⟩
  | ended => exact ⟨_, _, .rest _ (.inl rfl), by simpa only [step, hw] using hstay⟩

omit [DecidableEq ι] in
theorem Turn.workers {c d : Crew κ ι} {w w' : Worker κ} (h : Turn c w d w') :
    d.workers = c.workers := by
  cases h <;> rfl

theorem workers_step_of_ne (c : Crew κ ι) {i j : ι} (h : j ≠ i) (luck : Bool) :
    (c.step i luck).workers j = c.workers j := by
  obtain ⟨d, w, hturn, hstep⟩ := c.turn_step i luck
  rw [hstep, workers_move_of_ne d h, hturn.workers]

theorem workers_step_self {c : Crew κ ι} {i : ι} {luck : Bool} {d : Crew κ ι} {w : Worker κ}
    (h : c.step i luck = d.move i w) : (c.step i luck).workers i = w := by
  rw [h, workers_move]

theorem workers_run_of_turn {P : Worker κ → Prop}
    (hP : ∀ {c d : Crew κ ι} {w w'}, Turn c w d w' → P w → P w') {c : Crew κ ι} {i : ι}
    (h : P (c.workers i)) (ms : List (ι × Bool)) : P ((c.run ms).workers i) := by
  induction ms generalizing c with
  | nil => exact h
  | cons m ms ih =>
    obtain ⟨j, luck⟩ := m
    rw [run_cons]
    apply ih
    by_cases hi : i = j
    · subst hi
      obtain ⟨d, w, hturn, hstep⟩ := c.turn_step i luck
      rw [hstep, workers_move]
      exact hP hturn h
    · rw [workers_step_of_ne c hi]
      exact h

/-! ## An attempt that is alone -/

theorem outcome_run (opened : Except Fault Bytes) (root : Path) (d : Disk) :
    (Installer.run opened root d).1 =
      if (Installer.run opened root d).1 == .success then .success else .failure := by
  cases opened with
  | error f => rfl
  | ok bytes =>
    rcases hextract : extract bytes root d with ⟨_ | _, d'⟩
    · simp [Installer.run, hextract]
    · simp [Installer.run, hextract]

theorem finish_passive (source : Source) (root : Path) (s : Site) :
    s.finish source .passive none root =
      let r := Installer.run (source.read s.opened s.disk) root s.disk
      (r.1, ⟨s.slot.finish r.1, (s.installer.settle r.1).1, s.opened + 1, r.2,
        s.events ++ (s.installer.settle r.1).2⟩) := by
  have htell : ∀ (s : Site) (e : Event),
      s.tell .passive none e = s.report s.installer [e] := by
    intro s e
    cases e <;> rfl
  have hreports : ∀ (es : List Event) (s : Site),
      es.foldl (Site.tell .passive none) s = s.report s.installer es := by
    intro es
    induction es with
    | nil => simp [Site.report]
    | cons e es ih =>
      intro s
      rw [List.foldl_cons, ih, htell]
      simp [Site.report]
  simp only [Site.finish, Site.run, hreports]
  rfl

theorem run_running {c : Crew κ ι} {i : ι} {k : κ} {root : Path} (h : c.workers i = .running k root)
    (luck : Bool) :
    let o : Outcome := if luck then .success else .failure
    c.run [(i, luck), (i, true), (i, true), (i, true), (i, true)] =
      ⟨c.slot.finish o, Function.update c.installers k ((c.installers k).settle o).1,
        Function.update c.workers i (.reporting k []),
        c.reports ++ ((c.installers k).settle o).2.map (k, ·)⟩ := by
  cases luck with
  | true => simp [step, h, move, store, report, Installer.settle]
  | false =>
    cases hclosing : (c.installers k).closing with
    | true => simp [step, h, move, store, report, Installer.settle, hclosing]
    | false => simp [step, h, move, store, report, Installer.settle, hclosing]

/-- An attempt whose steps nobody interrupts is made at once, when its extraction comes to the same. -/
theorem run_attempt_alone {c : Crew κ ι} {i : ι} {k : κ} {root : Path}
    (h : c.workers i = .asking k root) (source : Source) {s : Site} (hslot : s.slot = c.slot)
    (hinstaller : s.installer = c.installers k) :
    let a := s.attempt source .passive 0 root
    let d := c.run
      [(i, true), (i, true), (i, true), (i, true), (i, a.1 == some .success), (i, true), (i, true),
        (i, true), (i, true)]
    ∃ events, d.slot = a.2.slot ∧ d.installers k = a.2.installer ∧
      d.reports = c.reports ++ events.map (k, ·) ∧ a.2.events = s.events ++ events ∧
      (a.1 = none ↔ d.workers i = .refused k) := by
  intro a d
  cases hopen : c.slot.isOpen with
  | false =>
    have hbegin : s.begin = (false, s) := by simp [Site.begin, Slot.tryBegin, hslot, hopen]
    have ha : a = (none, s) := by simp [a, Site.attempt, hbegin]
    have hd : d = c.move i (.refused k) := by
      simp [d, step, h, Slot.tryBegin, hopen, move]
    rw [ha, hd]
    exact ⟨[], by simp [move, hslot, hinstaller]⟩
  | true =>
    -- the beginning, up to the extraction
    let begun : Site := ⟨{ s.slot with installing := true }, s.installer.markInstalling.1, s.opened,
      s.disk, s.events ++ [.showInstalling]⟩
    have hbegin : s.begin = (true, begun) := by
      simp [Site.begin, Slot.tryBegin, hslot, hopen, begun, Site.report, Installer.markInstalling]
    have ha : a = (some (begun.finish source .passive none root).1,
        (begun.finish source .passive none root).2) := by
      simp only [a, Site.attempt, hbegin, Site.complete]
    let mid : Crew κ ι := ⟨{ c.slot with installing := true },
      Function.update c.installers k (c.installers k).markInstalling.1,
      Function.update c.workers i (.running k root), c.reports ++ [(k, .showInstalling)]⟩
    have hmid : c.run [(i, true), (i, true), (i, true), (i, true)] = mid := by
      simp [step, h, Slot.tryBegin, hopen, move, store, report, mid, Installer.markInstalling]
    -- the extraction and what follows
    have hat : mid.workers i = .running k root := by simp [mid]
    have hrun := run_running hat (a.1 == some .success)
    have hd : d = mid.run [(i, a.1 == some .success), (i, true), (i, true), (i, true), (i, true)] := by
      rw [← hmid, ← run_append]
      rfl
    have hout := outcome_run (source.read begun.opened begun.disk) root begun.disk
    rw [finish_passive] at ha
    have hluck : (if a.1 == some .success then Outcome.success else .failure) =
        (Installer.run (source.read begun.opened begun.disk) root begun.disk).1 := by
      rw [ha, hout]
      simp
    rw [hd, hrun, hluck, ha]
    refine ⟨.showInstalling :: ((mid.installers k).settle
      (Installer.run (source.read begun.opened begun.disk) root begun.disk).1).2, ?_⟩
    simp [mid, begun, hslot, hinstaller]

end Crew

end SpeechHost.Install
