import SpeechHost.Proofs.Install.Threads
/-!
# One extraction at a time

The slot belongs to the thread that took it, from there until that thread gives it back
(`Crew.Owned`). So at most one extraction is under way, whoever asks; an attempt that is wanted
meanwhile is refused and a reset does nothing; and after a success the slot stays shut until it is reset
while nobody has it (`single_flight`).
-/

namespace SpeechHost.Install

variable {κ ι : Type}

namespace Worker

/-- The installer for which a thread makes an extraction, from taking the slot to giving it back. -/
def flight? : Worker κ → Option κ
  | .claimed k _ | .marked k _ _ | .running k _ | .extracted k _ => some k
  | _ => none

def InFlight (w : Worker κ) : Prop :=
  w.flight?.isSome = true

/-- A thread that has done nothing yet. -/
def AtStart : Worker κ → Prop
  | .resolving _ _ | .recalling _ | .asking _ _ | .closing _ | .resetting => True
  | _ => False

theorem AtStart.not_inFlight {w : Worker κ} (h : w.AtStart) : ¬ w.InFlight := by
  cases w <;> simp_all [AtStart, InFlight, flight?]

end Worker

namespace Crew

/-- A crew where nobody has begun. What came of earlier installations, and how far the installers are, is
left open. -/
structure Fresh (c : Crew κ ι) : Prop where
  slot : c.slot.installing = false
  workers : ∀ i, (c.workers i).AtStart

/-- A crew whose slot is taken by the thread that is in flight, or by none. -/
structure Owned (c : Crew κ ι) (owner : Option ι) : Prop where
  slot : c.slot.installing = owner.isSome
  workers : ∀ i, (c.workers i).InFlight ↔ owner = some i

theorem Fresh.owned {c : Crew κ ι} (h : c.Fresh) : c.Owned none := by
  refine ⟨h.slot, fun i => ?_⟩
  simpa using (h.workers i).not_inFlight

/-- Nobody has the slot, and nobody gets it. -/
structure Shut (c : Crew κ ι) : Prop where
  free : c.slot.installing = false
  last : c.slot.last = .success

theorem Shut.not_open {c : Crew κ ι} (h : c.Shut) : c.slot.isOpen = false := by
  simp [Slot.isOpen, h.last]

section Owners

variable {c : Crew κ ι} {owner : Option ι}

theorem Owned.taken (h : c.Owned owner) :
    c.slot.installing = true ↔ ∃ i, (c.workers i).InFlight := by
  rw [h.slot, Option.isSome_iff_exists]
  exact exists_congr fun i => (h.workers i).symm

theorem Owned.unique (h : c.Owned owner) {i j : ι} (hi : (c.workers i).InFlight)
    (hj : (c.workers j).InFlight) : i = j := by
  have hi := (h.workers i).1 hi
  have hj := (h.workers j).1 hj
  exact Option.some_inj.1 (hi.symm.trans hj)

theorem Owned.nobody (h : c.Owned owner) (hfree : c.slot.installing = false) (i : ι) :
    ¬ (c.workers i).InFlight := by
  intro hi
  have htaken := h.taken.2 ⟨i, hi⟩
  simp [hfree] at htaken

end Owners

variable [DecidableEq κ]

/-- A turn leaves the slot alone, or takes it, or gives it back, or resets it. -/
theorem Turn.slot {c d : Crew κ ι} {w w' : Worker κ} (h : Turn c w d w') :
    (d.slot = c.slot ∧ w'.flight? = w.flight? ∧ w ≠ .resetting) ∨
      (∃ k root, w = .asking k root ∧ w' = .claimed k root ∧ c.slot.isOpen = true ∧
        d.slot = { c.slot with installing := true }) ∨
      (∃ k o, w = .extracted k o ∧ w' = .finished k o ∧ d.slot = c.slot.finish o) ∨
      (w = .resetting ∧ w' = .ended ∧ d.slot = c.slot.reset) := by
  cases h with
  | claim k root hopen => exact .inr (.inl ⟨k, root, rfl, rfl, hopen, rfl⟩)
  | finish k o => exact .inr (.inr (.inl ⟨k, o, rfl, rfl, rfl⟩))
  | reset => exact .inr (.inr (.inr ⟨rfl, rfl, rfl⟩))
  | rest w h =>
    refine .inl ⟨rfl, rfl, ?_⟩
    rcases h with rfl | ⟨k, rfl | rfl⟩ <;> simp
  | _ => exact .inl ⟨rfl, rfl, by simp⟩

variable [DecidableEq ι]

omit [DecidableEq κ] in
theorem slot_move (c : Crew κ ι) (i : ι) (w : Worker κ) : (c.move i w).slot = c.slot := rfl

/-! ## The owner of the slot -/

theorem Owned.step {c : Crew κ ι} {owner : Option ι} (h : c.Owned owner) (i : ι) (luck : Bool) :
    ∃ owner, (c.step i luck).Owned owner := by
  obtain ⟨d, w, hturn, hstep⟩ := c.turn_step i luck
  have hslot : (c.step i luck).slot = d.slot := by rw [hstep, slot_move]
  -- only the thread whose turn it is can become the owner or cease to be it
  have hworkers : ∀ owner', (w.InFlight ↔ owner' = some i) →
      (∀ j, j ≠ i → (owner = some j ↔ owner' = some j)) →
      ∀ j, ((c.step i luck).workers j).InFlight ↔ owner' = some j := by
    intro owner' hself hothers j
    by_cases hj : j = i
    · subst hj
      rw [hstep, workers_move]
      exact hself
    · rw [workers_step_of_ne c hj, h.workers j]
      exact hothers j hj
  rcases hturn.slot with ⟨hd, hsame, -⟩ | ⟨k, root, -, hw', hopen, hd⟩ | ⟨k, o, hw, hw', hd⟩ |
      ⟨hw, hw', hd⟩
  · refine ⟨owner, by rw [hslot, hd, h.slot], hworkers owner ?_ fun j _ => Iff.rfl⟩
    rw [← h.workers i, Worker.InFlight, hsame, Worker.InFlight]
  · have hfree : c.slot.installing = false := by
      simp only [Slot.isOpen, Bool.and_eq_true, Bool.not_eq_true'] at hopen
      exact hopen.1
    have howner : owner = none := by simpa [hfree] using h.slot
    refine ⟨some i, by rw [hslot, hd]; rfl, hworkers _ ?_ fun j hj => ?_⟩
    · simp [hw', Worker.InFlight, Worker.flight?]
    · simp [howner, Ne.symm hj]
  · have howner : owner = some i := (h.workers i).1 (by rw [hw]; rfl)
    refine ⟨none, by rw [hslot, hd]; rfl, hworkers _ ?_ fun j hj => ?_⟩
    · simp [hw', Worker.InFlight, Worker.flight?]
    · simp [howner, Ne.symm hj]
  · have hreset : c.slot.reset.installing = c.slot.installing := by
      cases hi : c.slot.installing <;> simp [Slot.reset, hi]
    refine ⟨owner, by rw [hslot, hd, hreset, h.slot], hworkers owner ?_ fun j _ => Iff.rfl⟩
    rw [← h.workers i, hw, hw']
    simp [Worker.InFlight, Worker.flight?]

theorem Owned.run {c : Crew κ ι} {owner : Option ι} (h : c.Owned owner) (ms : List (ι × Bool)) :
    ∃ owner, (c.run ms).Owned owner := by
  induction ms generalizing c owner with
  | nil => exact ⟨owner, h⟩
  | cons m ms ih =>
    obtain ⟨owner', h'⟩ := h.step m.1 m.2
    exact ih h'

/-! ## Requests while one is under way -/

theorem step_asking {c : Crew κ ι} {i : ι} {k : κ} {root : Storage.Path}
    (hi : c.workers i = .asking k root) (htaken : c.slot.isOpen = false) (luck : Bool) :
    c.step i luck = c.move i (.refused k) := by
  simp [step, hi, Slot.tryBegin, htaken]

theorem step_resetting {c : Crew κ ι} {i : ι} (hi : c.workers i = .resetting)
    (htaken : c.slot.installing = true) (luck : Bool) : c.step i luck = c.move i .ended := by
  simp [step, hi, Slot.reset, htaken]

/-! ## After a success -/

theorem Shut.step {c : Crew κ ι} {owner : Option ι} (hc : c.Owned owner) (h : c.Shut) {i : ι}
    (hi : c.workers i ≠ .resetting) (luck : Bool) : (c.step i luck).Shut := by
  obtain ⟨d, w, hturn, hstep⟩ := c.turn_step i luck
  have hslot : (c.step i luck).slot = d.slot := by rw [hstep, slot_move]
  rcases hturn.slot with ⟨hd, -, -⟩ | ⟨k, root, -, -, hopen, -⟩ | ⟨k, o, hw, -, -⟩ | ⟨hw, -, -⟩
  · exact ⟨by rw [hslot, hd, h.free], by rw [hslot, hd, h.last]⟩
  · simp [h.not_open] at hopen
  · exact absurd (by rw [hw]; rfl) (hc.nobody h.free i)
  · exact absurd hw hi

/-- A slot that is shut stays so until it is reset while nobody has it. -/
theorem Shut.run {c : Crew κ ι} {owner : Option ι} (hc : c.Owned owner) (h : c.Shut)
    (ms : List (ι × Bool)) :
    (c.run ms).Shut ∨ ∃ as r luck bs, ms = as ++ (r, luck) :: bs ∧
      (c.run as).workers r = .resetting ∧ ∀ j, ¬ ((c.run as).workers j).InFlight := by
  induction ms generalizing c owner with
  | nil => exact .inl h
  | cons m ms ih =>
    by_cases hm : c.workers m.1 = .resetting
    · exact .inr ⟨[], m.1, m.2, ms, rfl, hm, fun j => hc.nobody h.free j⟩
    · obtain ⟨owner', hc'⟩ := hc.step m.1 m.2
      rcases ih hc' (h.step hc hm m.2) with hshut | ⟨as, r, luck, bs, rfl, hr, hnobody⟩
      · exact .inl hshut
      · exact .inr ⟨m :: as, r, luck, bs, rfl, hr, hnobody⟩

/-- However the threads of any number of installers come after each other: at most one extraction is
under way, the slot is taken exactly while one is, meanwhile nobody else gets it and a reset changes
nothing but the thread that asks for it, and after a success none begins before a reset that comes while
none is under way. -/
theorem single_flight {c : Crew κ ι} (hc : c.Fresh) (ms : List (ι × Bool)) :
    let d := c.run ms
    (∀ i j, (d.workers i).InFlight → (d.workers j).InFlight → i = j) ∧
      (d.slot.installing = true ↔ ∃ i, (d.workers i).InFlight) ∧
      (∀ j, (d.workers j).InFlight → ∀ i luck,
        (∀ k root, d.workers i = .asking k root → d.step i luck = d.move i (.refused k)) ∧
          (d.workers i = .resetting → d.step i luck = d.move i .ended)) ∧
      ∀ i k luck ns j, d.workers i = .extracted k .success →
        (((d.step i luck).run ns).workers j).InFlight →
          ∃ as r l bs, ns = as ++ (r, l) :: bs ∧
            ((d.step i luck).run as).workers r = .resetting ∧
              ∀ j, ¬ (((d.step i luck).run as).workers j).InFlight := by
  intro d
  obtain ⟨owner, hd⟩ := hc.owned.run ms
  refine ⟨fun i j => hd.unique, hd.taken, fun j hj i luck => ?_, ?_⟩
  · have htaken := hd.taken.2 ⟨j, hj⟩
    constructor
    · intro k root hi
      exact step_asking hi (by simp [Slot.isOpen, d, htaken]) luck
    · intro hi
      exact step_resetting hi htaken luck
  · intro i k luck ns j hi hj
    obtain ⟨owner', hd'⟩ := hd.step i luck
    have hshut : (d.step i luck).Shut := by
      constructor <;> simp [step, hi, move, Slot.finish]
    rcases hshut.run hd' ns with hlast | hreset
    · obtain ⟨owner'', hrun⟩ := hd'.run ns
      exact absurd hj (hrun.nobody hlast.free j)
    · exact hreset

/-- Two installers that want an attempt, and a thread that wants a reset. -/
def twoInstallers : Crew Bool (Fin 3) where
  slot := .fresh
  installers _ := .fresh
  workers i := if i = 2 then .resetting else .asking (i == 0) .empty
  reports := []

theorem twoInstallers_fresh : twoInstallers.Fresh := by
  refine ⟨rfl, fun i => ?_⟩
  by_cases hi : i = 2 <;> simp [twoInstallers, hi, Worker.AtStart]

theorem single_flight_twoInstallers :
    twoInstallers.Fresh ∧ ((twoInstallers.run [(0, true)]).workers 0).InFlight ∧
      (twoInstallers.run [(0, true)]).slot.installing = true ∧
      (twoInstallers.run [(0, true), (1, true)]).workers 1 = .refused false ∧
      (twoInstallers.run [(0, true), (2, true)]).slot = (twoInstallers.run [(0, true)]).slot := by
  obtain ⟨-, htaken, hbusy, -⟩ := single_flight twoInstallers_fresh [(0, true)]
  have hflight : ((twoInstallers.run [(0, true)]).workers 0).InFlight := rfl
  refine ⟨twoInstallers_fresh, hflight, htaken.2 ⟨0, hflight⟩, ?_, ?_⟩
  · have hrefused := (hbusy 0 hflight 1 true).1 false .empty rfl
    exact (congrArg (fun c => c.workers 1) hrefused).trans (workers_move ..)
  · have hreset := (hbusy 0 hflight 2 true).2 rfl
    exact (congrArg Crew.slot hreset).trans (slot_move ..)

end Crew

end SpeechHost.Install
