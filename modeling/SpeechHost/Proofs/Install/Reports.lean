import Mathlib.Computability.RegularExpressions
import SpeechHost.Proofs.Install.Team
/-!
# What installers report

Whatever is asked of installers that share a slot, each of them reports round after round: a round says
that an attempt began and then how it ended (`reportWords`). Within the rounds it depends on the phase
what has been reported, and once those who wait for the data were told, the host is going away and no
other try is offered any more (`Reported`). The slot is taken while one installer is in its round
(`Team.Orderly`). A move keeps both, and so does a run of moves (`reports_in_rounds`).
-/

namespace SpeechHost.Install

open RegularExpression (char)

/-- How an attempt ends: all is done, or it failed for good, or another try is offered and perhaps turned
down. -/
def attemptEnd : RegularExpression Event :=
  char (.dataInstalled .success) * char .close + char (.dataInstalled .error) +
    char .offerRetry * (1 + char (.dataInstalled .error))

/-- What an installer may report in all. -/
def reportWords : RegularExpression Event :=
  .star (char .showInstalling * attemptEnd)

/-! ## Rounds -/

theorem mem_reportWords_nil : [] ∈ reportWords.matches' :=
  Language.nil_mem_kstar _

theorem mem_reportWords_append {w es : List Event} (hw : w ∈ reportWords.matches')
    (hes : es ∈ attemptEnd.matches') : w ++ .showInstalling :: es ∈ reportWords.matches' := by
  have hround : .showInstalling :: es ∈ (char Event.showInstalling * attemptEnd).matches' :=
    Language.mem_mul.2 ⟨[.showInstalling], rfl, es, hes, rfl⟩
  obtain ⟨rounds, rfl, hrounds⟩ := Language.mem_kstar.1 hw
  refine Language.mem_kstar.2 ⟨rounds ++ [.showInstalling :: es], by simp, fun r hr => ?_⟩
  rcases List.mem_append.1 hr with hr | hr
  · exact hrounds r hr
  · obtain rfl := List.mem_singleton.1 hr
    exact hround

theorem success_mem_attemptEnd : [.dataInstalled .success, .close] ∈ attemptEnd.matches' :=
  (attemptEnd.rmatch_iff_matches' _).1 rfl

theorem error_mem_attemptEnd : [.dataInstalled .error] ∈ attemptEnd.matches' :=
  (attemptEnd.rmatch_iff_matches' _).1 rfl

theorem offer_mem_attemptEnd : [.offerRetry] ∈ attemptEnd.matches' :=
  (attemptEnd.rmatch_iff_matches' _).1 rfl

theorem abandoned_mem_attemptEnd : [.offerRetry, .dataInstalled .error] ∈ attemptEnd.matches' :=
  (attemptEnd.rmatch_iff_matches' _).1 rfl

/-- Where in a round an installer is. -/
def InRound : Phase → List Event → Prop
  | .installing, es => ∃ w ∈ reportWords.matches', es = w ++ [.showInstalling]
  | .awaitingRetry, es => ∃ w ∈ reportWords.matches', es = w ++ [.showInstalling, .offerRetry]
  | _, es => es ∈ reportWords.matches'

theorem InRound.mem {p : Phase} {es : List Event} (h : InRound p es) (hp : p ≠ .installing) :
    es ∈ reportWords.matches' := by
  cases p with
  | installing => exact absurd rfl hp
  | awaitingRetry =>
    obtain ⟨w, hw, rfl⟩ := h
    exact mem_reportWords_append hw offer_mem_attemptEnd
  | awaitingRoot => exact h
  | completed => exact h
  | failed => exact h

/-- What was reported can always be continued to full rounds. -/
theorem InRound.continues {p : Phase} {es : List Event} (h : InRound p es) :
    ∃ w ∈ reportWords.matches', es <+: w := by
  by_cases hp : p = .installing
  · subst hp
    obtain ⟨w, hw, rfl⟩ := h
    refine ⟨_, mem_reportWords_append hw error_mem_attemptEnd, [.dataInstalled .error], ?_⟩
    simp
  · exact ⟨es, h.mem hp, List.prefix_rfl⟩

/-- The later of two reports offers no other try when the earlier one told those who wait for the
data. -/
def Event.NoOfferAfter (a b : Event) : Prop :=
  (∃ s, a = .dataInstalled s) → b ≠ .offerRetry

/-! ## One installer -/

/-- What an installer has reported fits how far it is. -/
structure Reported (a : Installer) (es : List Event) : Prop where
  round : InRound a.phase es
  waiting : a.phase = .awaitingRetry → a.closing = false
  gone : a.phase = .failed ∨ a.phase = .completed → a.closing = true
  told : ∀ s, .dataInstalled s ∈ es → a.closing = true
  offers : es.Pairwise Event.NoOfferAfter

namespace Reported

variable {a : Installer} {es : List Event}

theorem fresh : Reported .fresh [] where
  round := mem_reportWords_nil
  waiting := by simp [Installer.fresh]
  gone := by simp [Installer.fresh]
  told := by simp
  offers := .nil

theorem offers_append (h : Reported a es) {fs : List Event} (hfs : .offerRetry ∉ fs) :
    (es ++ fs).Pairwise Event.NoOfferAfter := by
  have hne : ∀ f ∈ fs, f ≠ .offerRetry := by
    rintro f hf rfl
    exact hfs hf
  refine List.pairwise_append.2 ⟨h.offers, ?_, fun _ _ f hf _ => hne f hf⟩
  exact List.pairwise_of_forall_mem_list fun _ _ f hf _ => hne f hf

theorem resolveRoot (h : Reported a es) (root : Storage.Path) : Reported (a.resolveRoot root) es :=
  ⟨h.round, h.waiting, h.gone, h.told, h.offers⟩

theorem markInstalling (h : Reported a es) (hphase : a.phase ≠ .installing) :
    Reported a.markInstalling.1 (es ++ a.markInstalling.2) where
  round := ⟨es, h.round.mem hphase, rfl⟩
  waiting := by simp [Installer.markInstalling]
  gone := by simp [Installer.markInstalling]
  told s hs := h.told s (by simpa [Installer.markInstalling] using hs)
  offers := h.offers_append (by simp [Installer.markInstalling])

theorem settle (h : Reported a es) (hphase : a.phase = .installing) (o : Outcome) :
    Reported (a.settle o).1 (es ++ (a.settle o).2) := by
  obtain ⟨w, hw, hes⟩ : InRound .installing es := hphase ▸ h.round
  have hround : ∀ fs, es ++ fs = w ++ .showInstalling :: fs := fun fs => by simp [hes]
  unfold Installer.settle
  split_ifs with hsuccess hclosing
  · refine ⟨?_, by simp, by simp, by simp, h.offers_append (by simp)⟩
    rw [hround]
    exact mem_reportWords_append hw success_mem_attemptEnd
  · refine ⟨?_, by simp, fun _ => hclosing, fun _ _ => hclosing, h.offers_append (by simp)⟩
    rw [hround]
    exact mem_reportWords_append hw error_mem_attemptEnd
  · -- nobody was told anything yet, for the host would be going away
    have hnot : ∀ s, .dataInstalled s ∉ es := fun s hs => hclosing (h.told s hs)
    refine ⟨⟨w, hw, hround _⟩, fun _ => by simpa using hclosing, by simp, fun s hs => ?_, ?_⟩
    · exact absurd (by simpa using hs) (hnot s)
    · refine List.pairwise_append.2 ⟨h.offers, List.pairwise_singleton .., ?_⟩
      rintro e he f - ⟨s, rfl⟩
      exact absurd he (hnot s)

theorem close (h : Reported a es) : Reported a.close.1 (es ++ a.close.2) := by
  unfold Installer.close
  split_ifs with hretry
  · obtain ⟨w, hw, hes⟩ : InRound .awaitingRetry es := beq_iff_eq.1 hretry ▸ h.round
    refine ⟨?_, by simp, by simp, by simp, h.offers_append (by simp)⟩
    have hround : es ++ [.dataInstalled .error] =
        w ++ [.showInstalling, .offerRetry, .dataInstalled .error] := by simp [hes]
    rw [hround]
    exact mem_reportWords_append hw abandoned_mem_attemptEnd
  · rw [List.append_nil]
    refine ⟨h.round, fun hwait => ?_, fun _ => rfl, fun _ _ => rfl, h.offers⟩
    exact absurd (beq_iff_eq.2 hwait) hretry

end Reported

/-! ## A team -/

namespace Team

variable {κ : Type} [DecidableEq κ]

/-- A team where nothing was asked for yet. How earlier installations ended is left open. -/
structure Fresh (t : Team κ) : Prop where
  slot : t.slot.installing = false
  installers : ∀ k, t.installers k = .fresh
  running : t.running = none
  reports : t.reports = []

/-- The slot is taken for the one installer that is installing, and all of them have reported what they
should. -/
structure Orderly (t : Team κ) : Prop where
  taken : t.slot.installing = t.running.isSome
  phase : ∀ k, (t.installers k).phase = .installing ↔ ∃ root, t.running = some (k, root)
  reported : ∀ k, Reported (t.installers k) (reportsBy k t.reports)

variable {t : Team κ}

theorem Fresh.orderly (h : t.Fresh) : t.Orderly where
  taken := by simp [h.slot, h.running]
  phase k := by simp [h.installers, h.running, Installer.fresh]
  reported k := by
    rw [h.installers, h.reports]
    exact .fresh

theorem Orderly.reported_tell (h : t.Orderly) {k : κ} {r : Installer × List Event}
    (hr : Reported r.1 (reportsBy k t.reports ++ r.2)) (j : κ) :
    Reported ((t.tell k r).installers j) (reportsBy j (t.tell k r).reports) := by
  simp only [tell, reportsBy_append]
  rcases eq_or_ne j k with rfl | hj
  · rwa [Function.update_self, reportsBy_map_self]
  · rw [Function.update_of_ne hj, reportsBy_map_of_ne hj.symm, List.append_nil]
    exact h.reported j

theorem Orderly.tell (h : t.Orderly) {k : κ} {r : Installer × List Event}
    (hphase : r.1.phase = .installing ↔ (t.installers k).phase = .installing)
    (hr : Reported r.1 (reportsBy k t.reports ++ r.2)) : (t.tell k r).Orderly where
  taken := h.taken
  phase j := by
    rcases eq_or_ne j k with rfl | hj
    · simpa [Team.tell, hphase] using h.phase j
    · simpa [Team.tell, hj] using h.phase j
  reported := h.reported_tell hr

theorem Orderly.running_of_open (h : t.Orderly) (hopen : t.slot.isOpen = true) :
    t.running = none := by
  simp only [Slot.isOpen, Bool.and_eq_true, Bool.not_eq_true'] at hopen
  simpa [hopen.1] using h.taken

theorem Orderly.start (h : t.Orderly) (k : κ) (root : Storage.Path) : (t.start k root).Orderly := by
  cases hopen : t.slot.isOpen with
  | false => rwa [start_of_shut hopen]
  | true =>
    have hnone := h.running_of_open hopen
    have hidle : ∀ j, (t.installers j).phase ≠ .installing := by
      intro j hj
      obtain ⟨root, hrunning⟩ := (h.phase j).1 hj
      simp [hnone] at hrunning
    rw [start_of_open hopen]
    refine ⟨rfl, fun j => ?_, h.reported_tell ((h.reported k).markInstalling (hidle k))⟩
    rcases eq_or_ne j k with rfl | hj
    · simp [Team.tell, Installer.markInstalling]
    · simp [Team.tell, hj, hj.symm, hidle j]

theorem Orderly.complete (h : t.Orderly) (o : Outcome) : (t.step (.complete o)).Orderly := by
  cases hrunning : t.running with
  | none => simpa [Team.step, hrunning] using h
  | some r =>
    obtain ⟨k, root⟩ := r
    have hphase : (t.installers k).phase = .installing := (h.phase k).2 ⟨root, hrunning⟩
    have hstep : t.step (.complete o) =
        { t.tell k ((t.installers k).settle o) with slot := t.slot.finish o, running := none } := by
      simp [Team.step, hrunning]
    rw [hstep]
    refine ⟨rfl, fun j => ?_, h.reported_tell ((h.reported k).settle hphase o)⟩
    rcases eq_or_ne j k with rfl | hj
    · simp only [Team.tell, Function.update_self, Installer.settle]
      split_ifs <;> simp
    · have hidle : (t.installers j).phase ≠ .installing := by
        intro hj'
        obtain ⟨root', hroot'⟩ := (h.phase j).1 hj'
        rw [hrunning] at hroot'
        exact hj (congrArg Prod.fst (Option.some_inj.1 hroot')).symm
      simp [Team.tell, hj, hidle]

theorem Orderly.step (h : t.Orderly) (m : Move κ) : (t.step m).Orderly := by
  cases m with
  | resolve k root =>
    refine Orderly.start (h.tell Iff.rfl ?_) k root
    simpa using (h.reported k).resolveRoot root
  | start k root => exact h.start k root
  | retry k =>
    cases hroot : (t.installers k).root with
    | none => simpa [Team.step, hroot] using h
    | some root => simpa [Team.step, hroot] using h.start k root
  | close k =>
    refine h.tell ?_ (h.reported k).close
    unfold Installer.close
    split_ifs with hretry
    · simp [beq_iff_eq.1 hretry]
    · rfl
  | reset =>
    refine ⟨?_, h.phase, h.reported⟩
    have htaken := h.taken
    cases hslot : t.slot.installing <;> simp_all [Team.step, Slot.reset]
  | complete o => exact h.complete o

theorem Orderly.run (h : t.Orderly) (ms : List (Move κ)) : (t.run ms).Orderly := by
  induction ms generalizing t with
  | nil => exact h
  | cons m ms ih => exact ih (h.step m)

/-- Of a taken slot, whose installer is the only one that is installing. -/
theorem Orderly.taken_iff (h : t.Orderly) :
    t.slot.installing = true ↔ ∃! k, (t.installers k).phase = .installing := by
  rw [h.taken, Option.isSome_iff_exists]
  constructor
  · rintro ⟨⟨k, root⟩, hrunning⟩
    refine ⟨k, (h.phase k).2 ⟨root, hrunning⟩, fun j hj => ?_⟩
    obtain ⟨root', hroot'⟩ := (h.phase j).1 hj
    exact congrArg Prod.fst (Option.some_inj.1 (hroot'.symm.trans hrunning))
  · rintro ⟨k, hk, -⟩
    obtain ⟨root, hrunning⟩ := (h.phase k).1 hk
    exact ⟨(k, root), hrunning⟩

/-! ## Extractions that were started -/

/-- Whether an extraction is running for an installer that was not running before. -/
def begins (k : κ) (t u : Team κ) : Bool :=
  t.running.isNone && u.running.map (·.1) == some k

/-- How many extractions some moves start for an installer. -/
def begun (k : κ) : Team κ → List (Move κ) → Nat
  | _, [] => 0
  | t, m :: ms => (begins k t (t.step m)).toNat + begun k (t.step m) ms

/-- An installer reports that an attempt began when an extraction is started for it. -/
def Announced (k : κ) (t u : Team κ) : Prop :=
  (reportsBy k u.reports).count .showInstalling =
    (reportsBy k t.reports).count .showInstalling + (begins k t u).toNat

variable {k j : κ}

theorem begins_of_running_eq {u : Team κ} (h : u.running = t.running) : begins k t u = false := by
  cases hrunning : t.running <;> simp [begins, h, hrunning]

theorem announced_refl (k : κ) (t : Team κ) : Announced k t t := by
  simp [Announced, begins_of_running_eq]

theorem announced_start (h : t.Orderly) (k j : κ) (root : Storage.Path) :
    Announced k t (t.start j root) := by
  cases hopen : t.slot.isOpen with
  | false =>
    rw [start_of_shut hopen]
    exact announced_refl k t
  | true =>
    have hnone := h.running_of_open hopen
    rw [start_of_open hopen]
    rcases eq_or_ne j k with rfl | hj
    · simp [Announced, begins, Team.tell, hnone, Installer.markInstalling, reportsBy]
    · simp [Announced, begins, Team.tell, hnone, Installer.markInstalling, reportsBy, hj]

theorem count_tell {r : Installer × List Event} (hr : .showInstalling ∉ r.2) (k j : κ) :
    (reportsBy k (t.tell j r).reports).count .showInstalling =
      (reportsBy k t.reports).count .showInstalling := by
  rcases eq_or_ne j k with rfl | hj
  · simp [Team.tell, List.count_eq_zero_of_not_mem hr]
  · simp [Team.tell, reportsBy_map_of_ne hj]

theorem announced_step (h : t.Orderly) (k : κ) (m : Move κ) : Announced k t (t.step m) := by
  cases m with
  | resolve j root =>
    have hlearn : (t.tell j ((t.installers j).resolveRoot root, [])).Orderly :=
      h.tell Iff.rfl (by simpa using (h.reported j).resolveRoot root)
    have hstart := announced_start hlearn k j root
    rw [Announced, count_tell (by simp)] at hstart
    exact hstart
  | start j root => exact announced_start h k j root
  | retry j =>
    cases hroot : (t.installers j).root with
    | none => simpa [Team.step, hroot] using announced_refl k t
    | some root => simpa [Team.step, hroot] using announced_start h k j root
  | close j =>
    have hclose : .showInstalling ∉ (t.installers j).close.2 := by
      unfold Installer.close
      split_ifs <;> simp
    have hsame : begins k t (t.step (.close j)) = false := begins_of_running_eq rfl
    rw [Announced, hsame]
    exact count_tell hclose k j
  | reset =>
    have hsame : begins k t (t.step .reset) = false := begins_of_running_eq rfl
    rw [Announced, hsame]
    rfl
  | complete o =>
    cases hrunning : t.running with
    | none => simpa [Team.step, hrunning] using announced_refl k t
    | some r =>
      have hsettle : .showInstalling ∉ ((t.installers r.1).settle o).2 := by
        unfold Installer.settle
        split_ifs <;> simp
      have hnot : begins k t (t.step (.complete o)) = false := by simp [begins, hrunning]
      rw [Announced, hnot]
      simpa [Team.step, hrunning] using count_tell (t := t) hsettle k r.1

theorem announced_run (h : t.Orderly) (k : κ) (ms : List (Move κ)) :
    (reportsBy k (t.run ms).reports).count .showInstalling =
      (reportsBy k t.reports).count .showInstalling + begun k t ms := by
  induction ms generalizing t with
  | nil => rfl
  | cons m ms ih =>
    have hstep := announced_step h k m
    rw [Announced] at hstep
    rw [run_cons, begun, ih (h.step m), hstep, Nat.add_assoc]

/-- However many installers share a slot and whatever is asked of them one after the other: what each of
them reports is the beginning of full rounds, with one announcement for every extraction that was started
for it, and once those who wait for the data were told no other try is offered. The slot is taken while
exactly one installer is installing, one that awaits another try is not going away, and one that is
through is. -/
theorem reports_in_rounds {t : Team κ} (ht : t.Fresh) (ms : List (Move κ)) :
    let u := t.run ms
    (u.slot.installing = true ↔ ∃! k, (u.installers k).phase = .installing) ∧
      ∀ k,
        let es := reportsBy k u.reports
        (∃ w ∈ reportWords.matches', es <+: w) ∧
          es.count .showInstalling = begun k t ms ∧
          es.Pairwise Event.NoOfferAfter ∧
          ((u.installers k).phase = .awaitingRetry → (u.installers k).closing = false) ∧
          ((u.installers k).phase = .failed ∨ (u.installers k).phase = .completed →
            (u.installers k).closing = true) := by
  have horderly := ht.orderly.run ms
  refine ⟨horderly.taken_iff, fun k => ?_⟩
  have hreported := horderly.reported k
  have hcount := announced_run ht.orderly k ms
  rw [ht.reports, reportsBy_nil, List.count_nil, Nat.zero_add] at hcount
  exact ⟨hreported.round.continues, hcount, hreported.offers, hreported.waiting, hreported.gone⟩

def pair : Team Bool := ⟨.fresh, fun _ => .fresh, none, []⟩

theorem pair_fresh : pair.Fresh := ⟨rfl, fun _ => rfl, rfl, rfl⟩

/-- The first installer fails, tries again and is closed meanwhile; the second one asks in between. -/
def pairMoves : List (Move Bool) :=
  [.resolve true .empty, .complete .failure, .retry true, .start false .empty, .close true,
    .complete .failure, .start false .empty, .complete .success]

theorem reports_in_rounds_pair :
    pair.Fresh ∧
      reportsBy true (pair.run pairMoves).reports =
        [.showInstalling, .offerRetry, .showInstalling, .dataInstalled .error] ∧
      reportsBy false (pair.run pairMoves).reports =
        [.showInstalling, .dataInstalled .success, .close] ∧
      begun true pair pairMoves = 2 ∧ begun false pair pairMoves = 1 := by
  obtain ⟨-, hreports⟩ := reports_in_rounds pair_fresh pairMoves
  obtain ⟨-, hfirst, -⟩ := hreports true
  obtain ⟨-, hsecond, -⟩ := hreports false
  exact ⟨pair_fresh, rfl, rfl, hfirst.symm, hsecond.symm⟩

end Team

end SpeechHost.Install
