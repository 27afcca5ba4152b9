import SpeechHost.Proofs.Install.Reports
/-!
# Where another try goes

An installer remembers the root that came for it last, also when the request that brought it was ignored
(`root_run`), and another try goes there. An installer that awaits another try has an attempt that failed
(`failures_ne_nil`). When this attempt was made at the remembered root and no root has come since
(`AtOwnRoot`), the other try goes where the attempt went that failed (`retry_resumes`).
-/

namespace SpeechHost.Install.Team

open SpeechHost.Storage

variable {κ : Type} [DecidableEq κ] {t : Team κ} {j k : κ} {root : Path} {m : Move κ}
  {ms : List (Move κ)}

/-! ## The root that is remembered -/

def brought? (k : κ) : Move κ → Option Path
  | .resolve j root => if j = k then some root else none
  | _ => none

/-- The root that came last for an installer. -/
def broughtLast (k : κ) (ms : List (Move κ)) : Option Path :=
  (ms.filterMap (brought? k)).getLast?

theorem broughtLast_cons (k : κ) (m : Move κ) (ms : List (Move κ)) :
    broughtLast k (m :: ms) = (broughtLast k ms).or (brought? k m) := by
  unfold broughtLast
  cases hm : brought? k m with
  | none => simp [hm]
  | some root => simp [hm, List.getLast?_cons, Option.or_some]

theorem root_tell {r : Installer × List Event} (hr : r.1.root = (t.installers j).root) (k : κ) :
    ((t.tell j r).installers k).root = (t.installers k).root := by
  rcases eq_or_ne k j with rfl | hk
  · simpa [tell] using hr
  · simp [tell, hk]

theorem root_start (t : Team κ) (j : κ) (root : Path) (k : κ) :
    ((t.start j root).installers k).root = (t.installers k).root := by
  cases hopen : t.slot.isOpen with
  | false => rw [start_of_shut hopen]
  | true =>
    rw [start_of_open hopen]
    exact root_tell rfl k

theorem root_settle (a : Installer) (o : Outcome) : (a.settle o).1.root = a.root := by
  unfold Installer.settle
  split_ifs <;> rfl

theorem root_close (a : Installer) : a.close.1.root = a.root := by
  unfold Installer.close
  split_ifs <;> rfl

theorem root_step (t : Team κ) (m : Move κ) (k : κ) :
    ((t.step m).installers k).root = (brought? k m).or (t.installers k).root := by
  cases m with
  | resolve j root =>
    refine (root_start _ j root k).trans ?_
    rcases eq_or_ne j k with rfl | hj
    · simp [tell, brought?, Installer.resolveRoot]
    · simp [tell, brought?, hj, hj.symm]
  | start j root => exact root_start t j root k
  | retry j =>
    cases hroot : (t.installers j).root with
    | none => simp [step, hroot, brought?]
    | some root => simpa [step, hroot, brought?] using root_start t j root k
  | close j => exact root_tell (root_close _) k
  | reset => rfl
  | complete o =>
    cases hrunning : t.running with
    | none => simp [step, hrunning, brought?]
    | some r => simpa [step, hrunning, brought?] using root_tell (root_settle (t.installers r.1) o) k

/-- An installer remembers the root that came last. -/
theorem root_run (t : Team κ) (ms : List (Move κ)) (k : κ) :
    ((t.run ms).installers k).root = (broughtLast k ms).or (t.installers k).root := by
  induction ms generalizing t with
  | nil => rfl
  | cons m ms ih => rw [run_cons, ih, root_step, broughtLast_cons, Option.or_assoc]

/-! ## Attempts that fail -/

/-- The root of the extraction for an installer that a move brings to a bad end. -/
def failing? (k : κ) (t : Team κ) : Move κ → Option Path
  | .complete o =>
    match t.running with
    | some (j, root) => if j = k ∧ o ≠ .success then some root else none
    | none => none
  | _ => none

/-- The roots of the attempts of an installer that fail in the course of some moves. -/
def failures (k : κ) : Team κ → List (Move κ) → List Path
  | _, [] => []
  | t, m :: ms => (failing? k t m).toList ++ failures k (t.step m) ms

theorem failures_append (k : κ) (t : Team κ) (ms ns : List (Move κ)) :
    failures k t (ms ++ ns) = failures k t ms ++ failures k (t.run ms) ns := by
  induction ms generalizing t with
  | nil => rfl
  | cons m ms ih => rw [List.cons_append, failures, failures, ih, run_cons, List.append_assoc]

theorem waiting_tell {r : Installer × List Event}
    (hr : r.1.phase = .awaitingRetry → (t.installers j).phase = .awaitingRetry)
    (h : ((t.tell j r).installers k).phase = .awaitingRetry) :
    (t.installers k).phase = .awaitingRetry := by
  rcases eq_or_ne k j with rfl | hk
  · exact hr (by simpa [tell] using h)
  · simpa [tell, hk] using h

theorem waiting_start (h : ((t.start j root).installers k).phase = .awaitingRetry) :
    (t.installers k).phase = .awaitingRetry := by
  cases hopen : t.slot.isOpen with
  | false => rwa [start_of_shut hopen] at h
  | true =>
    rw [start_of_open hopen] at h
    exact waiting_tell (r := (t.installers j).markInstalling) nofun h

theorem waiting_step (h : ((t.step m).installers k).phase = .awaitingRetry) :
    (t.installers k).phase = .awaitingRetry ∨ failing? k t m ≠ none := by
  cases m with
  | resolve j root =>
    have hbefore := waiting_start h
    exact .inl (waiting_tell (r := ((t.installers j).resolveRoot root, [])) id hbefore)
  | start j root => exact .inl (waiting_start h)
  | retry j =>
    left
    cases hroot : (t.installers j).root with
    | none => simpa [step, hroot] using h
    | some root => exact waiting_start (by simpa [step, hroot] using h)
  | close j =>
    refine .inl (waiting_tell (r := (t.installers j).close) ?_ h)
    unfold Installer.close
    split_ifs <;> simp
  | reset => exact .inl h
  | complete o =>
    cases hrunning : t.running with
    | none =>
      left
      simpa [step, hrunning] using h
    | some r =>
      rcases eq_or_ne r.1 k with rfl | hr
      · right
        have hfailed : o ≠ .success := by
          rintro rfl
          simp [step, hrunning, tell, Installer.settle] at h
        simp [failing?, hrunning, hfailed]
      · left
        simpa [step, hrunning, tell, hr.symm] using h

theorem failures_ne_nil (hwait : ((t.run ms).installers k).phase = .awaitingRetry)
    (hstart : (t.installers k).phase ≠ .awaitingRetry) : failures k t ms ≠ [] := by
  induction ms generalizing t with
  | nil => exact absurd hwait hstart
  | cons m ms ih =>
    rw [failures]
    by_cases hstep : ((t.step m).installers k).phase = .awaitingRetry
    · obtain ⟨root, hroot⟩ := Option.ne_none_iff_exists'.1 ((waiting_step hstep).resolve_left hstart)
      simp [hroot]
    · simp [ih hwait hstep]

/-! ## An attempt at the root that is remembered -/

theorem running_start (h : t.Orderly) (j : κ) (root : Path) :
    (t.start j root).running = t.running ∨
      (t.running = none ∧ (t.start j root).running = some (j, root)) := by
  cases hopen : t.slot.isOpen with
  | false =>
    rw [start_of_shut hopen]
    exact .inl rfl
  | true =>
    rw [start_of_open hopen]
    exact .inr ⟨h.running_of_open hopen, rfl⟩

theorem running_step (h : t.Orderly) (m : Move κ) (hafter : (t.step m).running = some (k, root)) :
    t.running = some (k, root) ∨ begins k t (t.step m) = true := by
  have hbegins : ∀ {u : Team κ}, u.running = some (k, root) → u.running = t.running ∨ t.running = none →
      t.running = some (k, root) ∨ begins k t u = true := by
    rintro u hu (heq | hnone)
    · exact .inl (heq ▸ hu)
    · exact .inr (by simp [begins, hnone, hu])
  cases m with
  | resolve j r =>
    have hlearn : (t.tell j ((t.installers j).resolveRoot r, [])).Orderly :=
      h.tell Iff.rfl (by simpa using (h.reported j).resolveRoot r)
    exact hbegins hafter ((running_start hlearn j r).imp_right And.left)
  | start j r => exact hbegins hafter ((running_start h j r).imp_right And.left)
  | retry j =>
    cases hroot : (t.installers j).root with
    | none => exact .inl (by simpa [step, hroot] using hafter)
    | some r =>
      have hstep : t.step (.retry j) = t.start j r := by simp [step, hroot]
      rw [hstep] at hafter ⊢
      exact hbegins hafter ((running_start h j r).imp_right And.left)
  | close j => exact .inl hafter
  | reset => exact .inl hafter
  | complete o =>
    cases hrunning : t.running with
    | none => simp [step, hrunning] at hafter
    | some r => simp [step, hrunning] at hafter

theorem eq_of_mem_failures (h : t.Orderly)
    (hrunning : ∀ r, t.running = some (k, r) → r = root) (hlast : begun k t ms = 0)
    {r : Path} (hr : r ∈ failures k t ms) : r = root := by
  induction ms generalizing t with
  | nil => simp [failures] at hr
  | cons m ms ih =>
    rw [begun, Nat.add_eq_zero_iff, Bool.toNat_eq_zero] at hlast
    obtain ⟨hnot, hrest⟩ := hlast
    rw [failures, List.mem_append, Option.mem_toList] at hr
    rcases hr with hr | hr
    · cases m with
      | complete o =>
        cases hrun : t.running with
        | none => simp [failing?, hrun] at hr
        | some x =>
          obtain ⟨j, r'⟩ := x
          simp only [failing?, hrun, Option.ite_none_right_eq_some, Option.some.injEq] at hr
          obtain ⟨⟨rfl, -⟩, rfl⟩ := hr
          exact hrunning r' hrun
      | _ => simp [failing?] at hr
    · refine ih (h.step m) (fun r' hr' => ?_) hrest hr
      rcases running_step h m hr' with hbefore | hbegins
      · exact hrunning r' hbefore
      · simp [hnot] at hbegins

/-- The last attempt of an installer was made at the root that it remembered, and no root has come for it
since. -/
def AtOwnRoot (k : κ) (t : Team κ) (ms : List (Move κ)) : Prop :=
  ∃ as m bs, ms = as ++ m :: bs ∧ (m = .retry k ∨ ∃ root, m = .resolve k root) ∧
    begins k (t.run as) ((t.run as).step m) = true ∧ begun k ((t.run as).step m) bs = 0 ∧
    broughtLast k bs = none

theorem running_start_of_begins (h : begins k t (t.start k root) = true) :
    (t.start k root).running = some (k, root) := by
  cases hopen : t.slot.isOpen with
  | false => simp [start_of_shut hopen, begins_of_running_eq] at h
  | true => rw [start_of_open hopen]

theorem running_of_begins (hm : m = .retry k ∨ ∃ root, m = .resolve k root)
    (h : begins k t (t.step m) = true) :
    ∃ root, (t.step m).running = some (k, root) ∧ ((t.step m).installers k).root = some root := by
  rcases hm with rfl | ⟨root, rfl⟩
  · cases hroot : (t.installers k).root with
    | none =>
      have hstep : t.step (.retry k) = t := by simp [step, hroot]
      simp [hstep, begins_of_running_eq] at h
    | some root =>
      have hstep : t.step (.retry k) = t.start k root := by simp [step, hroot]
      rw [hstep] at h ⊢
      exact ⟨root, running_start_of_begins h, (root_start t k root k).trans hroot⟩
  · refine ⟨root, running_start_of_begins (t := t.tell k _) h, ?_⟩
    rw [root_step]
    simp [brought?]

/-- The attempt that failed last went to the root that is remembered. -/
theorem getLast?_failures (h : t.Orderly) (hown : AtOwnRoot k t ms)
    (hwait : ((t.run ms).installers k).phase = .awaitingRetry) :
    (failures k t ms).getLast? = ((t.run ms).installers k).root := by
  obtain ⟨as, m, bs, rfl, hm, hbegins, hlast, hnone⟩ := hown
  have horderly := (h.run as).step m
  obtain ⟨root, hrunning, hroot⟩ := running_of_begins hm hbegins
  have hrun : t.run (as ++ m :: bs) = ((t.run as).step m).run bs := by
    rw [run, List.foldl_append]
    rfl
  have hsplit : failures k t (as ++ m :: bs) =
      failures k t (as ++ [m]) ++ failures k ((t.run as).step m) bs := by
    rw [failures_append, failures_append, failures, failures, failures, List.append_nil,
      List.append_assoc]
  rw [hrun] at hwait ⊢
  rw [hsplit]
  generalize (t.run as).step m = u at *
  -- from here on only this attempt can fail, and it does
  have hphase : (u.installers k).phase = .installing := (horderly.phase k).2 ⟨root, hrunning⟩
  have hfails : failures k u bs ≠ [] := failures_ne_nil hwait (by simp [hphase])
  have hroots : (failures k u bs).getLast hfails = root :=
    eq_of_mem_failures horderly (by simp [hrunning, eq_comm]) hlast (List.getLast_mem hfails)
  rw [List.getLast?_append_of_ne_nil _ hfails, List.getLast?_eq_getLast_of_ne_nil hfails, hroots,
    root_run, hnone, Option.none_or, hroot]

/-! ## Another try -/

/-- Where installers share a slot and are asked for one thing after the other: when one of them awaits
another try and the slot is open, an attempt of it has failed, and the other try that it is asked for begins
at the root that has come for it last. This is where the attempt went that failed, when that was made at the
root that was remembered and none has come since. -/
theorem retry_resumes {t : Team κ} (ht : t.Fresh) (ms : List (Move κ)) (k : κ)
    (hwait : ((t.run ms).installers k).phase = .awaitingRetry)
    (hidle : (t.run ms).slot.installing = false) (hlast : (t.run ms).slot.last ≠ .success) :
    let u := t.run ms
    let v := u.step (.retry k)
    ∃ failed, (failures k t ms).getLast? = some failed ∧
      (∀ root, broughtLast k ms = some root →
        v.running = some (k, root) ∧ v.slot.installing = true ∧
          (v.installers k).phase = .installing ∧ v.reports = u.reports ++ [(k, .showInstalling)]) ∧
      (AtOwnRoot k t ms → v.running = some (k, failed)) := by
  intro u v
  have hfresh : (t.installers k) = .fresh := ht.installers k
  have hfails : failures k t ms ≠ [] := failures_ne_nil hwait (by simp [hfresh, Installer.fresh])
  have hopen : u.slot.isOpen = true := by simp [u, Slot.isOpen, hidle, hlast]
  have hroot : (u.installers k).root = broughtLast k ms := by
    rw [root_run, hfresh]
    exact Option.or_none
  have hbegin : ∀ root, (u.installers k).root = some root → v = u.start k root := fun root h => by
    simp [v, step, h]
  refine ⟨(failures k t ms).getLast hfails, List.getLast?_eq_getLast_of_ne_nil hfails, ?_, ?_⟩
  · intro root hbrought
    rw [hbegin root (hroot.trans hbrought), start_of_open hopen]
    refine ⟨rfl, rfl, ?_, rfl⟩
    simp [tell, Installer.markInstalling]
  · intro hown
    have hfailed := getLast?_failures ht.orderly hown hwait
    rw [List.getLast?_eq_getLast_of_ne_nil hfails] at hfailed
    rw [hbegin _ hfailed.symm, start_of_open hopen]

/-- The first installer fails, and fails again in another try, while the second one asks in vain. -/
def resumeMoves : List (Move Bool) :=
  [.resolve true ⟨["d"]⟩, .complete .failure, .retry true, .start false ⟨["e"]⟩, .complete .failure]

theorem retry_resumes_pair :
    let u := pair.run resumeMoves
    (u.installers true).phase = .awaitingRetry ∧ u.slot.installing = false ∧ u.slot.last = .failure ∧
      broughtLast true resumeMoves = some ⟨["d"]⟩ ∧ AtOwnRoot true pair resumeMoves ∧
      (failures true pair resumeMoves).getLast? = some ⟨["d"]⟩ ∧
      (u.step (.retry true)).running = some (true, ⟨["d"]⟩) := by
  intro u
  have hown : AtOwnRoot true pair resumeMoves :=
    ⟨[.resolve true ⟨["d"]⟩, .complete .failure], .retry true,
      [.start false ⟨["e"]⟩, .complete .failure], rfl, .inl rfl, rfl, rfl, rfl⟩
  obtain ⟨failed, hfailed, -, hresumes⟩ := retry_resumes pair_fresh resumeMoves true rfl rfl (by decide)
  have hroot : (failures true pair resumeMoves).getLast? = some ⟨["d"]⟩ := rfl
  obtain rfl : failed = ⟨["d"]⟩ := Option.some.inj (hfailed.symm.trans hroot)
  exact ⟨rfl, rfl, rfl, rfl, hown, hroot, hresumes hown⟩

/-- An ignored request takes another try elsewhere, and none is made after an attempt at a root that did not
come to be remembered. -/
theorem retry_strays :
    let ignored : List (Move Bool) := [.resolve true ⟨["d"]⟩, .resolve true ⟨["e"]⟩, .complete .failure]
    let bare : List (Move Bool) := [.start true ⟨["d"]⟩, .complete .failure]
    (∀ ms ∈ [ignored, bare],
      ((pair.run ms).installers true).phase = .awaitingRetry ∧
        (pair.run ms).slot.installing = false ∧ (pair.run ms).slot.last = .failure ∧
        (failures true pair ms).getLast? = some ⟨["d"]⟩) ∧
      ((pair.run ignored).step (.retry true)).running = some (true, ⟨["e"]⟩) ∧
      ((pair.run bare).step (.retry true)).running = none := by
  intro ignored bare
  refine ⟨?_, rfl, rfl⟩
  intro ms hms
  simp only [List.mem_cons, List.not_mem_nil, or_false] at hms
  rcases hms with rfl | rfl
  · exact ⟨rfl, rfl, rfl, rfl⟩
  · exact ⟨rfl, rfl, rfl, rfl⟩

end SpeechHost.Install.Team
