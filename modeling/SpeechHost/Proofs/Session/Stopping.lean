import SpeechHost.Proofs.Session.Speeches
import SpeechHost.Proofs.Session.Threads
import SpeechHost.Rehearsal.Sink
import SpeechHost.Rehearsal.StandIn
/-!
# What a stop ends

A stop waits for the lock once. When it gets it, a speech that had begun before is either through, or is
still on its way to the lock. The first hands over nothing any more, whatever the others do. The second
has not been stopped: its utterance begins by forgetting earlier stops, so that it is spoken like a
speech that is asked for when the stop has returned (`silent_or_spoken_after_stop`).

The invariant is that the lock belongs to the caller who stands between taking it and giving it back
(`Booth.Sound`).
-/

namespace SpeechHost

open SpeechHost.Audio SpeechHost.Storage

variable {σ ι : Type}

/-- Whether a speech stands between taking the lock and giving it back. -/
def SpeechStage.Inside : SpeechStage → Prop
  | .holding | .begun | .recited _ | .playing _ | .played _ | .finished _ => True
  | _ => False

/-- Whether a stop stands before the lock. -/
def StopStage.Before : StopStage → Prop
  | .idle | .called | .asking | .asked _ => True
  | _ => False

/-- Whether a caller has the lock. -/
def Caller.Holds : Caller σ → Prop
  | .speech _ _ stage => stage.Inside
  | .stop (.holding _) => True
  | .stop _ => False

namespace Booth

/-- A booth with an open session where nobody has begun. -/
structure Fresh (m : Booth σ ι) : Prop where
  released : m.session.released = false
  lock : m.lock = none
  callers : ∀ i, (∃ text out, m.callers i = .speech text out .idle) ∨ m.callers i = .stop .idle

/-- A booth with an open session where the lock belongs to the caller who took it. -/
structure Sound (m : Booth σ ι) : Prop where
  released : m.session.released = false
  lock : ∀ i, m.lock = some i ↔ (m.callers i).Holds

theorem Fresh.sound {m : Booth σ ι} (h : m.Fresh) : m.Sound := by
  refine ⟨h.released, fun i => ?_⟩
  rw [h.lock]
  rcases h.callers i with ⟨text, out, hi⟩ | hi <;> simp [hi, Caller.Holds, SpeechStage.Inside]

/-- The buffers of one caller. -/
def heard [DecidableEq ι] (m : Booth σ ι) (i : ι) : List Bytes :=
  (m.delivered.filter (·.1 = i)).map (·.2)

/-! ## What a step can do -/

/-- The turn of a caller: where it stands and who has the lock, each before and after the step, and the
buffers that are handed over. -/
inductive Turn (i : ι) : Caller σ → Option ι → Caller σ → Option ι → List Bytes → Prop where
  /-- The caller is through, or the lock is not free. -/
  | rest (c l) : Turn i c l c l []
  | call (text out l) : Turn i (.speech text out .idle) l (.speech text out .called) l []
  | look (text out l) : Turn i (.speech text out .called) l (.speech text out .waiting) l []
  | refuse (text out l r) :
      Turn i (.speech text out .called) l (.speech text out (.returned r)) l []
  | enter (text out) :
      Turn i (.speech text out .waiting) none (.speech text out .holding) (some i) []
  | perform (text out stage out' stage' l bs) : stage.Inside → stage'.Inside →
      Turn i (.speech text out stage) l (.speech text out' stage') l bs
  | leave (text out l r) :
      Turn i (.speech text out (.finished r)) l (.speech text out (.returned r)) none []
  | approach (stage stage' l) : stage.Before → stage'.Before → stage' ≠ .idle →
      Turn i (.stop stage) l (.stop stage') l []
  | fence (r) : Turn i (.stop (.asked r)) none (.stop (.holding r)) (some i) []
  | unfence (l r) : Turn i (.stop (.holding r)) l (.stop (.returned r)) none []

namespace Turn

variable {i : ι} {c c' : Caller σ} {l l' : Option ι} {bs : List Bytes}

theorem lock (h : Turn i c l c' l' bs) :
    (l' = l ∧ (c'.Holds ↔ c.Holds)) ∨ (l = none ∧ l' = some i ∧ c'.Holds) ∨
      (c.Holds ∧ l' = none ∧ ¬ c'.Holds) := by
  cases h with
  | perform text out stage out' stage' l bs hin hin' =>
    exact .inl ⟨rfl, iff_of_true hin' hin⟩
  | approach stage stage' l hbefore hbefore' =>
    refine .inl ⟨rfl, iff_of_false ?_ ?_⟩
    · cases stage' <;> simp_all [StopStage.Before, Caller.Holds]
    · cases stage <;> simp_all [StopStage.Before, Caller.Holds]
  | _ => simp [Caller.Holds, SpeechStage.Inside]

theorem speech {text : String} {out : σ} {stage : SpeechStage}
    (h : Turn i (.speech text out stage) l c' l' bs) (hstage : stage ≠ .idle) :
    ∃ out' stage', c' = .speech text out' stage' ∧ stage' ≠ .idle := by
  cases h with
  | perform text out stage out' stage' l bs hin hin' =>
    refine ⟨out', stage', rfl, ?_⟩
    rintro rfl
    exact hin'
  | rest => exact ⟨out, stage, rfl, hstage⟩
  | call => exact absurd rfl hstage
  | _ => exact ⟨out, _, rfl, by simp⟩

end Turn

variable [DecidableEq ι]

theorem heard_put_of_ne (m : Booth σ ι) {i j : ι} (h : j ≠ i) (e : CommandEngine) (w : World)
    (c : Caller σ) (bs : List Bytes) : (m.put i e w c bs).heard j = m.heard j := by
  simp [heard, put, List.filter_map, Function.comp_def, Ne.symm h]

/-- A caller has had its turn, and nothing else has happened. -/
def Turns (i : ι) (m n : Booth σ ι) : Prop :=
  ∃ e w c l bs, n = (m.put i e w c bs).lockedBy l ∧ Turn i (m.callers i) m.lock c l bs

section Turns

variable {m : Booth σ ι} {i : ι} {e : CommandEngine} {w : World} {c : Caller σ} {bs : List Bytes}

theorem turns_rest (m : Booth σ ι) (i : ι) : Turns i m m :=
  ⟨m.session.engine, m.world, m.callers i, m.lock, [], by simp [put, lockedBy], .rest ..⟩

theorem turns_put (h : Turn i (m.callers i) m.lock c m.lock bs) : Turns i m (m.put i e w c bs) :=
  ⟨e, w, c, m.lock, bs, rfl, h⟩

theorem turns_lockedBy {l : Option ι} (h : Turn i (m.callers i) m.lock c l []) :
    Turns i m ((m.move i c).lockedBy l) :=
  ⟨m.session.engine, m.world, c, l, [], rfl, h⟩

end Turns

theorem turns_stepStop (m : Booth σ ι) (i : ι) (stage : StopStage) (h : m.callers i = .stop stage) :
    Turns i m (m.stepStop i stage) := by
  have happroach : ∀ stage' : StopStage, stage.Before → stage'.Before → stage' ≠ .idle →
      Turn i (m.callers i) m.lock (.stop stage') m.lock [] := by
    intro stage' hbefore hbefore' hidle
    rw [h]
    exact .approach _ _ _ hbefore hbefore' hidle
  cases stage with
  | idle => exact turns_put (happroach _ trivial trivial (by simp))
  | called =>
    rw [stepStop]
    split_ifs
    · exact turns_put (happroach _ trivial trivial (by simp))
    · exact turns_put (happroach _ trivial trivial (by simp))
  | asking => exact turns_put (happroach _ trivial trivial (by simp))
  | asked r =>
    rw [stepStop]
    cases hl : m.lock with
    | some j => exact turns_rest m i
    | none =>
      refine turns_lockedBy ?_
      rw [h, hl]
      exact .fence r
  | holding r => exact turns_lockedBy (h ▸ .unfence ..)
  | returned r => exact turns_rest m i

theorem Turns.callers_of_ne {m n : Booth σ ι} {i j : ι} (h : Turns i m n) (hj : j ≠ i) :
    n.callers j = m.callers j ∧ n.heard j = m.heard j := by
  obtain ⟨e, w, c, l, bs, rfl, -⟩ := h
  exact ⟨callers_put_of_ne m i e w c bs hj, heard_put_of_ne m hj e w c bs⟩

variable [AudioSink σ]

theorem turns_stepPlaying (m : Booth σ ι) (i : ι) (text : String) (out : σ) (bs : List Bytes)
    (h : m.callers i = .speech text out (.playing bs)) : Turns i m (m.stepPlaying i text out bs) := by
  have hperform : ∀ (out' : σ) (stage' : SpeechStage) (us : List Bytes), stage'.Inside →
      Turn i (m.callers i) m.lock (.speech text out' stage') m.lock us := by
    intro out' stage' us hin'
    rw [h]
    exact .perform _ _ _ _ _ _ _ trivial hin'
  cases bs with
  | nil => exact turns_put (hperform _ _ _ trivial)
  | cons b bs =>
    rw [stepPlaying]
    split_ifs
    · exact turns_put (hperform _ _ _ trivial)
    · rcases AudioSink.audio b out m.world with ⟨⟨outcome, stop⟩, out', w⟩
      cases outcome with
      | error e => exact turns_put (hperform _ _ _ trivial)
      | ok v => exact turns_put (hperform _ _ _ trivial)

theorem turns_stepSpeech (m : Booth σ ι) (i : ι) (text : String) (out : σ) (stage : SpeechStage)
    (h : m.callers i = .speech text out stage) : Turns i m (m.stepSpeech i text out stage) := by
  have hperform : ∀ (out' : σ) (stage' : SpeechStage) (us : List Bytes), stage.Inside →
      stage'.Inside → Turn i (m.callers i) m.lock (.speech text out' stage') m.lock us := by
    intro out' stage' us hin hin'
    rw [h]
    exact .perform _ _ _ _ _ _ _ hin hin'
  cases stage with
  | idle => exact turns_put (h ▸ .call ..)
  | called =>
    rw [stepSpeech]
    split_ifs
    · exact turns_put (h ▸ .refuse ..)
    · exact turns_put (h ▸ .look ..)
  | waiting =>
    rw [stepSpeech]
    cases hl : m.lock with
    | some j => exact turns_rest m i
    | none =>
      refine turns_lockedBy ?_
      rw [h, hl]
      exact .enter ..
  | holding => exact turns_put (hperform _ _ _ trivial trivial)
  | begun =>
    rw [stepSpeech]
    split
    · exact turns_put (hperform _ _ _ trivial trivial)
    · exact turns_put (hperform _ _ _ trivial trivial)
  | recited t =>
    rw [stepSpeech]
    rcases AudioSink.start t.announcement out m.world with ⟨⟨outcome, stop⟩, out', w⟩
    cases outcome with
    | error e => exact turns_put (hperform _ _ _ trivial trivial)
    | ok v => exact turns_put (hperform _ _ _ trivial trivial)
  | playing bs => exact turns_stepPlaying m i text out bs h
  | played r => exact turns_put (hperform _ _ _ trivial trivial)
  | finished r => exact turns_lockedBy (h ▸ .leave ..)
  | returned r => exact turns_rest m i

theorem turns_step (m : Booth σ ι) (i : ι) : Turns i m (m.step i) := by
  cases h : m.callers i with
  | speech text out stage =>
    rw [step_speech h]
    exact turns_stepSpeech m i text out stage h
  | stop stage =>
    rw [step_stop h]
    exact turns_stepStop m i stage h

/-! ## Soundness -/

theorem Sound.step {m : Booth σ ι} (h : m.Sound) (i : ι) : (m.step i).Sound := by
  have hturns := turns_step m i
  have hothers : ∀ j, j ≠ i → (m.step i).callers j = m.callers j :=
    fun j hj => (hturns.callers_of_ne hj).1
  obtain ⟨e, w, c, l, bs, hstep, hturn⟩ := hturns
  constructor
  · rw [hstep]
    exact h.released
  · have hlock : (m.step i).lock = l := by rw [hstep, lock_lockedBy]
    have hcaller : (m.step i).callers i = c := by rw [hstep, callers_lockedBy, callers_put_self]
    refine owner_step h.lock (fun j hj => by rw [hothers j hj]) ?_
    rw [hlock, hcaller]
    exact hturn.lock

theorem Sound.run {m : Booth σ ι} (h : m.Sound) (is : List ι) : (m.run is).Sound := by
  induction is generalizing m with
  | nil => exact h
  | cons i is ih => exact ih (h.step i)

/-! ## Speeches that have begun -/

theorem callers_run_of_begun {m : Booth σ ι} {i : ι} {text : String} {out : σ} {stage : SpeechStage}
    (h : m.callers i = .speech text out stage) (hstage : stage ≠ .idle) (is : List ι) :
    ∃ out' stage', (m.run is).callers i = .speech text out' stage' ∧ stage' ≠ .idle := by
  induction is generalizing m out stage with
  | nil => exact ⟨out, stage, h, hstage⟩
  | cons j is ih =>
    by_cases hij : i = j
    · subst hij
      obtain ⟨e, w, c, l, bs, hstep, hturn⟩ := turns_step m i
      rw [h] at hturn
      obtain ⟨out', stage', rfl, hstage'⟩ := hturn.speech hstage
      have hnext : (m.step i).callers i = .speech text out' stage' := by
        rw [hstep, callers_lockedBy, callers_put_self]
      exact ih hnext hstage'
    · exact ih (by rw [((turns_step m j).callers_of_ne hij).1, h]) hstage

/-- A speech that has returned is not heard any more. -/
theorem heard_run_of_returned {m : Booth σ ι} {i : ι} {text : String} {out : σ}
    {r : Except EngineError Unit} (h : m.callers i = .speech text out (.returned r)) (is : List ι) :
    (m.run is).callers i = m.callers i ∧ (m.run is).heard i = m.heard i := by
  induction is generalizing m with
  | nil => exact ⟨rfl, rfl⟩
  | cons j is ih =>
    have hstep : (m.step j).callers i = m.callers i ∧ (m.step j).heard i = m.heard i := by
      by_cases hij : i = j
      · subst hij
        rw [step_speech h]
        exact ⟨rfl, rfl⟩
      · exact (turns_step m j).callers_of_ne hij
    obtain ⟨hcaller, hheard⟩ := ih (m := m.step j) (by rw [hstep.1, h])
    exact ⟨hcaller.trans hstep.1, hheard.trans hstep.2⟩

/-! ## The stop -/

/-- When a stop returns, a speech that had begun before (before the stop did, or while it waited) is
through and will not be heard any more, unless it has not come to the lock yet. Such a speech is spoken
later, as if it were asked for then. -/
theorem silent_or_spoken_after_stop {m : Booth σ ι} (hm : m.Fresh) (js is : List ι) {s i : ι}
    {text : String} {out : σ} {stage : SpeechStage} {r : Except EngineError Unit}
    (hi : (m.run js).callers i = .speech text out stage) (hstage : stage ≠ .idle)
    (hs : (m.run (js ++ is)).callers s = .stop (.holding r)) :
    let n := (m.run (js ++ is)).step s
    n.callers s = .stop (.returned r) ∧
      ((∃ out' r', n.callers i = .speech text out' (.returned r') ∧
          ∀ ks, (n.run ks).callers i = n.callers i ∧ (n.run ks).heard i = n.heard i) ∨
        ∃ out' stage', n.callers i = .speech text out' stage' ∧
          (stage' = .called ∨ stage' = .waiting) ∧
          ∃ k, n.Spoken i text out' (n.run (List.replicate k i))) := by
  intro n
  have hstep : n = ((m.run (js ++ is)).move s (.stop (.returned r))).lockedBy none := step_stop hs
  have hsound : n.Sound := (hm.sound.run (js ++ is)).step s
  have hfree : n.lock = none := by rw [hstep, lock_lockedBy]
  refine ⟨by rw [hstep, callers_lockedBy, callers_move_self], ?_⟩
  obtain ⟨out', stage', hn, hstage'⟩ : ∃ out' stage', n.callers i = .speech text out' stage' ∧
      stage' ≠ .idle := by
    have hrun : n = (m.run js).run (is ++ [s]) := by
      rw [← run_append, ← List.append_assoc, run_append]
      rfl
    rw [hrun]
    exact callers_run_of_begun hi hstage _
  have hout : ¬ stage'.Inside := by
    intro hin
    have howner := (hsound.lock i).2 (by rw [hn]; exact hin)
    rw [hfree] at howner
    cases howner
  have halone : stage' = .called ∨ stage' = .waiting →
      ∃ k, n.Spoken i text out' (n.run (List.replicate k i)) :=
    fun hbefore => run_speech_alone hn hbefore hsound.released hfree
  cases stage' with
  | idle => exact absurd rfl hstage'
  | called => exact .inr ⟨out', .called, hn, .inl rfl, halone (.inl rfl)⟩
  | waiting => exact .inr ⟨out', .waiting, hn, .inr rfl, halone (.inr rfl)⟩
  | returned r' => exact .inl ⟨out', r', hn, heard_run_of_returned hn⟩
  | _ => exact absurd trivial hout

/-- A program that prints three samples for any text. -/
def crier : Program where
  executable := true
  start := Rehearsal.StandIn.run
    ⟨.printed, some (Rehearsal.plainWave 16000 1 8 [0, 128, 255]), [], true⟩

/-- A caller that speaks, and one that stops. -/
def talkAndStop : Booth Rehearsal.Probe Bool where
  session :=
    ⟨"espeak-ng", .forEngine "espeak-ng", .espeak (.new (.ofString "/bin/espeak-ng") ""), false⟩
  world := ⟨⟨[], [(["bin"], .directory), (["bin", "espeak-ng"], .program crier)]⟩, none, []⟩
  lock := none
  callers i := if i then .stop .idle else .speech "hi" .quiet .idle
  delivered := []

theorem talkAndStop_fresh : talkAndStop.Fresh where
  released := rfl
  lock := rfl
  callers i := by cases i <;> simp [talkAndStop]

theorem silent_or_spoken_after_stop_announced :
    let n := (talkAndStop.run (List.replicate 6 false ++
      [true, true, true, false, false, false, true])).step true
    n.callers true = .stop (.returned (.ok ())) ∧
      n.callers false = .speech "hi" .quiet (.returned (.ok ())) ∧
      ∀ ks, (n.run ks).heard false = [] := by
  intro n
  have hsilent : n.heard false = [] := by decide +kernel
  have hreturned : n.callers false = .speech "hi" .quiet (.returned (.ok ())) := by
    with_unfolding_all rfl
  have hplaying : (talkAndStop.run (List.replicate 6 false)).callers false =
      .speech "hi" .quiet (.playing (blocks bufferBytes [0, 128, 255])) := rfl
  have hholding : (talkAndStop.run (List.replicate 6 false ++
      [true, true, true, false, false, false, true])).callers true = .stop (.holding (.ok ())) := by
    with_unfolding_all rfl
  obtain ⟨hstop, ⟨out, r, -, hafter⟩ | ⟨out, stage, hbefore, hstage, -⟩⟩ :=
    silent_or_spoken_after_stop talkAndStop_fresh (List.replicate 6 false)
      [true, true, true, false, false, false, true] hplaying (by simp) hholding
  · exact ⟨hstop, hreturned, fun ks => (hafter ks).2.trans hsilent⟩
  · rw [hreturned] at hbefore
    obtain ⟨-, -, rfl⟩ := hbefore
    simp at hstage

/-- This speech waits for the lock when the stop begins, and is handed over when the stop has
returned. -/
theorem spoken_after_stop :
    talkAndStop.Fresh ∧
      (talkAndStop.run [false, false]).callers false = .speech "hi" .quiet .waiting ∧
      (talkAndStop.run [false, false]).callers true = .stop .idle ∧
      (talkAndStop.run [false, false, true, true, true, true, true]).callers true =
        .stop (.returned (.ok ())) ∧
      (talkAndStop.run [false, false, true, true, true, true, true]).heard false = [] ∧
      ((talkAndStop.run [false, false, true, true, true, true, true]).run
        (List.replicate 5 false)).heard false = [[0, 128, 255]] :=
  ⟨talkAndStop_fresh, rfl, rfl, rfl, by decide +kernel, by decide +kernel⟩

end Booth

end SpeechHost
