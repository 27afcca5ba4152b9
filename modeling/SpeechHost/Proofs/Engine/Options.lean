import Mathlib.Algebra.Order.Group.Abs
import Mathlib.Algebra.Order.Group.Int
import SpeechHost.Proofs.Engine.Obedience
import SpeechHost.Proofs.Engine.Start
/-!
# The options of eSpeak

An engine with the command line of eSpeak tells its program everything by options. The three levels become a
speed, a tone and a loudness, each by a scale that never falls and stays within its bounds (`Scale`). The
arithmetic is one of 32 bits: what it computes on the way fits as long as the rate is no further from zero than
12271335, and no longer (`speed?_eq_iff`). What the configuration adds are its words, the pieces between its
blanks (`Text.words_eq`). So the whole command line can be told from the history of the engine
(`Espeak.passes_options`).
-/

namespace SpeechHost

open SpeechHost.Audio SpeechHost.Storage SpeechHost.Text

/-! ## Words -/

namespace Text

theorem wordsFrom_eq (word cs : List Char) :
    wordsFrom word cs =
      ((cs.splitOnP isBlank).modifyHead (word.reverse ++ ·)).filter fun piece => !piece.isEmpty := by
  induction cs generalizing word with
  | nil => cases word <;> simp [wordsFrom]
  | cons c cs ih =>
    rw [wordsFrom, List.splitOnP_cons_eq_if_modifyHead]
    by_cases hblank : isBlank c
    · have hrest : wordsFrom [] cs = (cs.splitOnP isBlank).filter fun piece => !piece.isEmpty := by
        rw [ih []]
        cases cs.splitOnP isBlank <;> rfl
      cases word <;> simp [hblank, hrest]
    · rw [if_neg hblank, if_neg hblank, ih (c :: word)]
      cases cs.splitOnP isBlank <;> simp

theorem words_eq (s : String) :
    words s = ((s.toList.splitOnP isBlank).filter fun piece => !piece.isEmpty).map String.ofList := by
  rw [words, wordsFrom_eq]
  cases s.toList.splitOnP isBlank <;> rfl

end Text

/-! ## Scales -/

/-- A scale never falls, and stays within its bounds. -/
structure Scale (f : Int → Int) (low high : Int) : Prop where
  mono : ∀ m n, m ≤ n → f m ≤ f n
  low_le : ∀ n, low ≤ f n
  le_high : ∀ n, f n ≤ high

theorem Scale.clamp {f : Int → Int} (hf : ∀ m n, m ≤ n → f m ≤ f n) {low high : Int} (h : low ≤ high) :
    Scale (fun n => Espeak.clamp low high (f n)) low high where
  mono m n hmn := by
    have hfmn := hf m n hmn
    simp only [Espeak.clamp]
    omega
  low_le n := by simp only [Espeak.clamp]; omega
  le_high n := by simp only [Espeak.clamp]; omega

namespace Espeak

/-- Words a minute for a rate. -/
def speed (rate : Int) : Int :=
  clamp 80 450 ((neutralWords * rate).tdiv 100)

def tone (pitch : Int) : Int :=
  clamp 0 99 (pitch.tdiv 2)

def loudness (volume : Int) : Int :=
  clamp 0 200 volume

theorem scale_speed : Scale speed 80 450 := by
  refine .clamp (fun m n hmn => Int.tdiv_le_tdiv (by decide) ?_) (by decide)
  rw [neutralWords]
  omega

theorem scale_tone : Scale tone 0 99 :=
  .clamp (fun _ _ hmn => Int.tdiv_le_tdiv (by decide) hmn) (by decide)

theorem scale_loudness : Scale loudness 0 200 :=
  .clamp (fun _ _ hmn => hmn) (by decide)

/-! ## Arithmetic of 32 bits -/

/-- Whether a number fits in 32 bits, with sign. -/
def Fits (n : Int) : Prop :=
  -signedLimit 32 ≤ n ∧ n < signedLimit 32

instance (n : Int) : Decidable (Fits n) := inferInstanceAs (Decidable (_ ∧ _))

/-- The result of an operation on numbers of 32 bits, unless it overflows. -/
def checked (n : Int) : Option Int :=
  if Fits n then some n else none

/-- The speed for a rate, if it is computed without an overflow. -/
def speed? (rate : Int) : Option Int := do
  let product ← checked (neutralWords * rate)
  let quotient ← checked (product.tdiv 100)
  return clamp 80 450 quotient

def tone? (pitch : Int) : Option Int := do
  let quotient ← checked (pitch.tdiv 2)
  return clamp 0 99 quotient

theorem fits_iff {n : Int} : Fits n ↔ -2147483648 ≤ n ∧ n < 2147483648 := Iff.rfl

theorem Fits.tdiv {n c : Int} (h : Fits n) (hc : 0 < c) : Fits (n.tdiv c) := by
  -- The quotient is no further from zero; its sign matters only for the lower end, which has no opposite.
  have habs := Int.natAbs_tdiv_le_natAbs n c
  have hsign : n ≤ 0 → n.tdiv c ≤ 0 := fun hn => by simpa using Int.tdiv_le_tdiv hc hn
  rw [fits_iff] at h ⊢
  omega

theorem fits_product_iff {rate : Int} : Fits (neutralWords * rate) ↔ |rate| ≤ 12271335 := by
  rw [fits_iff, abs_le, neutralWords]
  omega

theorem speed?_eq_iff {rate : Int} : speed? rate = some (speed rate) ↔ |rate| ≤ 12271335 := by
  rw [← fits_product_iff]
  by_cases h : Fits (neutralWords * rate)
  · simp [speed?, checked, h, h.tdiv, speed]
  · simp [speed?, checked, h]

example : speed? 12271336 = none := by decide

theorem tone?_eq {pitch : Int} (h : Fits pitch) : tone? pitch = some (tone pitch) := by
  simp [tone?, checked, h.tdiv, tone]

end Espeak

/-! ## Levels -/

theorem EngineUse.fits_of_told? {c : EngineUse} {a : EngineAnswer} {k : SpeechProperty} {n : Int}
    (h : c.told? a = some (.level k n)) : Espeak.Fits n := by
  unfold told? at h
  split at h
  · exact absurd (Option.some.inj h) nofun
  · split_ifs at h
    · exact absurd (Option.some.inj h) nofun
    · obtain ⟨k', -, hlevel⟩ := Option.bind_eq_some_iff.1 h
      obtain ⟨m, hm, htold⟩ := Option.map_eq_some_iff.1 hlevel
      obtain ⟨-, rfl⟩ := Told.level.inj htold
      exact numeral?_range hm
  · contradiction

namespace Usage

variable {ε σ : Type} {u : Usage ε σ} {k : SpeechProperty} {n : Int}

def levels (u : Usage ε σ) (k : SpeechProperty) : List Int :=
  u.told.filterMap (Told.level? k)

/-- The level that a property was given last, or the neutral one. -/
def level (u : Usage ε σ) (k : SpeechProperty) : Int :=
  (u.lastLevel k).getD 100

theorem fits_of_mem_levels (h : n ∈ u.levels k) : Espeak.Fits n := by
  obtain ⟨t, ht, hlevel⟩ := List.mem_filterMap.1 h
  obtain ⟨x, -, htold⟩ := List.mem_filterMap.1 ht
  cases t with
  | voice c => contradiction
  | level k' m =>
    rw [Told.level?] at hlevel
    split_ifs at hlevel
    obtain rfl := Option.some.inj hlevel
    exact EngineUse.fits_of_told? htold

/-- What is true of the neutral level and of every level that a property was given is true of its level. -/
theorem level_induction {P : Int → Prop} (hneutral : P 100) (h : ∀ n ∈ u.levels k, P n) :
    P (u.level k) := by
  rw [level, lastLevel, lastOf]
  cases hlast : (u.told.filterMap (Told.level? k)).getLast? with
  | none => exact hneutral
  | some n => exact h n (List.mem_of_getLast? hlast)

end Usage

/-! ## What the program is started with -/

theorem Espeak.Kept.arguments_eq {ε σ : Type} {u : Usage ε σ} {program : Path} {config : String}
    {e : Espeak} (h : e.Kept program config u.told) (text : String) :
    e.arguments text =
      ["--stdout"] ++ (u.lastVoice.map fun c => ["-v", c.spoken]).getD [] ++
        ["-s", toString (speed (u.level .rate)), "-p", toString (tone (u.level .pitch)),
          "-a", toString (loudness (u.level .volume))] ++
        words config ++ ["--", text] := by
  have hrate : e.rate = u.level .rate := h.level .rate
  have hpitch : e.pitch = u.level .pitch := h.level .pitch
  have hvolume : e.volume = u.level .volume := h.level .volume
  rw [arguments, h.voice, h.extra, hrate, hpitch, hvolume, Option.map_map]
  rfl

variable {σ : Type} [AudioSink σ] [Bystander World.started σ]

/-- Whatever an engine with the command line of eSpeak was asked before, and whatever happened meanwhile: as
long as no rate was accepted that is too far from zero, it starts its program for a text exactly with the
options for the voice and the levels that were accepted last, the words of its configuration and the text, as
soon as none of them holds a NUL character and the program is there and is given them by the system. The options
are computed without an overflow, each on its scale. -/
theorem Espeak.passes_options (program : Path) (config : String) (out : σ) (w : World)
    (es : List (Usage.Event σ)) (text : String) :
    let u := (Usage.fresh (CommandEngine.espeak (.new program config)) out w).run es
    (∀ n ∈ u.levels .rate, |n| ≤ 12271335) →
      (∀ arguments, u.Starts text arguments ↔
        arguments = ["--stdout"] ++ (u.lastVoice.map fun c => ["-v", c.spoken]).getD [] ++
            ["-s", toString (speed (u.level .rate)), "-p", toString (tone (u.level .pitch)),
              "-a", toString (loudness (u.level .volume))] ++
            words config ++ ["--", text] ∧
          (∀ a ∈ arguments, '\x00' ∉ a.toList) ∧
            ∃ q, u.world.program program = .ok q ∧ (q.start arguments).isOk = true) ∧
      speed? (u.level .rate) = some (speed (u.level .rate)) ∧
      tone? (u.level .pitch) = some (tone (u.level .pitch)) ∧
      Scale speed 80 450 ∧ Scale tone 0 99 ∧ Scale loudness 0 200 := by
  intro u hrates
  obtain ⟨e, he, hkept⟩ := Usage.espeak_kept program config out w es
  have hrate : |u.level .rate| ≤ 12271335 := Usage.level_induction (by decide) hrates
  have hpitch : Fits (u.level .pitch) :=
    Usage.level_induction (by decide) fun n hn => Usage.fits_of_mem_levels hn
  refine ⟨fun arguments => ?_, speed?_eq_iff.2 hrate, tone?_eq hpitch, scale_speed, scale_tone,
    scale_loudness⟩
  have hcan : u.engine.canStart u.world text = (u.world.launch e.program (e.arguments text)).isOk :=
    congrArg (·.canStart u.world text) he
  rw [Usage.starts_iff, hcan, show u.engine.arguments text = e.arguments text from
    congrArg (·.arguments text) he, ← hkept.arguments_eq text]
  refine and_congr_right fun heq => ?_
  rw [heq, World.isOk_launch_iff, hkept.program]

/-! ## An example -/

def bareStudio : World where
  disk := ⟨[], [(["bin"], .directory),
    (["bin", "espeak-ng"], .program ⟨true, fun _ => .ok ⟨[], [], [], .ended true⟩⟩)]⟩
  searchPath := none
  journal := []

/-- A history in which levels go to the ends of what is possible, and three calls are refused. -/
def extremeSettings : List (Usage.Event Rehearsal.Probe) :=
  [.ask (.setProperty "rate" " -12271335 "), .ask (.setProperty "pitch" "51"),
    .ask (.setProperty "rate" "+12271335"), .ask (.setProperty "rate" "fast"),
    .ask (.setProperty "volume" "-2147483648"), .ask (.setProperty "volume" "-2147483649"),
    .ask (.setLanguage ⟨"eng", "USA", "F3"⟩), .ask (.setLanguage ⟨"", "", ""⟩)]

def extremeUsage : Usage CommandEngine Rehearsal.Probe :=
  (Usage.fresh (CommandEngine.espeak (.new (.ofString "/bin/espeak-ng") " --punct -g\t5 ")) .quiet
    bareStudio).run extremeSettings

theorem Espeak.passes_options_extreme :
    (∀ n ∈ extremeUsage.levels .rate, |n| ≤ 12271335) ∧
      extremeUsage.Starts "Hello" ["--stdout", "-v", "en-us+f3", "-s", "450", "-p", "25", "-a", "0",
        "--punct", "-g", "5", "--", "Hello"] ∧
      speed? (extremeUsage.level .rate) = some 450 := by
  have hrates : ∀ n ∈ extremeUsage.levels .rate, |n| ≤ 12271335 := by decide +kernel
  have hoptions := passes_options (.ofString "/bin/espeak-ng") " --punct -g\t5 " Rehearsal.Probe.quiet
    bareStudio extremeSettings "Hello" hrates
  have hready : (extremeUsage.world.program (.ofString "/bin/espeak-ng")).toOption.any fun q =>
      (q.start ["--stdout", "-v", "en-us+f3", "-s", "450", "-p", "25", "-a", "0", "--punct", "-g", "5",
        "--", "Hello"]).isOk := by decide +kernel
  refine ⟨hrates, (hoptions.1 _).2 ⟨?_, by decide +kernel, exists_ok_of_any hready⟩, ?_⟩
  · decide +kernel
  · exact hoptions.2.1.trans (by decide +kernel)

end SpeechHost
