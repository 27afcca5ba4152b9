import SpeechHost.Proofs.Engine.Obedience
import SpeechHost.Proofs.Engine.Start
/-!
# What a Pico engine passes on

A Pico engine passes its settings on with every text: the voice as an option, the levels as markup around the
text, one element inside of the other (`Element.enclose`). Both can be told from the history of the engine
alone (`Pico.starts_as_told`): the voice that was chosen last, and for every property the level that it was
given last, as far as its range goes. A level of 100 needs no element.
-/

namespace SpeechHost

open SpeechHost.Audio SpeechHost.Storage SpeechHost.Text SpeechHost.Voice

/-! ## Markup -/

structure Element where
  tag : String
  level : Int

theorem nul_notMem_toString (n : Int) : '\x00' ∉ (toString n).toList := by
  have hdigits : ∀ m : Nat, '\x00' ∉ Nat.toDigits 10 m := fun m h =>
    absurd (isDigit_of_mem_toDigits h) (by decide)
  rw [toList_toString]
  split_ifs
  · exact hdigits n.toNat
  · simpa using hdigits (-n).toNat

namespace Element

def opening (x : Element) : String :=
  "<" ++ x.tag ++ " level='" ++ toString x.level ++ "'>"

def closing (x : Element) : String :=
  "</" ++ x.tag ++ ">"

/-- A text inside of elements, of which the first one is outermost: all of them are opened before the text, and
closed behind it in the opposite order. -/
def enclose (xs : List Element) (text : String) : String :=
  String.join (xs.map opening) ++ text ++ String.join (xs.reverse.map closing)

theorem enclose_cons (x : Element) (xs : List Element) (text : String) :
    enclose (x :: xs) text = x.opening ++ enclose xs text ++ x.closing := by
  simp [enclose, String.append_assoc]

variable {x : Element} {xs : List Element} {text : String}

theorem nul_notMem_opening (h : '\x00' ∉ x.tag.toList) : '\x00' ∉ x.opening.toList := by
  simp only [opening, String.toList_append, List.mem_append, not_or]
  exact ⟨⟨⟨⟨by decide, h⟩, by decide⟩, nul_notMem_toString x.level⟩, by decide⟩

theorem nul_notMem_closing (h : '\x00' ∉ x.tag.toList) : '\x00' ∉ x.closing.toList := by
  simp only [closing, String.toList_append, List.mem_append, not_or]
  exact ⟨⟨by decide, h⟩, by decide⟩

theorem nul_notMem_enclose (hxs : ∀ x ∈ xs, '\x00' ∉ x.tag.toList) (htext : '\x00' ∉ text.toList) :
    '\x00' ∉ (enclose xs text).toList := by
  induction xs with
  | nil => simpa [enclose] using htext
  | cons x xs ih =>
    have hx := hxs x List.mem_cons_self
    have hrest := ih fun y hy => hxs y (List.mem_cons_of_mem x hy)
    simp [enclose_cons, nul_notMem_opening hx, nul_notMem_closing hx, hrest]

end Element

/-- The element that a dial calls for, if it does not stand where it says nothing. -/
def Dial.element? (d : Dial) : Option Element :=
  if d.level = Dial.neutral then none else some ⟨d.tag, d.level⟩

theorem Dial.foldr_mark (ds : List Dial) (text : String) :
    ds.foldr Dial.mark text = Element.enclose (ds.filterMap Dial.element?) text := by
  induction ds with
  | nil => simp [Element.enclose]
  | cons d ds ih =>
    rw [List.foldr_cons, ih, Dial.mark]
    by_cases h : d.level = Dial.neutral
    · simp [Dial.element?, h]
    · have helement : d.element? = some ⟨d.tag, d.level⟩ := if_neg h
      rw [if_neg (by simpa using h), List.filterMap_cons_some helement, Element.enclose_cons]
      simp only [Element.opening, Element.closing, String.append_assoc]
      rfl

/-! ## Levels -/

namespace SpeechProperty

def tag : SpeechProperty → String
  | .rate => "speed"
  | .pitch => "pitch"
  | .volume => "volume"

def low : SpeechProperty → Int
  | .rate => 20
  | .pitch => 50
  | .volume => 0

def high : SpeechProperty → Int
  | .rate => 500
  | .pitch => 200
  | .volume => 500

theorem dial_neutral (k : SpeechProperty) : Prosody.neutral.dial k = ⟨k.tag, k.low, k.high, 100⟩ := by
  cases k <;> rfl

theorem nul_notMem_tag (k : SpeechProperty) : '\x00' ∉ k.tag.toList := by
  cases k <;> decide

end SpeechProperty

namespace Usage

variable {ε σ : Type} {u : Usage ε σ}

/-- The level of a property for a Pico engine: the one that it was given last, as far as its range goes. -/
def picoLevel (u : Usage ε σ) (k : SpeechProperty) : Int :=
  match u.lastLevel k with
  | none => 100
  | some n => max k.low (min k.high n)

/-- The elements that the levels call for, outermost first. -/
def elements (u : Usage ε σ) : List Element :=
  [SpeechProperty.pitch, .rate, .volume].filterMap fun k =>
    if u.picoLevel k = 100 then none else some ⟨k.tag, u.picoLevel k⟩

/-- The locale of the voice that was chosen last, or of the first one of the table. -/
def picoLocale? (u : Usage ε σ) : Option String :=
  match u.lastVoice with
  | none => voices.head?.map (·.locale)
  | some c => c.locale?

end Usage

/-! ## What the program is started with -/

namespace Pico.Kept

variable {ε σ : Type} {u : Usage ε σ} {program : Path} {p : Pico}

theorem dial_eq (h : p.Kept program u.told) (k : SpeechProperty) :
    p.prosody.dial k = ⟨k.tag, k.low, k.high, u.picoLevel k⟩ := by
  rw [h.dial, SpeechProperty.dial_neutral, Usage.picoLevel, Usage.lastLevel]
  cases lastOf (Told.level? k) u.told <;> rfl

theorem mark_eq (h : p.Kept program u.told) (text : String) :
    p.prosody.mark text = Element.enclose u.elements text := by
  have helement : ∀ k, (p.prosody.dial k).element? =
      if u.picoLevel k = 100 then none else some ⟨k.tag, u.picoLevel k⟩ := by
    intro k
    rw [h.dial_eq]
    rfl
  have hmark : p.prosody.mark text =
      ([SpeechProperty.pitch, .rate, .volume].map p.prosody.dial).foldr Dial.mark text := rfl
  rw [hmark, Dial.foldr_mark, List.filterMap_map, Usage.elements]
  exact congrArg (fun f => Element.enclose (List.filterMap f _) text) (funext helement)

theorem locale_eq (h : p.Kept program u.told) : u.picoLocale? = some (p.voice.getD american).locale := by
  have hvoice := h.voice
  unfold Usage.picoLocale? Usage.lastVoice
  cases hlast : lastOf Told.voice? u.told with
  | none =>
    simp only [hlast] at hvoice ⊢
    rw [hvoice]
    rfl
  | some c =>
    simp only [hlast] at hvoice ⊢
    obtain ⟨v, -, hlocale, hv⟩ := hvoice
    rw [hlocale, hv, Option.getD_some]

theorem nul_notMem_locale (h : p.Kept program u.told) : '\x00' ∉ (p.voice.getD american).locale.toList := by
  have hall : ∀ v ∈ voices, '\x00' ∉ v.locale.toList := by decide +kernel
  have hvoice := h.voice
  split at hvoice
  · rw [hvoice]
    exact hall american List.mem_cons_self
  · obtain ⟨v, hv, -, hsome⟩ := hvoice
    rw [hsome]
    exact hall v hv

theorem nul_notMem_arguments (h : p.Kept program u.told) {text : String} (htext : '\x00' ∉ text.toList) :
    ∀ a ∈ p.arguments text, '\x00' ∉ a.toList := by
  have hmarkup : '\x00' ∉ (p.prosody.mark text).toList := by
    rw [h.mark_eq text]
    refine Element.nul_notMem_enclose (fun x hx => ?_) htext
    obtain ⟨k, -, hk⟩ := List.mem_filterMap.1 hx
    split_ifs at hk
    rw [← Option.some.inj hk]
    exact k.nul_notMem_tag
  simp only [arguments, List.forall_mem_cons, List.not_mem_nil, false_implies, implies_true, and_true]
  exact ⟨by decide, by decide, by decide, h.nul_notMem_locale, by decide, hmarkup⟩

end Pico.Kept

variable {σ : Type} [AudioSink σ] [Bystander World.started σ]

/-- Whatever a Pico engine was asked before, and whatever happened meanwhile: for a text without NUL characters
it starts its program with the locale that was chosen last and with the text inside of the elements for the
levels that were accepted last. It does so as soon as its scratch file can be made, and its program is there
and is given these arguments by the system. -/
theorem Pico.starts_as_told (program : Path) (config : String) (out : σ) (w : World)
    (es : List (Usage.Event σ)) (text : String) :
    let u := (Usage.fresh (CommandEngine.pico (.new program config)) out w).run es
    '\x00' ∉ text.toList →
      ∃ locale, u.picoLocale? = some locale ∧
        ∀ arguments, u.Starts text arguments ↔
          arguments = ["-w", scratchFile, "-l", locale, "--", Element.enclose u.elements text] ∧
            ∃ reserved q, u.world.reserve scratchFile = .ok reserved ∧
              reserved.program program = .ok q ∧ (q.start arguments).isOk = true := by
  intro u htext
  obtain ⟨p, hp, hkept⟩ := Usage.pico_kept program config out w es
  have harguments : p.arguments text =
      ["-w", scratchFile, "-l", (p.voice.getD american).locale, "--", Element.enclose u.elements text] := by
    rw [← hkept.mark_eq text]
    rfl
  refine ⟨_, hkept.locale_eq, fun arguments => ?_⟩
  rw [Usage.starts_iff, show u.engine = .pico p from hp, CommandEngine.canStart_pico_iff, ← harguments]
  refine and_congr_right fun heq => exists_congr fun reserved => ?_
  obtain rfl : arguments = p.arguments text := heq
  rw [World.isOk_launch_iff, hkept.program]
  simp only [exists_and_left, and_congr_right_iff, and_iff_right_iff_imp]
  exact fun _ _ => hkept.nul_notMem_arguments htext

/-! ## An example -/

/-- A world with a Pico program, and perhaps with the data of the German voice. -/
def germanStudio (installed : Bool) : World where
  disk := ⟨[], [(["tmp"], .directory), (["bin"], .directory), (["data"], .directory),
    (["bin", "pico2wave"], .program ⟨true, fun _ => .ok ⟨[], [], [], .ended true⟩⟩)] ++
      if installed then [(["data", "de-DE_ta.bin"], .file []), (["data", "de-DE_gl0_sg.bin"], .file [])]
      else []⟩
  searchPath := none
  journal := []

/-- A history in which the voice is chosen too early, and then again when its data is there; two levels are
set, and two more calls are refused. -/
def germanSettings : List (Usage.Event Rehearsal.Probe) :=
  [.ask (.setLanguage ⟨"deu", "DEU", ""⟩), .meanwhile fun (out, _) => (out, germanStudio true),
    .ask (.setLanguage ⟨"deu", "", ""⟩), .ask (.setProperty "rate" " +150 "),
    .ask (.setProperty "pitch" "1000"), .ask (.setProperty "rate" "fast"), .ask (.setProperty "timbre" "3"),
    .ask .stop]

def germanUsage : Usage CommandEngine Rehearsal.Probe :=
  (Usage.fresh (CommandEngine.pico (.new (.ofString "/bin/pico2wave") "/data")) .quiet
    (germanStudio false)).run germanSettings

theorem Pico.starts_as_told_german :
    '\x00' ∉ "Hallo".toList ∧
      germanUsage.Starts "Hallo" ["-w", "/tmp/picotts-scratch.wav", "-l", "de-DE", "--",
        "<pitch level='200'><speed level='150'>Hallo</speed></pitch>"] := by
  have htext : '\x00' ∉ "Hallo".toList := by decide
  obtain ⟨locale, hlocale, hstarts⟩ := starts_as_told (.ofString "/bin/pico2wave") "/data"
    Rehearsal.Probe.quiet (germanStudio false) germanSettings "Hallo" htext
  have hgerman : germanUsage.picoLocale? = some "de-DE" := by decide +kernel
  have hmarkup : Element.enclose germanUsage.elements "Hallo" =
      "<pitch level='200'><speed level='150'>Hallo</speed></pitch>" := by decide +kernel
  obtain rfl : "de-DE" = locale := Option.some.inj (hgerman.symm.trans hlocale)
  have hready : (germanUsage.world.reserve scratchFile).toOption.any fun reserved =>
      (reserved.program (.ofString "/bin/pico2wave")).toOption.any fun q =>
        (q.start ["-w", "/tmp/picotts-scratch.wav", "-l", "de-DE", "--",
          "<pitch level='200'><speed level='150'>Hallo</speed></pitch>"]).isOk := by decide +kernel
  obtain ⟨reserved, hreserved, hready⟩ := exists_ok_of_any hready
  obtain ⟨q, hq, hstart⟩ := exists_ok_of_any hready
  refine ⟨htext, (hstarts _).2 ⟨?_, reserved, q, hreserved, hq, hstart⟩⟩
  rw [← hmarkup]
  rfl

end SpeechHost
