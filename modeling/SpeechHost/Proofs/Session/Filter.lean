import SpeechHost.Engine.Command
import SpeechHost.Proofs.Engine.Unset
import SpeechHost.Proofs.Session.Calls
import SpeechHost.Proofs.Storage.Spelling
import SpeechHost.Proofs.Storage.Walk
import SpeechHost.Proofs.Text.Lowercase
import SpeechHost.Rehearsal.Sink
/-!
# The filter of a session and its kind of engine

The filter goes by the whole identifier of an engine, the kind of engine by the name of its program. The
name of the program is the last piece of the identifier (`resolve?_name`). So they differ for
a program without the Pico marker in its name that stands below a directory with the marker, and for no
other (`filter_agrees_iff`). Nothing that is asked of a session afterwards changes either.
-/

namespace SpeechHost

open SpeechHost.Audio SpeechHost.Storage SpeechHost.Text

/-! ## The marker -/

theorem namesPico_iff (s : String) :
    namesPico s ↔ ∃ piece ∈ (Path.ofString s).pieces, namesPico piece :=
  contains_lowercase_iff (by decide) (by decide) (by decide) s

/-! ## The name of a file -/

section FileName

variable {d : Disk} {p : Path} {front : List String} {last : String}

theorem getLast?_trimTail (pieces : List String) (hstay : Path.isStay last = false) :
    (Path.trimTail (pieces ++ [last])).getLast? = some last := by
  simp [Path.trimTail, hstay]

theorem fileName?_eq (hp : p.pieces = front ++ [last]) (hstay : Path.isStay last = false) :
    p.fileName? = if last = ".." then none else some last := by
  have hbody : ∃ rest, p.body = rest ++ [last] := by
    have hsplit := p.lead_body
    rw [hp] at hsplit
    rcases List.eq_nil_or_concat p.body with hnil | ⟨rest, b, hb⟩
    · rw [hnil, List.append_nil] at hsplit
      have hlast : p.lead.getLast? = some last := by rw [hsplit, List.getLast?_concat]
      rcases p.lead_cases with hlead | hlead | hlead
      · obtain rfl : "" = last := by simpa [hlead] using hlast
        exact absurd hstay (by decide)
      · obtain rfl : "." = last := by simpa [hlead] using hlast
        exact absurd hstay (by decide)
      · simp [hlead] at hlast
    · rw [hb, List.concat_eq_append, ← List.append_assoc] at hsplit
      obtain ⟨-, hlast⟩ := List.append_inj' hsplit rfl
      obtain rfl : b = last := by simpa using hlast
      exact ⟨rest, by simpa using hb⟩
  obtain ⟨rest, hrest⟩ := hbody
  have htrim := getLast?_trimTail rest hstay
  rw [← hrest] at htrim
  unfold Path.fileName?
  rw [htrim]
  split_ifs with hup
  · subst hup
    rfl
  · split
    · next heq => exact absurd (Option.some.inj heq) hup
    · rfl

/-- As far as the marker goes, the name of a file is the last piece of its path. -/
theorem namesPico_fileName (h : d.isFile p) (hp : p.pieces = front ++ [last]) :
    namesPico (p.fileName?.getD "") = namesPico last := by
  rw [fileName?_eq hp (Disk.not_isStay_of_isFile h hp)]
  split_ifs with hup
  · subst hup
    decide
  · rfl

end FileName

theorem resolve?_name {w : World} {identifier : String} {program : Path}
    (h : resolve? w identifier = some program) :
    ∃ front last, (Path.ofString identifier).pieces = front ++ [last] ∧
      namesPico (program.fileName?.getD "") = namesPico last := by
  obtain ⟨front, last, hp⟩ : ∃ front last, (Path.ofString identifier).pieces = front ++ [last] :=
    ⟨_, _, (List.dropLast_concat_getLast (by simp [Path.ofString, Path.cut_ne_nil])).symm⟩
  refine ⟨front, last, hp, ?_⟩
  simp only [resolve?] at h
  split_ifs at h with hempty hlong hfile
  · obtain rfl := Option.some.inj h
    exact namesPico_fileName hfile hp
  · -- a single piece is put behind a place of the search path, and so it stays the last one
    have hfile := List.find?_some h
    obtain ⟨place, -, rfl⟩ := List.mem_map.1 (List.mem_of_find?_eq_some h)
    obtain ⟨before, hbefore⟩ := Path.exists_pieces_join place (.ofString identifier)
    rw [hp, ← List.append_assoc] at hbefore
    exact namesPico_fileName hfile hbefore

/-! ## What keeps the filter -/

section Keeps

variable {σ : Type} [AudioSink σ] {d : Disk}

theorem Pico.playback_setProperty {p p' : Pico} {name value : String}
    (h : p.setProperty d name value = .ok p') : p'.playback = p.playback := by
  unfold setProperty at h
  split_ifs at h
  · split at h
    · contradiction
    · unfold select at h
      split_ifs at h
      obtain rfl := Except.ok.inj h
      rfl
  · obtain ⟨level, -, hrest⟩ := bind_ok h
    obtain ⟨prosody, -, hlast⟩ := bind_ok hrest
    obtain rfl := Except.ok.inj hlast
    rfl

theorem Espeak.playback_setProperty {e e' : Espeak} {name value : String}
    (h : e.setProperty name value = .ok e') : e'.playback = e.playback := by
  unfold setProperty at h
  split_ifs at h
  · obtain rfl := Except.ok.inj h
    rfl
  · obtain ⟨level, -, hrest⟩ := bind_ok h
    split at hrest
    · obtain rfl := Except.ok.inj hrest
      rfl
    · obtain rfl := Except.ok.inj hrest
      rfl
    · obtain rfl := Except.ok.inj hrest
      rfl
    · simp at hrest

end Keeps

namespace CommandEngine

variable {σ : Type} [AudioSink σ] {e e' : CommandEngine} {w w' : World}

/-- Whether an engine is of the Pico kind. -/
def IsPico : CommandEngine → Prop
  | .pico _ => True
  | .espeak _ => False

/-- Two stages of an engine with the same kind and filter. -/
structure Alike (e e' : CommandEngine) : Prop where
  kind : e'.IsPico ↔ e.IsPico
  shelf : e'.playback.shelf = e.playback.shelf

theorem Alike.refl (e : CommandEngine) : Alike e e := ⟨.rfl, rfl⟩

theorem Alike.trans {e'' : CommandEngine} (h : Alike e e') (t : Alike e' e'') : Alike e e'' :=
  ⟨t.kind.trans h.kind, t.shelf.trans h.shelf⟩

theorem alike_withPlayback (e : CommandEngine) {playback : Playback}
    (h : playback.shelf = e.playback.shelf) : Alike e (e.withPlayback playback) := by
  cases e with
  | pico => exact ⟨.rfl, h⟩
  | espeak => exact ⟨.rfl, h⟩

theorem alike_settle {changed : Except EngineError CommandEngine}
    (h : ∀ e', changed = .ok e' → Alike e e') : Alike e (e.settle changed).2 := by
  cases changed with
  | error => exact .refl e
  | ok e' => exact h e' rfl

theorem alike_setLanguage {d : Disk} {l : Locale} (h : e.setLanguage d l = .ok e') : Alike e e' := by
  cases e with
  | pico p =>
    obtain ⟨p', hp, rfl⟩ := map_ok h
    obtain rfl := Pico.setLanguage_ok hp
    exact ⟨.rfl, rfl⟩
  | espeak e =>
    obtain ⟨e₁, he, rfl⟩ := map_ok h
    obtain rfl := Espeak.setLanguage_ok he
    exact ⟨.rfl, rfl⟩

theorem alike_setProperty {d : Disk} {name value : String} (h : e.setProperty d name value = .ok e') :
    Alike e e' := by
  cases e with
  | pico p =>
    obtain ⟨p', hp, rfl⟩ := map_ok h
    exact ⟨.rfl, congrArg Playback.shelf (Pico.playback_setProperty hp)⟩
  | espeak e =>
    obtain ⟨e₁, he, rfl⟩ := map_ok h
    exact ⟨.rfl, congrArg Playback.shelf (Espeak.playback_setProperty he)⟩

theorem alike_asks {q : Question} (h : Asks σ q e w e' w') (hq : q.call.IsUse) : Alike e e' := by
  cases h with
  | configure => exact hq.elim
  | shutdown => exact hq.elim
  | availability => exact .refl e
  | language => exact .refl e
  | setLanguage l => exact alike_settle fun _ => alike_setLanguage
  | setProperty name value => exact alike_settle fun _ => alike_setProperty
  | accept => exact e.alike_withPlayback rfl
  | stop => exact e.alike_withPlayback rfl
  | utter text out =>
    cases e with
    | pico p => exact ⟨.rfl, p.shelf_utter text out w⟩
    | espeak e => exact ⟨.rfl, e.shelf_utter text out w⟩

theorem alike_serves {qs : List Question} (h : Serves σ qs e w e' w')
    (hqs : ∀ q ∈ qs, q.call.IsUse) : Alike e e' := by
  induction h with
  | nil => exact .refl _
  | cons ask _ ih =>
    exact (alike_asks ask (hqs _ (by simp))).trans (ih fun q hq => hqs q (by simp [hq]))

end CommandEngine

/-! ## A session with an engine that is a program -/

namespace Session

open CommandEngine (IsPico)

variable {σ : Type} [AudioSink σ] {identifier config : String} {w w' w'' : World}
  {s s' : Session CommandEngine}

theorem configure_forEngine (identifier : String) (e : CommandEngine) (w : World) :
    SpeechEngine.configure (FilterSpec.forEngine identifier) e w =
      (.ok (), e.withPlayback { e.playback with
        shelf := if namesPico identifier then some picoShelf else none }, w) := by
  have hslope : (picoShelf.slope == 0) = false := by decide
  cases hnames : namesPico identifier with
  | true =>
    simp [SpeechEngine.configure, CommandEngine.configure, Playback.configure, FilterSpec.forEngine,
      hnames, hslope]
  | false =>
    simp [SpeechEngine.configure, CommandEngine.configure, Playback.configure, FilterSpec.forEngine,
      hnames]

/-- The kind of engine goes by the name of its program, the filter by the identifier. -/
theorem open?_command (h : open? CommandEngine.loader identifier config w = (.ok s, w')) :
    ∃ program, resolve? w identifier = some program ∧
      (s.engine.IsPico ↔ namesPico (program.fileName?.getD "")) ∧
      s.engine.playback.shelf = if namesPico identifier then some picoShelf else none := by
  cases hload : CommandEngine.load w identifier config with
  | error x => simp [open?, CommandEngine.loader, hload] at h
  | ok e =>
    obtain ⟨rfl, rfl⟩ :
        (⟨identifier, .forEngine identifier, e.withPlayback { e.playback with
          shelf := if namesPico identifier then some picoShelf else none }, false⟩ :
            Session CommandEngine) = s ∧ w = w' := by
      simpa [open?, CommandEngine.loader, hload, FilterSpec.applyTo, configure_forEngine] using h
    unfold CommandEngine.load at hload
    split at hload
    · contradiction
    · next program hresolve =>
      refine ⟨program, hresolve, ?_, by cases e <;> rfl⟩
      simp only at hload
      split_ifs at hload with hname
      · obtain rfl := Except.ok.inj hload
        exact iff_of_true trivial hname
      · obtain rfl := Except.ok.inj hload
        exact iff_of_false id hname

/-- A session with an engine that is a program, after any use of it. The filter is on for the engine of the
other kind as well if it stands below a directory with the marker; for every other engine the filter is on
if and only if it is a Pico engine. Without the filter 16-bit samples are played as they are. -/
theorem filter_agrees_iff (hopen : open? CommandEngine.loader identifier config w = (.ok s, w'))
    (hused : Used σ s w' s' w'') :
    ∃ directories name, (Path.ofString identifier).pieces = directories ++ [name] ∧
      (s'.engine.IsPico ↔ namesPico name) ∧
      ((s'.engine.playback.shelf.isSome ↔ s'.engine.IsPico) ↔
        ∀ d ∈ directories, namesPico d → namesPico name) ∧
      (s'.engine.IsPico → s'.engine.playback.shelf = some picoShelf) ∧
      (¬ s'.engine.IsPico → (∀ d ∈ directories, ¬ namesPico d) → ∀ rate samples,
        s'.engine.playback.filtered rate samples = samples) := by
  obtain ⟨program, hresolve, hkind, hshelf⟩ := open?_command hopen
  obtain ⟨directories, name, hpieces, hname⟩ := resolve?_name hresolve
  obtain ⟨qs, hqs, hserves⟩ := hused.served
  have halike := CommandEngine.alike_serves hserves hqs
  have hpico : s'.engine.IsPico ↔ namesPico name := by
    rw [halike.kind, hkind, hname]
  have hwhole : namesPico identifier ↔ namesPico name ∨ ∃ d ∈ directories, namesPico d := by
    rw [namesPico_iff, hpieces]
    simp [or_comm, or_and_right, exists_or]
  have hshelf' : s'.engine.playback.shelf = if namesPico identifier then some picoShelf else none :=
    halike.shelf.trans hshelf
  have hon : s'.engine.playback.shelf.isSome ↔ namesPico identifier := by
    rw [hshelf']
    split_ifs with h <;> simp [h]
  refine ⟨directories, name, hpieces, hpico, ?_, fun h => ?_, fun h hnone rate samples => ?_⟩
  · rw [hon, hwhole, hpico]
    constructor
    · intro h d hd hmarked
      exact h.1 (.inr ⟨d, hd, hmarked⟩)
    · intro h
      refine ⟨?_, .inl⟩
      rintro (hlast | ⟨d, hd, hmarked⟩)
      · exact hlast
      · exact h d hd hmarked
  · rw [hshelf', if_pos (hwhole.2 (.inl (hpico.1 h)))]
  · have hoff : ¬ namesPico identifier := by
      rw [hwhole]
      rintro (hlast | ⟨d, hd, hmarked⟩)
      · exact h (hpico.2 hlast)
      · exact hnone d hd hmarked
    simp [Playback.filtered, hshelf', hoff]

/-! ## Directories with the marker and without -/

/-- A world with one engine of the other kind, below a directory with a name. -/
def worldBelow (directory : String) : World where
  disk := ⟨[], [([directory], .directory),
    ([directory, "espeak-ng"], .program ⟨true, fun _ => .ok ⟨[], [], [], .ended true⟩⟩)]⟩
  searchPath := none
  journal := []

theorem filter_agrees_iff_bin :
    ∃ s w', open? CommandEngine.loader "bin/espeak-ng" "" (worldBelow "bin") = (.ok s, w') ∧
      ¬ (s.stop w').2.1.engine.IsPico ∧
      ∀ rate samples, (s.stop w').2.1.engine.playback.filtered rate samples = samples := by
  have hopen : ∃ s w', open? CommandEngine.loader "bin/espeak-ng" "" (worldBelow "bin") = (.ok s, w') ∧
      s.released = false ∧ ¬ (s.stop w').2.1.engine.IsPico := ⟨_, _, rfl, rfl, id⟩
  obtain ⟨s, w', hs, hreleased, hkind⟩ := hopen
  have hused := used_stop (σ := Rehearsal.Probe) hreleased w'
  obtain ⟨directories, name, hpieces, -, -, -, hplain⟩ := filter_agrees_iff hs hused
  refine ⟨s, w', hs, hkind, hplain hkind ?_⟩
  have hcut : ["bin"] ++ ["espeak-ng"] = directories ++ [name] := hpieces
  obtain ⟨rfl, -⟩ := List.append_inj' hcut rfl
  decide

/-- An engine below a directory with the marker has the filter, although it is of the other kind. -/
theorem not_filter_agrees :
    ∃ s w', open? CommandEngine.loader "pico/espeak-ng" "" (worldBelow "pico") = (.ok s, w') ∧
      s.filter.enabled = true ∧ s.engine.playback.shelf.isSome = true ∧ ¬ s.engine.IsPico :=
  ⟨_, _, rfl, rfl, rfl, id⟩

end Session

end SpeechHost
