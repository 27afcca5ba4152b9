import SpeechHost.Proofs.Engine.Language
import SpeechHost.Service
/-!
# Loading a language

A service that is asked to load a language asks its engine how well it supports it, and chooses it if it can
be spoken. Since the engine takes what it supports, the answer is always that of the engine, and whatever it
does not support leaves no trace (`Service.loadLanguage_agrees`).
-/

namespace SpeechHost

open SpeechHost.Audio SpeechHost.Storage SpeechHost.Voice

namespace CommandEngine

theorem setLanguage_ok_iff (e : CommandEngine) (l : Locale) (w : World) :
    (SpeechEngine.setLanguage l e w).1 = .ok () ↔ ∃ f, e.setLanguage w.disk l = .ok f := by
  cases h : e.setLanguage w.disk l <;> simp [SpeechEngine.setLanguage, h, settle]

theorem setLanguage_state {e f : CommandEngine} {l : Locale} {w : World}
    (h : e.setLanguage w.disk l = .ok f) : SpeechEngine.setLanguage l e w = (.ok (), f, w) := by
  simp [SpeechEngine.setLanguage, h, settle]

end CommandEngine

namespace Service

variable {v : Service CommandEngine} {s : Session CommandEngine} {l : Locale} {w : World}

theorem availability_open (hs : v.session = some s) (hopen : s.released = false) :
    v.availability l w = (s.engine.availability w.disk l, v, w) := by
  obtain ⟨identifier, config, session⟩ := v
  obtain ⟨name, filter, engine, released⟩ := s
  obtain rfl : session = some _ := hs
  obtain rfl : released = false := hopen
  simp [availability, request, Session.availability, Session.request, SpeechEngine.availability]

theorem loadLanguage_refused (hs : v.session = some s) (hopen : s.released = false)
    (h : (s.engine.availability w.disk l).isAvailable = false) :
    v.loadLanguage l w = (s.engine.availability w.disk l, v, w) := by
  obtain ⟨identifier, config, session⟩ := v
  obtain ⟨name, filter, engine, released⟩ := s
  obtain rfl : session = some _ := hs
  obtain rfl : released = false := hopen
  simp [loadLanguage, request, Session.availability, Session.request, SpeechEngine.availability, h]

theorem loadLanguage_taken {f : CommandEngine} (hs : v.session = some s) (hopen : s.released = false)
    (h : s.engine.setLanguage w.disk l = .ok f) :
    v.loadLanguage l w =
      (s.engine.availability w.disk l, { v with session := some { s with engine := f } }, w) := by
  have havailable := CommandEngine.isAvailable_iff.2 ⟨f, h⟩
  simp [loadLanguage, request, hs, Session.availability, Session.request, hopen,
    SpeechEngine.availability, havailable, Session.setLanguage, CommandEngine.setLanguage_state h]

/-- An engine takes a locale if and only if it supports it, and reports it from then on. So a service with an
open session answers how well its engine supports a locale, chooses the locale if it is supported, and
otherwise stays as it is. -/
theorem loadLanguage_agrees (e : CommandEngine) (l : Locale) (w : World) :
    ((e.availability w.disk l).isAvailable = true ↔ (SpeechEngine.setLanguage l e w).1 = .ok ()) ∧
      ((SpeechEngine.setLanguage l e w).1 = .ok () →
        ∃ reported, (SpeechEngine.language (SpeechEngine.setLanguage l e w).2.1 w).1 = some reported ∧
          e.Reports (e.availability w.disk l) l reported) ∧
      ∀ (v : Service CommandEngine) (s : Session CommandEngine),
        v.session = some s → s.released = false → s.engine = e →
          (v.availability l w).1 = e.availability w.disk l ∧
            v.loadLanguage l w =
              (e.availability w.disk l,
                if (e.availability w.disk l).isAvailable then
                  { v with session := some { s with engine := (SpeechEngine.setLanguage l e w).2.1 } }
                else v, w) := by
  refine ⟨?_, fun hok => ?_, fun v s hs hopen he => ⟨?_, ?_⟩⟩
  · rw [CommandEngine.isAvailable_iff, CommandEngine.setLanguage_ok_iff]
  · obtain ⟨f, hf⟩ := (CommandEngine.setLanguage_ok_iff e l w).1 hok
    obtain ⟨reported, hlanguage, hreports⟩ := CommandEngine.reports_setLanguage hf
    refine ⟨reported, ?_, hreports⟩
    rw [CommandEngine.setLanguage_state hf]
    exact hlanguage
  · rw [availability_open hs hopen, he]
  · subst he
    by_cases havailable : (s.engine.availability w.disk l).isAvailable = true
    · obtain ⟨f, hf⟩ := CommandEngine.isAvailable_iff.1 havailable
      rw [loadLanguage_taken hs hopen hf, if_pos havailable, CommandEngine.setLanguage_state hf]
    · rw [if_neg havailable, loadLanguage_refused hs hopen (by simpa using havailable)]

/-- A world with the data of the American voice. -/
def americanWorld : World where
  disk := ⟨[], [(["lang"], .directory), (["lang", "en-US_ta.bin"], .file [1]),
    (["lang", "en-US_lh0_sg.bin"], .file [2])]⟩
  searchPath := none
  journal := []

def americanSession : Session CommandEngine :=
  ⟨"pico2wave", .forEngine "pico2wave", .pico (.new (.ofString "/bin/pico2wave") "/lang"), false⟩

def americanService : Service CommandEngine := ⟨"pico2wave", none, some americanSession⟩

theorem loadLanguage_agrees_american :
    (americanSession.released = false ∧
        (americanService.loadLanguage ⟨"eng", "AUS", ""⟩ americanWorld).1 = .available) ∧
      americanService.loadLanguage ⟨"eng", "GBR", ""⟩ americanWorld =
        (.missingData, americanService, americanWorld) := by
  have hlevel : americanSession.engine.availability americanWorld.disk ⟨"eng", "AUS", ""⟩ =
      .available := by decide +kernel
  have hmissing : americanSession.engine.availability americanWorld.disk ⟨"eng", "GBR", ""⟩ =
      .missingData := by decide +kernel
  have htaken := (loadLanguage_agrees americanSession.engine ⟨"eng", "AUS", ""⟩ americanWorld).2.2
    americanService americanSession rfl rfl rfl
  have hleft := (loadLanguage_agrees americanSession.engine ⟨"eng", "GBR", ""⟩ americanWorld).2.2
    americanService americanSession rfl rfl rfl
  rw [hlevel] at htaken
  rw [hmissing] at hleft
  exact ⟨⟨rfl, congrArg Prod.fst htaken.2⟩, hleft.2⟩

end Service

end SpeechHost
