import SpeechHost.Voice.Table
/-!
# The choice of a voice

The voice that is chosen for a language speaks that language. It is of the country that was named if the
language has a voice there, and the first voice of the language otherwise; a voice is what its own
language and country choose.
-/

namespace SpeechHost.Voice

variable {language country : String} {v : Voice} {exact : Bool}

theorem voicesOf_empty : voicesOf "" = [] := by decide +kernel

theorem choose?_empty (country : String) : choose? "" country = none := by
  rw [choose?, voicesOf_empty]

theorem language_of_mem_voicesOf (h : v ∈ voicesOf language) : v.language = language := by
  have hmem := List.mem_filter.1 h
  exact beq_iff_eq.1 hmem.2

theorem choose?_cases (h : choose? language country = some (v, exact)) :
    v ∈ voicesOf language ∧
      ((exact = true ∧ v.country = country) ∨
        (exact = false ∧ (∀ u ∈ voicesOf language, u.country ≠ country) ∧
          (voicesOf language).head? = some v)) := by
  unfold choose? at h
  split at h
  · contradiction
  · rename_i first rest hvoices
    rw [hvoices]
    split at h
    · rename_i u hfind
      obtain ⟨rfl, rfl⟩ := Prod.mk.inj (Option.some.inj h)
      have hcountry := List.find?_some hfind
      exact ⟨List.mem_of_find?_eq_some hfind, .inl ⟨rfl, beq_iff_eq.1 hcountry⟩⟩
    · rename_i hfind
      obtain ⟨rfl, rfl⟩ := Prod.mk.inj (Option.some.inj h)
      refine ⟨List.mem_cons_self, .inr ⟨rfl, fun u hu hcountry => ?_, rfl⟩⟩
      have hother := List.find?_eq_none.1 hfind u hu
      exact hother (beq_iff_eq.2 hcountry)

theorem language_of_choose? (h : choose? language country = some (v, exact)) :
    v.language = language :=
  language_of_mem_voicesOf (choose?_cases h).1

theorem exact_iff (h : choose? language country = some (v, exact)) :
    exact = true ↔ v.country = country := by
  obtain ⟨hmem, ⟨rfl, hcountry⟩ | ⟨rfl, hother, -⟩⟩ := choose?_cases h
  · exact iff_of_true rfl hcountry
  · exact iff_of_false Bool.false_ne_true (hother v hmem)

theorem head?_of_choose? (h : choose? language country = some (v, false)) :
    (voicesOf language).head? = some v := by
  obtain ⟨-, ⟨hexact, -⟩ | ⟨-, -, hhead⟩⟩ := choose?_cases h
  · contradiction
  · exact hhead

theorem choose?_self (h : v ∈ voices) : choose? v.language v.country = some (v, true) := by
  have hall : ∀ v ∈ voices, choose? v.language v.country = some (v, true) := by decide +kernel
  exact hall v h

/-- No two voices have the same name. -/
theorem eq_of_name_eq {u : Voice} (hu : u ∈ voices) (hv : v ∈ voices) (h : u.name = v.name) : u = v := by
  have hall : ∀ u ∈ voices, ∀ v ∈ voices, u.name = v.name → u = v := by decide +kernel
  exact hall u hu v hv h

end SpeechHost.Voice
