import Mathlib.Data.List.Infix
import SpeechHost.Storage.Path
import SpeechHost.Text.Blank
import SpeechHost.Text.Lowercase
/-!
# Words in the lower-case form of a path

Lower-casing looks at what stands around a character only to choose between the two small sigmas. A word
without them does not see the difference (`infix_lowerChars`), and a word without a slash lies between two
slashes. So the lower-case form of a path contains such a word if and only if that of one of its pieces
does (`contains_lowercase_iff`).
-/

namespace SpeechHost.Text

open SpeechHost.Storage

/-! ## Runs of neighbouring elements -/

section Infix

variable {α : Type} {part xs ys : List α} {a : α}

theorem occursIn_iff [BEq α] [LawfulBEq α] : occursIn part xs ↔ part <:+: xs := by
  induction xs with
  | nil => simp [occursIn]
  | cons c cs ih => simp [occursIn, ih, List.infix_cons_iff]

theorem infix_append_cons (ha : a ∉ part) :
    part <:+: xs ++ a :: ys ↔ part <:+: xs ∨ part <:+: ys := by
  constructor
  · rintro ⟨s, t, h⟩
    rcases List.append_eq_append_iff.1 h with ⟨r, rfl, -⟩ | ⟨r, hs, hr⟩
    · exact .inl ⟨s, r, rfl⟩
    · rcases List.append_eq_append_iff.1 hs with ⟨q, rfl, rfl⟩ | ⟨q, rfl, rfl⟩
      · -- the run reaches to the separator at most
        cases r with
        | nil => exact .inl ⟨s, [], by simp⟩
        | cons b r =>
          obtain ⟨rfl, -⟩ := List.cons_eq_cons.1 hr
          exact absurd (by simp) ha
      · cases q with
        | nil =>
          cases part with
          | nil => exact .inl (List.nil_infix)
          | cons b part =>
            obtain ⟨rfl, -⟩ := List.cons_eq_cons.1 hr
            exact absurd (by simp) ha
        | cons b q =>
          obtain ⟨-, rfl⟩ := List.cons_eq_cons.1 hr
          exact .inr ⟨q, t, rfl⟩
  · rintro (h | h)
    · exact h.trans (List.prefix_append xs (a :: ys)).isInfix
    · exact h.trans ((List.suffix_cons a ys).trans (List.suffix_append xs (a :: ys))).isInfix

end Infix

/-! ## The small sigmas -/

/-- Writes both small sigmas alike. -/
def blur (c : Char) : Char :=
  if c = 'ς' then 'σ' else c

/-- The lower-case form of a character wherever it stands, with the small sigmas written alike. -/
def lowerAlone (c : Char) : List Char :=
  if c = 'Σ' then ['σ'] else (lowerChar c).map blur

theorem map_blur_lowerChars (before cs : List Char) :
    (lowerChars before cs).map blur = cs.flatMap lowerAlone := by
  induction cs generalizing before with
  | nil => rfl
  | cons c cs ih =>
    by_cases hc : c = 'Σ'
    · subst hc
      simp only [lowerChars, beq_self_eq_true, if_true, List.map_cons, ih, List.flatMap_cons,
        lowerAlone, List.singleton_append]
      split_ifs <;> rfl
    · simp [lowerChars, hc, ih, lowerAlone]

theorem map_blur_of_notMem {cs : List Char} (h : 'ς' ∉ cs) : cs.map blur = cs := by
  have hsame : ∀ c ∈ cs, blur c = id c := by
    intro c hc
    have hne : c ≠ 'ς' := by
      rintro rfl
      exact h hc
    simp [blur, hne]
  rw [List.map_congr_left hsame, List.map_id]

theorem infix_map_blur {part cs : List Char} (hfinal : 'ς' ∉ part) (hsigma : 'σ' ∉ part) :
    part <:+: cs.map blur ↔ part <:+: cs := by
  constructor
  · rintro ⟨s, t, h⟩
    obtain ⟨ab, c, rfl, hab, rfl⟩ := List.map_eq_append_iff.1 h.symm
    obtain ⟨a, b, rfl, rfl, hb⟩ := List.map_eq_append_iff.1 hab
    have hnone : 'ς' ∉ b := by
      intro hmem
      apply hsigma
      rw [← hb]
      exact List.mem_map.2 ⟨'ς', hmem, rfl⟩
    rw [map_blur_of_notMem hnone] at hb
    exact ⟨a, c, by rw [hb]⟩
  · intro h
    rw [← map_blur_of_notMem hfinal]
    exact h.map blur

/-- A word without small sigmas is found in the lower-case form of a text whatever stands around each
character. -/
theorem infix_lowerChars {part : List Char} (hfinal : 'ς' ∉ part) (hsigma : 'σ' ∉ part)
    (before cs : List Char) :
    part <:+: lowerChars before cs ↔ part <:+: cs.flatMap lowerAlone := by
  rw [← map_blur_lowerChars before, infix_map_blur hfinal hsigma]

/-! ## The pieces of a path -/

theorem infix_flatMap_intercalate {part : List Char} (hslash : '/' ∉ part) {f : Char → List Char}
    (hf : f '/' = ['/']) {pieces : List (List Char)} (hne : pieces ≠ []) :
    part <:+: (['/'].intercalate pieces).flatMap f ↔
      ∃ piece ∈ pieces, part <:+: piece.flatMap f := by
  induction pieces with
  | nil => contradiction
  | cons piece rest ih =>
    cases rest with
    | nil => simp
    | cons next rest =>
      have hcut : (['/'].intercalate (piece :: next :: rest)).flatMap f =
          piece.flatMap f ++ '/' :: (['/'].intercalate (next :: rest)).flatMap f := by
        simp [hf]
      rw [hcut, infix_append_cons hslash, ih (by simp)]
      simp

/-- The lower-case form of a path contains a word if and only if that of one of its pieces does, when the
word has neither a slash nor a small sigma. -/
theorem contains_lowercase_iff {word : String} (hslash : '/' ∉ word.toList)
    (hfinal : 'ς' ∉ word.toList) (hsigma : 'σ' ∉ word.toList) (s : String) :
    contains (lowercase s) word ↔
      ∃ piece ∈ (Path.ofString s).pieces, contains (lowercase piece) word := by
  have hword : ∀ cs : List Char, contains (lowercase (String.ofList cs)) word ↔
      word.toList <:+: cs.flatMap lowerAlone := by
    intro cs
    rw [contains, occursIn_iff, lowercase, String.toList_ofList, String.toList_ofList,
      infix_lowerChars hfinal hsigma]
  have hwhole := hword s.toList
  rw [String.ofList_toList] at hwhole
  rw [hwhole, ← Path.intercalate_cut s.toList,
    infix_flatMap_intercalate hslash rfl (Path.cut_ne_nil _)]
  simp only [Path.ofString, List.mem_map, exists_exists_and_eq_and, hword]

end SpeechHost.Text
