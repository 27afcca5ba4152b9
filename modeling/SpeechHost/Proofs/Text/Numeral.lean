import Mathlib.Tactic.Common
import SpeechHost.Text.Blank
import SpeechHost.Text.Numeral
/-!
# Numbers that are written and read

A whole number is read back from the numeral that it is written as, as long as it fits
(`numeral?_toString`).
-/

namespace SpeechHost.Text

theorem digit?_of_isDigit {c : Char} (h : c.isDigit) : digit? c = some (c.toNat - '0'.toNat) := by
  have hrange : ('0' ≤ c && c ≤ '9') = true := by
    simpa [Char.isDigit, Char.le_def, UInt32.le_iff_toNat_le] using h
  simp [digit?, hrange]

theorem digitsFrom?_of_isDigit {cs : List Char} (h : ∀ c ∈ cs, c.isDigit) (n : Nat) :
    digitsFrom? n cs = some (Nat.ofDigitChars 10 cs n) := by
  induction cs generalizing n with
  | nil => simp [digitsFrom?]
  | cons c cs ih =>
    rw [digitsFrom?, digit?_of_isDigit (h c (by simp)), Option.bind_some,
      ih fun c hc => h c (by simp [hc]), Nat.ofDigitChars_cons, Nat.mul_comm]

theorem isDigit_of_mem_toDigits {n : Nat} {c : Char} (h : c ∈ Nat.toDigits 10 n) : c.isDigit :=
  Nat.isDigit_of_mem_toDigits (by decide) (by decide) h

theorem natural?_toDigits (n : Nat) : natural? (Nat.toDigits 10 n) = some n := by
  have hread := digitsFrom?_of_isDigit (fun c => isDigit_of_mem_toDigits (n := n) (c := c)) 0
  rw [Nat.ofDigitChars_ten_toDigits] at hread
  cases hcs : Nat.toDigits 10 n with
  | nil => exact absurd hcs Nat.toDigits_ne_nil
  | cons c cs => rwa [hcs] at hread

theorem toList_toString (n : Int) :
    (toString n).toList = if 0 ≤ n then Nat.toDigits 10 n.toNat
      else '-' :: Nat.toDigits 10 (-n).toNat := by
  rw [Int.toString_eq_repr, Int.repr_eq_if]
  split <;> simp

theorem signed?_toDigits (n : Nat) : signed? (Nat.toDigits 10 n) = some (n : Int) := by
  have hnat := natural?_toDigits n
  have hdigit := fun c => isDigit_of_mem_toDigits (n := n) (c := c)
  unfold signed?
  split
  · rename_i cs heq
    exact absurd (hdigit '-' (by simp [heq])) (by decide)
  · rename_i cs heq
    exact absurd (hdigit '+' (by simp [heq])) (by decide)
  · simp [hnat]

theorem signed?_toString (n : Int) : signed? (toString n).toList = some n := by
  rw [toList_toString]
  split
  · rename_i hn
    rw [signed?_toDigits, Int.toNat_of_nonneg hn]
  · rename_i hn
    have hneg : ((-n).toNat : Int) = -n := Int.toNat_of_nonneg (by omega)
    simp [signed?, natural?_toDigits, hneg]

theorem trimChars_of_not_isBlank {cs : List Char} (h : ∀ c ∈ cs, isBlank c = false) :
    trimChars cs = cs := by
  have hdrop : ∀ ds : List Char, (∀ c ∈ ds, isBlank c = false) → ds.dropWhile isBlank = ds := by
    intro ds hds
    cases ds with
    | nil => rfl
    | cons d ds => rw [List.dropWhile_cons_of_neg (by simp [hds d])]
  rw [trimChars, hdrop cs h, hdrop _ (by simpa using h), List.reverse_reverse]

theorem not_isBlank_of_isDigit {c : Char} (h : c.isDigit) : isBlank c = false := by
  simp only [Char.isDigit, Bool.and_eq_true, decide_eq_true_eq, ge_iff_le,
    UInt32.le_iff_toNat_le] at h
  have hlow : 48 ≤ c.toNat := h.1
  have hhigh : c.toNat ≤ 57 := h.2
  simp only [isBlank, Bool.or_eq_false_iff, Bool.and_eq_false_iff, decide_eq_false_iff_not,
    beq_eq_false_iff_ne]
  omega

theorem trim_toString (n : Int) : trim (toString n) = toString n := by
  have hchars : ∀ c ∈ (toString n).toList, isBlank c = false := by
    intro c hc
    rw [toList_toString] at hc
    split at hc
    · exact not_isBlank_of_isDigit (isDigit_of_mem_toDigits hc)
    · rcases List.mem_cons.1 hc with rfl | hc
      · decide
      · exact not_isBlank_of_isDigit (isDigit_of_mem_toDigits hc)
  rw [trim, trimChars_of_not_isBlank hchars, String.ofList_toList]

/-- A number that fits is read back from its numeral, and another is not read at all. -/
theorem numeral?_toString (bits : Nat) (n : Int) :
    numeral? bits (toString n) =
      if -signedLimit bits ≤ n ∧ n < signedLimit bits then some n else none := by
  rw [numeral?, signed?_toString]
  simp [Option.filter]

end SpeechHost.Text
