import SpeechHost.Proofs.Storage.Way
/-!
# How paths are spelled

A text is cut at its slashes, and nowhere else. So a text with a slash has several pieces, and a name
without one that is put behind a place is read as it would be from the text of the two
(`join_ofString`). A path of several pieces that has one component ends in a piece that names nothing
(`exists_stay_of_components`).
-/

namespace SpeechHost.Storage.Path

/-! ## The pieces of a text -/

theorem cut_append_slash (a b : List Char) : cut (a ++ '/' :: b) = cut a ++ cut b := by
  induction a with
  | nil =>
    cases hcut : cut b with
    | nil => exact absurd hcut (cut_ne_nil b)
    | cons piece rest => simp [cut, hcut]
  | cons c a ih =>
    cases hcut : cut a with
    | nil => exact absurd hcut (cut_ne_nil a)
    | cons piece rest =>
      rw [List.cons_append, cut, cut, ih, hcut]
      simp only [List.cons_append]
      split <;> rfl

theorem cut_of_notMem {cs : List Char} (h : '/' ∉ cs) : cut cs = [cs] := by
  induction cs with
  | nil => rfl
  | cons c cs ih =>
    obtain ⟨hc, hcs⟩ : '/' ≠ c ∧ '/' ∉ cs := by simpa using h
    rw [cut, ih hcs]
    simp [hc.symm]

theorem getLast?_cut {cs : List Char} (h : (cut cs).getLast? = some []) (hne : cs ≠ []) :
    cs.getLast? = some '/' := by
  induction cs with
  | nil => contradiction
  | cons c cs ih =>
    have hlast (hrest : (cut cs).getLast? = some []) (hc : cs = [] → c = '/') :
        (c :: cs).getLast? = some '/' := by
      by_cases hcs : cs = []
      · subst hcs
        simpa using hc rfl
      · simp [List.getLast?_cons, ih hrest hcs]
    rw [cut] at h
    cases hcut : cut cs with
    | nil => exact absurd hcut (cut_ne_nil cs)
    | cons piece rest =>
      rw [hcut] at h hlast
      by_cases hc : c = '/'
      · exact hlast (by simpa [hc] using h) fun _ => hc
      · cases rest with
        | nil => simp [hc] at h
        | cons next rest =>
          refine hlast (by simpa [hc] using h) ?_
          rintro rfl
          simp [cut] at hcut

theorem ofString_of_notMem {s : String} (h : '/' ∉ s.toList) : ofString s = ⟨[s]⟩ := by
  simp [ofString, cut_of_notMem h]

theorem two_le_length_ofString {s : String} (h : '/' ∈ s.toList) :
    2 ≤ (ofString s).pieces.length := by
  obtain ⟨a, b, hab⟩ := List.append_of_mem h
  have ha := List.length_pos_of_ne_nil (cut_ne_nil a)
  have hb := List.length_pos_of_ne_nil (cut_ne_nil b)
  rw [ofString, hab, cut_append_slash, List.length_map, List.length_append]
  omega

theorem pieces_of_slash {s : String} {front : List Char} {name : String}
    (h : s.toList = front ++ '/' :: name.toList) (hname : '/' ∉ name.toList) :
    (ofString s).pieces = (cut front).map String.ofList ++ [name] := by
  simp [ofString, h, cut_append_slash, cut_of_notMem hname]

/-! ## Names behind places -/

/-- A name written behind a place, with a slash between the two unless one is there already or no place
is named. -/
def behind (place name : String) : String :=
  if place = "" ∨ place.toList.getLast? = some '/' then place ++ name else place ++ "/" ++ name

theorem join_ofString (place : String) {name : String} (h : '/' ∉ name.toList) :
    (ofString place).join (ofString name) = ofString (behind place name) := by
  have hname := ofString_of_notMem h
  have hrelative : (ofString name).isAbsolute = false := by simp [hname, isAbsolute]
  by_cases hempty : place = ""
  · simp [behind, hempty, join, isEmpty, ofString, cut]
  have hfull : (ofString place).isEmpty = false := by
    by_contra hnot
    exact hempty (eq_nil_of_isEmpty_ofString (by simpa using hnot))
  unfold join
  rw [if_neg (by simp [hrelative, hfull]), hname]
  by_cases hslash : place.toList.getLast? = some '/'
  · obtain ⟨front, hfront⟩ := List.getLast?_eq_some_iff.1 hslash
    have hplace : (ofString place).pieces = (cut front).map String.ofList ++ [""] :=
      pieces_of_slash (by simp [hfront]) (by simp)
    have htext : (ofString (behind place name)).pieces = (cut front).map String.ofList ++ [name] :=
      pieces_of_slash (by simp [behind, hfront]) h
    rw [hplace, List.getLast?_concat, List.dropLast_concat]
    exact congrArg Path.mk htext.symm
  · have hlast : (ofString place).pieces.getLast? ≠ some "" := by
      intro hlast
      have hcut : (cut place.toList).getLast? = some [] := by
        simpa [ofString, List.getLast?_map] using hlast
      exact hslash (getLast?_cut hcut (by simpa using hempty))
    have htext : (ofString (behind place name)).pieces =
        (cut place.toList).map String.ofList ++ [name] :=
      pieces_of_slash (by simp [behind, hempty, hslash]) h
    split
    · contradiction
    · exact congrArg Path.mk htext.symm

theorem exists_pieces_join (base p : Path) : ∃ front, (base.join p).pieces = front ++ p.pieces := by
  unfold Path.join
  split_ifs
  · exact ⟨[], rfl⟩
  · split
    · exact ⟨_, rfl⟩
    · exact ⟨_, rfl⟩

/-! ## Pieces and components -/

theorem length_components {p : Path} {first : String} {rest : List String}
    (h : p.pieces = first :: rest) (hrest : rest ≠ []) :
    p.components.length = (rest.filter (!isStay ·)).length + 1 := by
  obtain ⟨second, others, rfl⟩ := List.exists_cons_of_ne_nil hrest
  by_cases htop : first = ""
  · simp [components, body, lead, h, htop, Nat.add_comm]
  by_cases hhere : first = "."
  · simp [components, body, lead, h, hhere, Nat.add_comm]
  · have hname : isStay first = false := by simp [isStay, htop, hhere]
    simp [components, body, lead, h, htop, hhere, hname]

theorem exists_stay_of_components {p : Path} (hlong : 2 ≤ p.pieces.length)
    (h : p.components.length ≤ 1) :
    ∃ front last, p.pieces = front ++ [last] ∧ isStay last := by
  obtain ⟨pieces⟩ := p
  rcases pieces with _ | ⟨first, _ | ⟨second, others⟩⟩
  · simp at hlong
  · simp at hlong
  · rw [length_components rfl (List.cons_ne_nil _ _)] at h
    have hnone : (second :: others).filter (!isStay ·) = [] := by
      rw [← List.length_eq_zero_iff]
      omega
    rw [List.filter_eq_nil_iff] at hnone
    refine ⟨first :: (second :: others).dropLast, (second :: others).getLast (by simp), ?_, ?_⟩
    · rw [List.cons_append, List.dropLast_concat_getLast]
    · simpa using hnone _ (List.getLast_mem (by simp))

end SpeechHost.Storage.Path
