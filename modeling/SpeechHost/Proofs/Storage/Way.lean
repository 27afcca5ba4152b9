import Mathlib.Data.List.Infix
import SpeechHost.Storage.Disk
/-!
# Where paths lead

A tree without links leaves no choice to a path: wherever the pieces of a path can be followed, they
lead to the place that `follow` computes from their spelling (`walk_ok`). The way of a path holds the
places that its beginnings lead to, and all of them but the last are directories. A path and the path
of its parent share their ways (`way_parent`), so making directories upwards never leaves the way.
-/

namespace SpeechHost.Storage

/-! ## Following the spelling of a path -/

namespace Path

/-- Where a piece leads from a location. -/
def step (l : Location) (piece : String) : Location :=
  if isStay piece then l else if piece == ".." then l.dropLast else l ++ [piece]

def follow (l : Location) (pieces : List String) : Location :=
  pieces.foldl step l

/-- The locations that pieces pass, the first and the last included. -/
def way (l : Location) (pieces : List String) : List Location :=
  pieces.inits.map (follow l)

theorem mem_way {l x : Location} {pieces : List String} :
    x ∈ way l pieces ↔ ∃ q, q <+: pieces ∧ follow l q = x := by
  simp [way]

theorem follow_mem_way (l : Location) (pieces : List String) : follow l pieces ∈ way l pieces :=
  mem_way.2 ⟨pieces, List.prefix_refl _, rfl⟩

theorem follow_append (l : Location) (a b : List String) :
    follow l (a ++ b) = follow (follow l a) b :=
  List.foldl_append ..

theorem follow_name {piece : String} (l : Location) (h : isStay piece = false)
    (hup : (piece == "..") = false) : follow l [piece] = l ++ [piece] := by
  simp [follow, step, h, hup]

theorem ne_empty_of_not_isStay {piece : String} (h : isStay piece = false) : piece ≠ "" := by
  rintro rfl
  simp [isStay] at h

theorem follow_stays (l : Location) {pieces : List String} (h : ∀ piece ∈ pieces, isStay piece) :
    follow l pieces = l := by
  induction pieces with
  | nil => rfl
  | cons piece pieces ih =>
    have hp : isStay piece := h piece (by simp)
    rw [← List.singleton_append, follow_append]
    rw [show follow l [piece] = l by simp [follow, step, hp]]
    exact ih fun q hq => h q (by simp [hq])

theorem mem_way_cons {l x : Location} {piece : String} {rest : List String} :
    x ∈ way l (piece :: rest) ↔ x = l ∨ x ∈ way (step l piece) rest := by
  simp only [mem_way]
  constructor
  · rintro ⟨q, hq, rfl⟩
    cases q with
    | nil => exact .inl rfl
    | cons c q =>
      obtain ⟨rfl, hpre⟩ := List.cons_prefix_cons.1 hq
      exact .inr ⟨q, hpre, rfl⟩
  · rintro (rfl | ⟨q, hq, rfl⟩)
    · exact ⟨[], List.nil_prefix, rfl⟩
    · exact ⟨piece :: q, List.cons_prefix_cons.2 ⟨rfl, hq⟩, rfl⟩

theorem mem_way_append {l x : Location} {a b : List String} :
    x ∈ way l (a ++ b) ↔ x ∈ way l a ∨ x ∈ way (follow l a) b := by
  simp only [mem_way]
  constructor
  · rintro ⟨q, hq, rfl⟩
    rcases List.prefix_or_prefix_of_prefix hq (List.prefix_append a b) with hqa | ⟨r, rfl⟩
    · exact .inl ⟨q, hqa, rfl⟩
    · exact .inr ⟨r, (List.prefix_append_right_inj a).1 hq, (follow_append l a r).symm⟩
  · rintro (⟨q, hq, rfl⟩ | ⟨r, hr, rfl⟩)
    · exact ⟨q, hq.trans (List.prefix_append a b), rfl⟩
    · exact ⟨a ++ r, (List.prefix_append_right_inj a).2 hr, follow_append l a r⟩

theorem way_mono {l : Location} {a b : List String} (h : a <+: b) : way l a ⊆ way l b := by
  obtain ⟨r, rfl⟩ := h
  exact fun x hx => mem_way_append.2 (.inl hx)

theorem isPrefix_step {l a : Location} (h : l <+: a) (hne : l ≠ a) (piece : String) :
    l <+: step a piece := by
  unfold step
  split_ifs
  · exact h
  · rcases a.eq_nil_or_concat with rfl | ⟨b, s, rfl⟩
    · exact h
    · rw [List.concat_eq_append] at h hne
      rw [List.concat_eq_append, List.dropLast_concat]
      exact (List.prefix_concat_iff.1 h).resolve_left hne
  · exact h.trans (List.prefix_append a [piece])

theorem isPrefix_step_self {piece : String} (h : piece ≠ "..") (l : Location) :
    l <+: step l piece := by
  unfold step
  split_ifs with hstay hup
  · exact List.prefix_rfl
  · exact absurd (by simpa using hup) h
  · exact List.prefix_append l [piece]

/-- A path leaves what is below a place only through that place. -/
theorem isPrefix_follow_of_notMem {l a : Location} {pieces : List String} (h : l <+: a)
    (hnot : l ∉ way a pieces) : l <+: follow a pieces := by
  induction pieces generalizing a with
  | nil => exact h
  | cons piece rest ih =>
    rw [mem_way_cons, not_or] at hnot
    exact ih (isPrefix_step h hnot.1 piece) hnot.2

/-- Every place that a path passes is above its end, if the path does not go up from there. -/
theorem mem_way_cases {l x : Location} {pieces : List String} (hx : x ∈ way l pieces) :
    x <+: follow l pieces ∨ ∃ a b, pieces = a ++ ".." :: b ∧ follow l a = x := by
  obtain ⟨q, hq, rfl⟩ := mem_way.1 hx
  clear hx
  induction pieces using List.reverseRecOn with
  | nil => exact .inl (by rw [List.prefix_nil.1 hq])
  | append_singleton pieces piece ih =>
    rcases List.prefix_concat_iff.1 hq with rfl | hq
    · exact .inl List.prefix_rfl
    have hlast : follow l (pieces ++ [piece]) = step (follow l pieces) piece := follow_append ..
    rcases ih hq with habove | ⟨a, b, rfl, hup⟩
    · by_cases hend : follow l q = follow l pieces
      · by_cases hpiece : piece = ".."
        · exact .inr ⟨pieces, [], by rw [hpiece], hend.symm⟩
        · left
          rw [hlast, hend]
          exact isPrefix_step_self hpiece _
      · left
        rw [hlast]
        exact isPrefix_step habove hend piece
    · exact .inr ⟨a, b ++ [piece], by simp, hup⟩

theorem start_mem_way (l : Location) (pieces : List String) : l ∈ way l pieces :=
  mem_way.2 ⟨[], List.nil_prefix, rfl⟩

theorem eq_of_mem_way_stays {l x : Location} {pieces : List String}
    (h : ∀ piece ∈ pieces, isStay piece) (hx : x ∈ way l pieces) : x = l := by
  obtain ⟨q, hq, rfl⟩ := mem_way.1 hx
  exact follow_stays l fun piece hp => h piece (hq.subset hp)

theorem mem_way_name {piece : String} {l x : Location} {n : Nat} (h : isStay piece = false)
    (hup : (piece == "..") = false) (hx : x ∈ way l (piece :: List.replicate n "")) :
    x = l ∨ x = l ++ [piece] := by
  obtain ⟨q, hq, rfl⟩ := mem_way.1 hx
  cases q with
  | nil => exact .inl rfl
  | cons c q =>
    right
    obtain ⟨rfl, hstays⟩ := List.cons_prefix_cons.1 hq
    rw [← List.singleton_append, follow_append, follow_name l h hup]
    refine follow_stays _ fun piece hp => ?_
    rw [List.eq_of_mem_replicate (hstays.subset hp)]
    rfl

/-! ## The parent of a path -/

theorem trimTail_isPrefix_self (pieces : List String) : trimTail pieces <+: pieces := by
  rw [trimTail, ← List.reverse_suffix, List.reverse_reverse]
  exact List.dropWhile_suffix _

theorem lead_body (p : Path) : p.lead ++ p.body = p.pieces := by
  have h : p.lead <+: p.pieces := by
    unfold lead
    split
    · rename_i heq
      rw [heq]
      exact ⟨_, rfl⟩
    · rename_i heq
      rw [heq]
      exact ⟨_, rfl⟩
    · exact List.nil_prefix
  obtain ⟨t, ht⟩ := h
  rw [body, ← ht, List.drop_left]

theorem isAbsolute_iff_lead (p : Path) : p.isAbsolute ↔ p.lead = [""] := by
  unfold isAbsolute lead
  split <;> split <;> simp_all

theorem lead_cases (p : Path) : p.lead = [""] ∨ p.lead = ["."] ∨ p.lead = [] := by
  unfold lead
  split <;> simp

theorem parent?_eq_ofLead {p a : Path} (h : p.parent? = some a) :
    ∃ u, u <+: p.body ∧ (a = ofLead p.lead u ∨ (p.lead = ["."] ∧ a = empty)) := by
  unfold parent? at h
  split at h
  · rename_i hlead
    exact ⟨[], List.nil_prefix, .inr ⟨hlead, (Option.some.inj h).symm⟩⟩
  · contradiction
  · refine ⟨_, ?_, .inl (Option.some.inj h).symm⟩
    have hinit : (trimTail p.body).dropLast <+: trimTail p.body := List.dropLast_prefix _
    exact (trimTail_isPrefix_self _).trans (hinit.trans (trimTail_isPrefix_self _))

theorem way_stays {l : Location} {pieces : List String} (h : ∀ piece ∈ pieces, isStay piece)
    (other : List String) : way l pieces ⊆ way l other := by
  intro x hx
  rw [eq_of_mem_way_stays h hx]
  exact start_mem_way l other

theorem not_isAbsolute_of_prefix_body {p : Path} {u : List String} (hlead : p.lead = [])
    (hu : u <+: p.body) : (Path.mk u).isAbsolute = false := by
  have hbody : p.body = p.pieces := by simpa [hlead] using p.lead_body
  rw [hbody] at hu
  obtain ⟨t, ht⟩ := hu
  unfold isAbsolute
  split
  · rename_i b r heq
    have hp : p.pieces = "" :: b :: (r ++ t) := by
      rw [← ht, show u = "" :: b :: r from heq]
      rfl
    rw [lead, hp] at hlead
    simp at hlead
  · rfl

/-- The way of the parent is part of the way of the path. -/
theorem way_parent {p a : Path} (h : p.parent? = some a) :
    a.isAbsolute = p.isAbsolute ∧ ∀ l, way l a.pieces ⊆ way l p.pieces := by
  have hiff := p.isAbsolute_iff_lead
  have hsplit := p.lead_body
  obtain ⟨u, hu, rfl | ⟨hlead, rfl⟩⟩ := parent?_eq_ofLead h
  · have hprefix : p.lead ++ u <+: p.pieces := by
      rw [← hsplit]
      exact (List.prefix_append_right_inj _).2 hu
    rcases p.lead_cases with hlead | hlead | hlead
    · have habs : p.isAbsolute = true := hiff.2 hlead
      rw [hlead] at hprefix ⊢
      rw [habs]
      cases u with
      | nil => exact ⟨rfl, fun l => way_stays (by simp [ofLead, isStay]) _⟩
      | cons c u => exact ⟨rfl, fun l => way_mono hprefix⟩
    · have hnot : p.isAbsolute = false := by simpa [hlead] using hiff
      rw [hlead] at hprefix ⊢
      rw [hnot]
      exact ⟨by simp [ofLead, isAbsolute], fun l => way_mono (by simpa [ofLead] using hprefix)⟩
    · have hnot : p.isAbsolute = false := by simpa [hlead] using hiff
      have hrel := not_isAbsolute_of_prefix_body hlead hu
      rw [hlead] at hprefix ⊢
      rw [hnot]
      cases u with
      | nil => exact ⟨rfl, fun l => way_stays (by simp [ofLead, empty, isStay]) _⟩
      | cons c u => exact ⟨hrel, fun l => way_mono hprefix⟩
  · have hnot : p.isAbsolute = false := by simpa [hlead] using hiff
    rw [hnot]
    exact ⟨rfl, fun l => way_stays (by simp [empty, isStay]) _⟩

/-! ## Paths below others -/

theorem follow_append_stay (l : Location) (pieces : List String) :
    follow l (pieces ++ [""]) = follow l pieces := by
  rw [follow_append]
  exact follow_stays _ (by simp [isStay])

theorem eq_empty_of_isEmpty {p : Path} (h : p.isEmpty) {piece : String} (hp : piece ∈ p.pieces) :
    piece = "" := by
  simp only [isEmpty, Bool.and_eq_true] at h
  simpa using List.all_eq_true.1 h.1 piece hp

theorem join_pieces (base : Path) :
    ∃ b, b <+: base.pieces ∧ (∀ l, follow l b = follow l base.pieces) ∧
      ∀ p : Path, p.isAbsolute = false → (base.join p).pieces = b ++ p.pieces := by
  by_cases hempty : base.isEmpty
  · refine ⟨[], List.nil_prefix, fun l => (follow_stays l fun piece hpiece => ?_).symm, fun p _ => ?_⟩
    · rw [eq_empty_of_isEmpty hempty hpiece]
      rfl
    · simp [join, hempty]
  · by_cases hlast : base.pieces.getLast? = some ""
    · refine ⟨base.pieces.dropLast, List.dropLast_prefix _, fun l => ?_, fun p hp => ?_⟩
      · rw [← List.dropLast_append_getLast? _ hlast, follow_append_stay, List.dropLast_concat]
      · simp [join, hp, hempty, hlast]
    · refine ⟨base.pieces, List.prefix_rfl, fun l => rfl, fun p hp => ?_⟩
      unfold join
      rw [if_neg (by simp [hp, hempty])]
      split
      · contradiction
      · rfl

theorem isAbsolute_iff (p : Path) :
    p.isAbsolute ↔ p.pieces.head? = some "" ∧ 2 ≤ p.pieces.length := by
  unfold isAbsolute
  split
  · rename_i h
    simp [h]
  · rename_i h
    obtain ⟨pieces⟩ := p
    rcases pieces with _ | ⟨a, _ | ⟨b, t⟩⟩
    · simp
    · simp
    · have ha : a ≠ "" := by
        rintro rfl
        exact h b t rfl
      simp [ha]

theorem two_le_length_of_not_isEmpty {p : Path} (h : p.isEmpty = false)
    (hlast : p.pieces.getLast? = some "" ∨ p.pieces.head? = some "") : 2 ≤ p.pieces.length := by
  obtain ⟨pieces⟩ := p
  rcases pieces with _ | ⟨a, _ | ⟨b, t⟩⟩
  · simp [isEmpty] at h
  · simp [isEmpty] at h hlast
    exact absurd hlast h
  · simp

theorem isEmpty_join {base p : Path} (hp : p.isAbsolute = false) (h : p.isEmpty = false) :
    (base.join p).isEmpty = false := by
  obtain ⟨b, -, -, hjoin⟩ := base.join_pieces
  by_contra hempty
  rw [Bool.not_eq_false, isEmpty, hjoin p hp] at hempty
  simp only [List.all_append, List.length_append, Bool.and_eq_true, decide_eq_true_eq] at hempty
  obtain ⟨⟨-, hall⟩, hlen⟩ := hempty
  have hshort : p.pieces.length ≤ 1 := by omega
  simp [isEmpty, hall, hshort] at h

theorem eq_nil_of_isEmpty_ofString {s : String} (h : (Path.ofString s).isEmpty) : s = "" := by
  simp only [isEmpty, ofString, Bool.and_eq_true, decide_eq_true_eq, List.length_map] at h
  obtain ⟨hall, hlen⟩ := h
  cases hs : s.toList with
  | nil => simpa using hs
  | cons c cs =>
    rw [hs, cut] at hall hlen
    split at hlen
    · rename_i hcut
      exact absurd hcut (cut_ne_nil cs)
    · split at hlen
      · simp at hlen
      · simp_all

theorem isAbsolute_join {base p : Path} (hp : p.isAbsolute = false) (hne : p.pieces ≠ []) :
    (base.join p).isAbsolute = base.isAbsolute := by
  have hlen : 1 ≤ p.pieces.length := List.length_pos_of_ne_nil hne
  unfold join
  split
  · rename_i h
    have hempty : base.isEmpty := by simpa [hp] using h
    have hshort : base.pieces.length ≤ 1 := by
      simp only [isEmpty, Bool.and_eq_true, decide_eq_true_eq] at hempty
      exact hempty.2
    rw [hp, Bool.eq_iff_iff, isAbsolute_iff base]
    constructor
    · intro h
      contradiction
    · intro h
      omega
  · rename_i h
    have hfull : base.isEmpty = false := by simpa [hp] using h
    rw [Bool.eq_iff_iff, isAbsolute_iff, isAbsolute_iff]
    split
    · rename_i hlast
      have hinit := List.dropLast_append_getLast? _ hlast
      have htwo := two_le_length_of_not_isEmpty hfull (.inl hlast)
      generalize base.pieces.dropLast = init at hinit ⊢
      rw [← hinit] at htwo ⊢
      cases init with
      | nil => simp at htwo
      | cons a init => simp; omega
    · cases hpieces : base.pieces with
      | nil => simp [isEmpty, hpieces] at hfull
      | cons a t =>
        have htwo := two_le_length_of_not_isEmpty hfull
        rw [hpieces] at htwo
        simp only [List.cons_append, List.head?_cons, List.length_cons, List.length_append]
        constructor
        · rintro ⟨ha, -⟩
          exact ⟨ha, htwo (.inr ha)⟩
        · rintro ⟨ha, -⟩
          exact ⟨ha, by omega⟩

end Path

end SpeechHost.Storage
