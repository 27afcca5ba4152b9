import SpeechHost.Proofs.Storage.Walk
/-!
# The last step of a path, spelled out

How a path is cut into the pieces that are followed, its last piece and the slashes behind it depends on
its spelling only (`spot_spelling`). So a path that ends in a name ends in that place, below a directory
(`spot_name`), and it does so wherever that directory can be reached (`spot_keeps`).
-/

namespace SpeechHost.Storage.Disk

open SpeechHost.Storage.Path

variable {d d' : Disk} {p : Path} {l : Location} {last : String}

/-! ## The spelling of a path -/

theorem pieces_eq_used (p : Path) :
    ∃ n, p.pieces =
      (p.pieces.reverse.dropWhile (· == "")).reverse ++ List.replicate n "" := by
  have h := List.takeWhile_append_dropWhile (p := (· == "")) (l := p.pieces.reverse)
  have hall : ∀ piece ∈ p.pieces.reverse.takeWhile (· == ""), piece = "" := by
    intro piece hp
    simpa using List.all_eq_true.1 List.all_takeWhile piece hp
  have hrep := List.eq_replicate_of_mem hall
  refine ⟨(p.pieces.reverse.takeWhile (· == "")).length, ?_⟩
  conv_lhs => rw [← List.reverse_reverse p.pieces, ← h, List.reverse_append]
  rw [hrep]
  simp

theorem getLast?_used {p : Path} {last : String}
    (h : (p.pieces.reverse.dropWhile (· == "")).reverse.getLast? = some last) : last ≠ "" := by
  rintro rfl
  rw [List.getLast?_reverse] at h
  have hnot := List.head?_dropWhile_not (· == "") p.pieces.reverse
  simp [h] at hnot

/-- The end of a path whose pieces but the last one lead to `v`. -/
def endAt (d : Disk) (v : Location) (last : String) (slash : Bool) : Except Fault (Location × Ending) :=
  if d.isDirectoryAt v then
    if last == "." || last == ".." then .ok (v, .fixed) else .ok (v, .name last slash)
  else .error .notDirectory

theorem spot_spelling (p : Path) :
    (p.pieces = List.replicate p.pieces.length "" ∧
        ∀ d : Disk, d.spot p = check p >>= fun _ => .ok ([], .fixed)) ∨
      ∃ init last n, p.pieces = init ++ last :: List.replicate n "" ∧ last ≠ "" ∧
        ∀ d : Disk, d.spot p = check p >>= fun _ => d.walk (d.start p) init >>= fun v =>
          d.endAt v last (decide (0 < n)) := by
  obtain ⟨n, hn⟩ := pieces_eq_used p
  have hnonempty : ∀ last, (p.pieces.reverse.dropWhile (· == "")).reverse.getLast? = some last →
      last ≠ "" := fun last => getLast?_used
  unfold spot
  generalize (p.pieces.reverse.dropWhile (· == "")).reverse = used at hn hnonempty
  cases hlast : used.getLast? with
  | none =>
    left
    obtain rfl := List.getLast?_eq_none_iff.1 hlast
    refine ⟨?_, fun d => by rfl⟩
    rw [List.nil_append] at hn
    rw [hn, List.length_replicate]
  | some last =>
    right
    have hinit : used.dropLast ++ [last] = used := List.dropLast_append_getLast? _ hlast
    have hpieces : p.pieces = used.dropLast ++ last :: List.replicate n "" := by
      rw [hn, ← hinit, List.dropLast_concat, List.append_assoc, List.singleton_append]
    have hslash : (used.length < p.pieces.length) = (0 < n) := by
      rw [hn]
      simp
    refine ⟨used.dropLast, last, n, hpieces, hnonempty last hlast, fun d => ?_⟩
    simp only [hlast, hslash]
    refine congrArg _ (funext fun _ => congrArg _ (funext fun v => ?_))
    unfold endAt
    cases hd : d.isDirectoryAt v with
    | false => rfl
    | true =>
      simp only [Bool.not_true, Bool.false_eq_true, if_false, if_true]
      split_ifs <;> rfl

theorem endAt_name (hdir : d.isDirectoryAt l) (hstay : isStay last = false)
    (hup : (last == "..") = false) (slash : Bool) :
    d.endAt l last slash = .ok (l, .name last slash) := by
  have hdot : (last == ".") = false := by
    simp only [isStay, Bool.or_eq_false_iff] at hstay
    exact hstay.2
  simp [endAt, hdir, hdot, hup]

theorem endAt_ok {r : Location × Ending} {slash : Bool} (h : d.endAt l last slash = .ok r) :
    d.find? l = some .directory := by
  rw [← isDirectoryAt_iff]
  by_contra hdir
  simp [endAt, hdir] at h

/-- The end of a path is found wherever the directory is that it stands in. -/
theorem spot_keeps (hcwd : d'.cwd = d.cwd)
    (hdirs : ∀ x, d.find? x = some .directory → d'.find? x = some .directory)
    {r : Location × Ending} (h : d.spot p = .ok r) : d'.spot p = .ok r := by
  rcases spot_spelling p with ⟨-, hspot⟩ | ⟨init, last, n, -, -, hspot⟩
  · rw [hspot] at h ⊢
    exact h
  · rw [hspot] at h ⊢
    obtain ⟨⟨⟩, hcheck, h⟩ := bind_ok h
    obtain ⟨v, hinit, h⟩ := bind_ok h
    have hv := endAt_ok h
    rw [hcheck, start_congr hcwd, walk_keeps hdirs hinit hv]
    simpa [endAt, isDirectoryAt_iff.2 hv, isDirectoryAt_iff.2 (hdirs v hv)] using h

/-! ## Paths that end in a name -/

theorem spot_name_walk {s : String} {slash : Bool} (h : d.spot p = .ok (l, .name s slash)) :
    check p = .ok () ∧ s ≠ "" ∧ isStay s = false ∧ (s == "..") = false ∧
      d.find? l = some .directory ∧ ∃ init n, p.pieces = init ++ s :: List.replicate n "" ∧
        d.walk (d.start p) init = .ok l ∧ slash = decide (0 < n) := by
  rcases spot_spelling p with ⟨-, hspot⟩ | ⟨init, last, n, hpieces, hlast, hspot⟩
  · rw [hspot] at h
    obtain ⟨-, -, h⟩ := bind_ok h
    simp at h
  · rw [hspot] at h
    obtain ⟨⟨⟩, hcheck, h⟩ := bind_ok h
    obtain ⟨v, hinit, h⟩ := bind_ok h
    have hv := endAt_ok h
    unfold endAt at h
    split_ifs at h with hdir hfixed
    · simp at h
    · simp only [Except.ok.injEq, Prod.mk.injEq, Ending.name.injEq] at h
      obtain ⟨rfl, rfl, rfl⟩ := h
      rw [Bool.or_eq_true, not_or, Bool.not_eq_true, Bool.not_eq_true] at hfixed
      have hstay : isStay last = false := by simp [isStay, hlast, hfixed.1]
      exact ⟨hcheck, hlast, hstay, hfixed.2, hv, init, n, hpieces, hinit, rfl⟩

theorem spot_name {s : String} {slash : Bool} (h : d.spot p = .ok (l, .name s slash)) :
    l ++ [s] = d.destination p ∧
      (∀ x ∈ d.way p, x = d.destination p ∨ d.find? x = some .directory) ∧
      isStay s = false ∧ (s == "..") = false ∧
      (slash = false → ∃ a, p.pieces = a ++ [s] ∧ l = follow (d.start p) a) := by
  obtain ⟨-, -, hstay, hup, hdir, init, n, hpieces, hwalk, rfl⟩ := spot_name_walk h
  obtain ⟨hl, hdirs⟩ := walk_ok hwalk
  have hslashes : ∀ piece ∈ List.replicate n "", isStay piece = true := by simp [isStay]
  have hsplit : p.pieces = init ++ ([s] ++ List.replicate n "") := hpieces
  have hdest : d.destination p = l ++ [s] := by
    rw [destination, hsplit, follow_append, follow_append, ← hl, follow_name l hstay hup,
      follow_stays _ hslashes]
  refine ⟨hdest.symm, fun x hx => ?_, hstay, hup, fun hslash => ⟨init, ?_, hl⟩⟩
  · rw [way, hpieces, mem_way_append, ← hl] at hx
    rcases hx with hx | hx
    · right
      rcases hdirs x hx with rfl | hx
      · exact hdir
      · exact hx
    · rcases mem_way_name hstay hup hx with rfl | rfl
      · exact .inr hdir
      · exact .inl hdest.symm
  · obtain rfl : n = 0 := by simpa using hslash
    simpa using hpieces

end SpeechHost.Storage.Disk
