import SpeechHost.Proofs.Outcome
import SpeechHost.Proofs.Storage.Way
/-!
# Following a path in the tree

Places are put into the tree and taken out of it one by one (`find?_put`, `find?_erase`). A path that can be
followed passes directories only, but perhaps for its end (`walk_ok`), and it can be followed wherever these
directories are (`walk_keeps`).
-/

namespace SpeechHost.Storage.Disk

open SpeechHost.Storage.Path

variable {d d' : Disk} {p : Path} {l : Location}

/-! ## The view -/

theorem lookup_filter_ne (entries : List (Location × Node)) (l l' : Location) :
    (entries.filter (·.1 != l)).lookup l' = if l' = l then none else entries.lookup l' := by
  induction entries with
  | nil => simp
  | cons e entries ih =>
    obtain ⟨k, n⟩ := e
    by_cases hk : k = l
    · subst hk
      rw [List.filter_cons_of_neg (by simp), ih, List.lookup_cons]
      by_cases hl : l' = k
      · simp [hl]
      · simp [hl, beq_false_of_ne hl]
    · rw [List.filter_cons_of_pos (by simpa using hk), List.lookup_cons, List.lookup_cons, ih]
      by_cases hl : l' = k
      · subst hl
        simp [hk]
      · simp [beq_false_of_ne hl]

theorem find?_of_ne_nil (d : Disk) {l : Location} (h : l ≠ []) : d.find? l = d.entries.lookup l := by
  cases l with
  | nil => contradiction
  | cons s l => rfl

@[simp] theorem find?_nil (d : Disk) : d.find? [] = some .directory := rfl

theorem find?_erase {l : Location} (h : l ≠ []) (d : Disk) (l' : Location) :
    (d.erase l).find? l' = if l' = l then none else d.find? l' := by
  by_cases hl : l' = []
  · subst hl
    simp [Ne.symm h]
  · rw [find?_of_ne_nil _ hl, find?_of_ne_nil _ hl]
    exact lookup_filter_ne ..

theorem find?_put {l : Location} (h : l ≠ []) (d : Disk) (n : Node) (l' : Location) :
    (d.put l n).find? l' = if l' = l then some n else d.find? l' := by
  by_cases hl : l' = l
  · subst hl
    rw [if_pos rfl]
    exact find?_put_self d l' n h
  · rw [if_neg hl]
    by_cases hnil : l' = []
    · subst hnil
      rfl
    · rw [find?_of_ne_nil _ hnil, put, List.lookup_cons]
      rw [beq_false_of_ne hl, find?_of_ne_nil d hnil]
      exact (lookup_filter_ne d.entries l l').trans (if_neg hl)

@[simp] theorem cwd_put (d : Disk) (l : Location) (n : Node) : (d.put l n).cwd = d.cwd := rfl

theorem isDirectoryAt_iff {l : Location} : d.isDirectoryAt l ↔ d.find? l = some .directory := by
  unfold isDirectoryAt
  split <;> simp_all

/-! ## Following a path in the tree -/

/-- Where a path leads, if it leads anywhere. -/
def destination (d : Disk) (p : Path) : Location :=
  follow (d.start p) p.pieces

/-- The locations that a path passes. -/
def way (d : Disk) (p : Path) : List Location :=
  Path.way (d.start p) p.pieces

theorem destination_mem_way (d : Disk) (p : Path) : d.destination p ∈ d.way p :=
  follow_mem_way ..

theorem start_congr (h : d'.cwd = d.cwd) (p : Path) : d'.start p = d.start p := by
  simp [start, h]

theorem destination_congr (h : d'.cwd = d.cwd) (p : Path) : d'.destination p = d.destination p := by
  rw [destination, start_congr h, destination]

theorem way_congr (h : d'.cwd = d.cwd) (p : Path) : d'.way p = d.way p := by
  rw [way, start_congr h, way]

/-- Pieces that can be followed pass directories only, but perhaps for the last place. -/
theorem walk_ok {pieces : List String} {l l' : Location} (h : d.walk l pieces = .ok l') :
    l' = follow l pieces ∧ ∀ x ∈ Path.way l pieces, x = l' ∨ d.find? x = some .directory := by
  induction pieces generalizing l with
  | nil =>
    simp only [walk, Except.ok.injEq] at h
    exact ⟨h.symm, fun x hx => .inl ((eq_of_mem_way_stays (by simp) hx).trans h)⟩
  | cons piece rest ih =>
    have hdir : d.find? l = some .directory := by
      rw [← isDirectoryAt_iff]
      by_contra hn
      rw [walk, if_pos (by simpa using hn)] at h
      contradiction
    have hrest : d.walk (step l piece) rest = .ok l' := by
      have hd := isDirectoryAt_iff.2 hdir
      simp only [walk, hd, Bool.not_true, Bool.false_eq_true, if_false] at h
      unfold step
      split_ifs at h ⊢
      · exact h
      · exact h
      · split at h
        · contradiction
        · exact h
    obtain ⟨hend, hdirs⟩ := ih hrest
    refine ⟨hend, fun x hx => ?_⟩
    obtain ⟨a, ha, rfl⟩ := mem_way.1 hx
    cases a with
    | nil => exact .inr hdir
    | cons c a =>
      obtain ⟨rfl, hpre⟩ := List.cons_prefix_cons.1 ha
      exact hdirs _ (mem_way.2 ⟨a, hpre, rfl⟩)

theorem walk_keeps (hdirs : ∀ x, d.find? x = some .directory → d'.find? x = some .directory)
    {pieces : List String} {l l' : Location} (h : d.walk l pieces = .ok l')
    (hl' : d.find? l' = some .directory) : d'.walk l pieces = .ok l' := by
  induction pieces generalizing l with
  | nil => exact h
  | cons piece rest ih =>
    obtain ⟨-, hway⟩ := walk_ok h
    have hall : ∀ x ∈ Path.way l (piece :: rest), d.find? x = some .directory := by
      intro x hx
      rcases hway x hx with rfl | hx
      · exact hl'
      · exact hx
    have hd := isDirectoryAt_iff.2 (hall l (start_mem_way ..))
    have hd' := isDirectoryAt_iff.2 (hdirs _ (isDirectoryAt_iff.1 hd))
    simp only [walk, hd, hd', Bool.not_true, Bool.false_eq_true, if_false] at h ⊢
    split_ifs at h ⊢ with hstay hup hlong
    · exact ih h
    · exact ih h
    · have hnext : d.find? (l ++ [piece]) = some .directory := by
        refine hall _ (mem_way.2 ⟨[piece], by simp, ?_⟩)
        exact follow_name l (by simpa using hstay) (by simpa using hup)
      rw [hnext] at h
      rw [hdirs _ hnext]
      exact ih h

/-! ## Following pieces in parts -/

theorem walk_append (d : Disk) (a b : List String) (l : Location) :
    d.walk l (a ++ b) = d.walk l a >>= fun m => d.walk m b := by
  induction a generalizing l with
  | nil => rfl
  | cons piece rest ih =>
    simp only [List.cons_append, walk]
    split_ifs
    · rfl
    · exact ih l
    · exact ih l.dropLast
    · rfl
    · cases d.find? (l ++ [piece]) with
      | none => rfl
      | some n => exact ih (l ++ [piece])

theorem walk_stays {l : Location} {pieces : List String} (h : ∀ piece ∈ pieces, isStay piece) :
    d.walk l pieces = .ok l ∨ (d.find? l ≠ some .directory ∧ d.walk l pieces = .error .notDirectory) := by
  by_cases hdir : d.isDirectoryAt l
  · left
    induction pieces with
    | nil => rfl
    | cons piece rest ih =>
      rw [walk, if_neg (by simp [hdir]), if_pos (h piece (by simp))]
      exact ih fun q hq => h q (by simp [hq])
  · cases pieces with
    | nil => exact .inl rfl
    | cons piece rest =>
      refine .inr ⟨fun hl => hdir (isDirectoryAt_iff.2 hl), ?_⟩
      rw [walk, if_pos (by simpa using hdir)]

theorem walk_slashes (d : Disk) (l : Location) (n : Nat) :
    d.walk l (List.replicate n "") = .ok l ∨
      (d.find? l ≠ some .directory ∧ d.walk l (List.replicate n "") = .error .notDirectory) :=
  walk_stays (by simp [isStay])

theorem walk_slashes_ne_missing (d : Disk) (l : Location) (n : Nat) :
    d.walk l (List.replicate n "") ≠ .error .missing := by
  rcases d.walk_slashes l n with hok | ⟨-, herror⟩
  · simp [hok]
  · simp [herror]

/-! ## Directories at the end of a path -/

theorem isDirectory_iff : d.isDirectory p ↔
    check p = .ok () ∧ ∃ l, d.walk (d.start p) p.pieces = .ok l ∧ d.find? l = some .directory := by
  unfold isDirectory get? locate
  cases check p with
  | error e => simp
  | ok u =>
    cases hwalk : d.walk (d.start p) p.pieces with
    | error e => simp
    | ok l =>
      cases hfind : d.find? l with
      | none => simp [hfind]
      | some n => cases n <;> simp [hfind]

theorem isDirectory_ok (h : d.isDirectory p) : ∀ x ∈ d.way p, d.find? x = some .directory := by
  obtain ⟨-, l, hwalk, hl⟩ := isDirectory_iff.1 h
  obtain ⟨-, hway⟩ := walk_ok hwalk
  intro x hx
  rcases hway x hx with rfl | hx
  · exact hl
  · exact hx

theorem isDirectory_keeps (hcwd : d'.cwd = d.cwd)
    (hdirs : ∀ x, d.find? x = some .directory → d'.find? x = some .directory)
    (h : d.isDirectory p) : d'.isDirectory p := by
  obtain ⟨hcheck, l, hwalk, hl⟩ := isDirectory_iff.1 h
  refine isDirectory_iff.2 ⟨hcheck, l, ?_, hdirs l hl⟩
  rw [start_congr hcwd]
  exact walk_keeps hdirs hwalk hl

/-! ## Files at the end of a path -/

theorem isFile_ok (h : d.isFile p) :
    ∃ l, d.walk (d.start p) p.pieces = .ok l ∧ d.find? l ≠ some .directory := by
  unfold isFile get? locate at h
  cases hcheck : check p with
  | error e => simp [hcheck] at h
  | ok =>
    cases hwalk : d.walk (d.start p) p.pieces with
    | error e => simp [hcheck, hwalk] at h
    | ok l =>
      refine ⟨l, rfl, fun hdir => ?_⟩
      simp [hcheck, hwalk, hdir] at h

theorem not_isStay_of_isFile {front : List String} {last : String} (h : d.isFile p)
    (hp : p.pieces = front ++ [last]) : isStay last = false := by
  obtain ⟨l, hwalk, hl⟩ := isFile_ok h
  rw [hp, walk_append] at hwalk
  obtain ⟨m, -, hlast⟩ := bind_ok hwalk
  by_contra hstay
  rw [Bool.not_eq_false] at hstay
  cases hdir : d.isDirectoryAt m with
  | false => simp [walk, hdir] at hlast
  | true =>
    have hm : m = l := by simpa [walk, hdir, hstay] using hlast
    exact hl (hm ▸ isDirectoryAt_iff.1 hdir)

/-! ## Anything at the end of a path -/

theorem exists?_iff : d.exists? p ↔
    check p = .ok () ∧ ∃ l n, d.walk (d.start p) p.pieces = .ok l ∧ d.find? l = some n := by
  unfold exists? get? locate
  cases check p with
  | error e => simp
  | ok u =>
    cases hwalk : d.walk (d.start p) p.pieces with
    | error e => simp
    | ok l => simp [Option.isSome_iff_exists]

theorem walk_mono (hkeeps : ∀ x n, d.find? x = some n → d'.find? x = some n) {pieces : List String}
    {l l' : Location} (h : d.walk l pieces = .ok l') : d'.walk l pieces = .ok l' := by
  induction pieces generalizing l with
  | nil => exact h
  | cons piece rest ih =>
    cases hdir : d.isDirectoryAt l with
    | false => simp [walk, hdir] at h
    | true =>
      have hd' := isDirectoryAt_iff.2 (hkeeps l _ (isDirectoryAt_iff.1 hdir))
      simp only [walk, hdir, hd', Bool.not_true, Bool.false_eq_true, if_false] at h ⊢
      split_ifs at h ⊢
      · exact ih h
      · exact ih h
      · cases hnext : d.find? (l ++ [piece]) with
        | none => simp [hnext] at h
        | some n =>
          rw [hnext] at h
          rw [hkeeps _ n hnext]
          exact ih h

theorem exists?_keeps (hcwd : d'.cwd = d.cwd)
    (hkeeps : ∀ x n, d.find? x = some n → d'.find? x = some n) (h : d.exists? p) : d'.exists? p := by
  obtain ⟨hcheck, l, n, hwalk, hl⟩ := exists?_iff.1 h
  refine exists?_iff.2 ⟨hcheck, l, n, ?_, hkeeps l n hl⟩
  rw [start_congr hcwd]
  exact walk_mono hkeeps hwalk

end SpeechHost.Storage.Disk
