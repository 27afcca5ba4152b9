import SpeechHost.Proofs.Storage.Repeat
/-!
# When directories can be made

A path that leads to a directory or to something that is missing, and would do so however many directories
were made meanwhile, has nothing in its way (`Passable`). The same is true of its parent, so the directories
above it can be made one after the other, and then the path itself (`makeDirectories_passable`).
-/

namespace SpeechHost.Storage

/-! ## What the system looks at -/

namespace Path

variable {p : Path} {u v t : List String} {last : String}

theorem toString_concat (h : p.pieces = u ++ [last]) (ending : String) :
    (p.append ending).toString = p.toString ++ ending := by
  have happend : (p.append ending).pieces = u ++ [last ++ ending] := by simp [append, h]
  unfold toString
  rw [happend, h]
  by_cases hu : u = []
  · simp [hu]
  · rw [String.intercalate_append_of_ne_nil hu (by simp), String.intercalate_append_of_ne_nil hu (by simp)]
    simp [String.append_assoc]

theorem toString_ne_empty {piece : String} (h : piece ∈ p.pieces) (hpiece : piece ≠ "") :
    p.toString ≠ "" := by
  unfold toString
  cases hpieces : p.pieces with
  | nil => simp [hpieces] at h
  | cons first rest =>
    by_cases hrest : rest = []
    · obtain rfl : piece = first := by simpa [hpieces, hrest] using h
      simpa [hrest] using hpiece
    · rw [String.intercalate_cons_of_ne_nil hrest]
      simp

theorem mem_toString_iff {c : Char} (hc : c ≠ '/') :
    c ∈ p.toString.toList ↔ ∃ piece ∈ p.pieces, c ∈ piece.toList := by
  unfold toString
  induction p.pieces with
  | nil => simp
  | cons piece rest ih =>
    by_cases hrest : rest = []
    · simp [hrest]
    · rw [String.intercalate_cons_of_ne_nil hrest, String.toList_append, List.mem_append, ih]
      simp [hc]

end Path

namespace Disk

open SpeechHost.Storage.Path

variable {d d' mid : Disk} {p a : Path} {l : Location} {u v s t : List String} {last : String} {n : Nat}

theorem check_ok_iff : check p = .ok () ↔
    p.toString ≠ "" ∧ '\x00' ∉ p.toString.toList ∧ p.toString.utf8ByteSize < maxPathBytes := by
  unfold check
  simp only
  split_ifs with hempty hnul hlong
  · simp_all
  · simp_all
  · simp only [false_iff]
    omega
  · simp_all

theorem check_prefix (h : check p = .ok ()) (hpre : a.pieces <+: p.pieces) (ha : a.toString ≠ "") :
    check a = .ok () := by
  obtain ⟨-, hnul, hshort⟩ := check_ok_iff.1 h
  obtain ⟨r, hr⟩ := hpre
  refine check_ok_iff.2 ⟨ha, fun hmem => hnul ?_, ?_⟩
  · obtain ⟨piece, hpiece, hc⟩ := (mem_toString_iff (by decide)).1 hmem
    exact (mem_toString_iff (by decide)).2 ⟨piece, by simp [← hr, hpiece], hc⟩
  · by_cases hnil : r = []
    · rwa [Path.toString, show a.pieces = p.pieces by simpa [hnil] using hr]
    · have hne : a.pieces ≠ [] := by
        rintro hempty
        simp [Path.toString, hempty] at ha
      have hsplit : p.toString = a.toString ++ "/" ++ "/".intercalate r := by
        rw [Path.toString, ← hr, String.intercalate_append_of_ne_nil hne hnil, Path.toString]
      rw [hsplit, String.utf8ByteSize_append, String.utf8ByteSize_append] at hshort
      omega

theorem walk_cons_directory {piece : String} {r : Except Fault Location}
    (h : d.walk l (piece :: t) = r) (hr : r ≠ .error .notDirectory) :
    d.find? l = some .directory := by
  by_contra hdir
  rw [← isDirectoryAt_iff] at hdir
  exact hr (by rw [← h, walk, if_pos (by simpa using hdir)])

end Disk

/-! ## The spelling of the parent -/

namespace Path

variable {p : Path} {u v t : List String} {last : String}

theorem trimTail_append_stays (ht : ∀ piece ∈ t, isStay piece) (u : List String) :
    trimTail (u ++ t) = trimTail u := by
  unfold trimTail
  rw [List.reverse_append, List.dropWhile_append_of_pos (by simpa using ht)]

theorem trimTail_concat (h : isStay last = false) (u : List String) :
    trimTail (u ++ [last]) = u ++ [last] := by
  simp [trimTail, h]

/-- What is dropped from the end names nothing, and what is left ends in a piece that does. -/
theorem trimTail_spec (u : List String) :
    ∃ t, u = trimTail u ++ t ∧ (∀ piece ∈ t, isStay piece) ∧
      (trimTail u = [] ∨ ∃ v last, trimTail u = v ++ [last] ∧ isStay last = false) := by
  have hsplit := List.takeWhile_append_dropWhile (p := isStay) (l := u.reverse)
  refine ⟨(u.reverse.takeWhile isStay).reverse, ?_, fun piece hpiece => ?_, ?_⟩
  · rw [trimTail, ← List.reverse_append, hsplit, List.reverse_reverse]
  · exact List.all_eq_true.1 List.all_takeWhile piece (List.mem_reverse.1 hpiece)
  · unfold trimTail
    have hhead := List.head?_dropWhile_not isStay u.reverse
    cases hkept : u.reverse.dropWhile isStay with
    | nil => exact .inl rfl
    | cons last v =>
      rw [hkept] at hhead
      exact .inr ⟨v.reverse, last, by simp, by simpa using hhead⟩

theorem isStay_of_mem_lead {piece : String} (h : piece ∈ p.lead) : isStay piece := by
  rcases p.lead_cases with hlead | hlead | hlead
  all_goals simp_all [isStay]

theorem lead_isPrefix (h : p.pieces = u ++ last :: t) (hlast : isStay last = false) :
    ∃ u', u = p.lead ++ u' ∧ p.body = u' ++ last :: t := by
  have hsplit := p.lead_body
  rw [h] at hsplit
  rcases List.append_eq_append_iff.1 hsplit with ⟨u', rfl, hbody⟩ | ⟨u', hlead, hbody⟩
  · exact ⟨u', rfl, hbody⟩
  · cases u' with
    | nil => exact ⟨[], by simpa using hlead.symm, by simpa using hbody.symm⟩
    | cons piece u' =>
      obtain ⟨rfl, -⟩ := List.cons.inj hbody
      have hmem : last ∈ p.lead := by simp [hlead]
      have hstay := isStay_of_mem_lead hmem
      simp [hstay] at hlast

/-- The parent of a path that ends in a name, with what names nothing behind it: it is spelled as the path
up to another name, if there is one above, and otherwise as what every path starts from. -/
theorem parent?_spelling (h : p.pieces = u ++ last :: t) (hlast : isStay last = false)
    (ht : ∀ piece ∈ t, isStay piece) :
    ∃ a, p.parent? = some a ∧
      (((∀ piece ∈ u, isStay piece) ∧ (a = empty ∨ a = ⟨["."]⟩ ∨ a = ⟨["", ""]⟩)) ∨
        ∃ v l s, u = v ++ l :: s ∧ a.pieces = v ++ [l] ∧ isStay l = false ∧
          ∀ piece ∈ s, isStay piece) := by
  obtain ⟨u', rfl, hbody⟩ := lead_isPrefix h hlast
  have htrim : trimTail p.body = u' ++ [last] := by
    rw [hbody, List.append_cons, trimTail_append_stays ht, trimTail_concat hlast]
  have hparent : p.parent? = some (ofLead p.lead (trimTail u')) := by
    have hinit : (u' ++ [last]).dropLast = u' := List.dropLast_concat
    unfold parent?
    rw [htrim]
    split
    · simp_all
    · simp_all
    · rw [hinit]
  refine ⟨_, hparent, ?_⟩
  obtain ⟨s, hs, hstays, hempty | ⟨v, l, hv, hl⟩⟩ := trimTail_spec u'
  · left
    rw [hempty] at hs ⊢
    obtain rfl : u' = s := hs
    refine ⟨fun piece hpiece => ?_, ?_⟩
    · rcases List.mem_append.1 hpiece with hpiece | hpiece
      · exact isStay_of_mem_lead hpiece
      · exact hstays piece hpiece
    · rcases p.lead_cases with hlead | hlead | hlead
      all_goals simp [hlead, ofLead]
  · right
    have hne : trimTail u' ≠ [] := by simp [hv]
    refine ⟨p.lead ++ v, l, s, ?_, ?_, hl, hstays⟩
    · conv_lhs => rw [hs, hv]
      simp
    · rw [hv, List.append_assoc]
      rcases p.lead_cases with hlead | hlead | hlead
      all_goals simp [hlead, ofLead]

end Path

namespace Disk

open SpeechHost.Storage.Path

variable {d d' mid : Disk} {p a : Path} {l : Location} {u v s t : List String} {last : String} {n : Nat}

theorem isDirectory_of_stays (hcheck : check a = .ok ()) (ha : ∀ piece ∈ a.pieces, isStay piece)
    (hstart : d.find? (d.start a) = some .directory) : d.isDirectory a := by
  rcases walk_stays (d := d) (l := d.start a) ha with hwalk | ⟨hno, -⟩
  · exact isDirectory_iff.2 ⟨hcheck, _, hwalk, hstart⟩
  · contradiction

theorem makeDirectoriesWithin_start (ha : a = empty ∨ a = ⟨["."]⟩ ∨ a = ⟨["", ""]⟩)
    (hstart : d.find? (d.start a) = some .directory) (n : Nat) :
    makeDirectoriesWithin d a (n + 1) = (.ok (), d) := by
  rcases ha with rfl | ha
  · rfl
  · have hdir : d.isDirectory a := by
      rcases ha with rfl | rfl
      · exact isDirectory_of_stays (by decide) (by decide) hstart
      · exact isDirectory_of_stays (by decide) (by decide) hstart
    have hempty : a.isEmpty = false := by rcases ha with rfl | rfl <;> decide
    simp [makeDirectoriesWithin, hempty, makeDirectory_of_isDirectory hdir, hdir]

/-! ## Paths with nothing in their way -/

/-- A path that leads to a directory or to something that is missing, however many directories are added to
the tree. -/
def Passable (d : Disk) (p : Path) : Prop :=
  check p = .ok () ∧ ∀ mid, Grows (fun _ => True) d mid →
    mid.isDirectory p ∨ mid.walk (mid.start p) p.pieces = .error .missing

theorem Passable.cases (h : Passable d p) :
    d.isDirectory p ∨ d.walk (d.start p) p.pieces = .error .missing :=
  h.2 d (Grows.refl _ d)

theorem Passable.grow {W : Location → Prop} (h : Passable d p) (hgrows : Grows W d mid) :
    Passable mid p :=
  ⟨h.1, fun _ hmore => h.2 _ ((hgrows.mono fun _ _ => trivial).trans hmore)⟩

theorem Passable.start (h : Passable d p) (hp : p.pieces ≠ []) :
    d.find? (d.start p) = some .directory := by
  obtain ⟨piece, rest, hpieces⟩ := List.exists_cons_of_ne_nil hp
  rcases h.cases with hdir | hmissing
  · exact isDirectory_ok hdir _ (start_mem_way ..)
  · rw [hpieces] at hmissing
    exact walk_cons_directory hmissing (by simp)

/-- Names lead on through directories or to something that is missing where no file is in the way. -/
theorem walk_free {pieces : List String} {l : Location}
    (hnames : ∀ piece ∈ pieces, isStay piece ∨
      ((piece == "..") = false ∧ piece.utf8ByteSize ≤ maxNameBytes))
    (hclear : ∀ x ∈ Path.way l pieces, NoFileAt d x) (hl : d.find? l = some .directory) :
    (∃ l', d.walk l pieces = .ok l' ∧ d.find? l' = some .directory) ∨
      d.walk l pieces = .error .missing := by
  induction pieces generalizing l with
  | nil => exact .inl ⟨l, rfl, hl⟩
  | cons piece rest ih =>
    have hrest : ∀ x ∈ Path.way (step l piece) rest, NoFileAt d x := fun x hx =>
      hclear x (mem_way_cons.2 (.inr hx))
    have hmore := fun q hq => hnames q (List.mem_cons_of_mem piece hq)
    rw [walk, if_neg (by simp [isDirectoryAt_iff.2 hl])]
    unfold step at hrest
    by_cases hstay : isStay piece
    · rw [if_pos hstay] at hrest ⊢
      exact ih hmore hrest hl
    obtain ⟨hup, hshort⟩ := (hnames piece List.mem_cons_self).resolve_left hstay
    rw [if_neg hstay, if_neg (by simp [hup])] at hrest ⊢
    rw [if_neg (by omega)]
    cases hfind : d.find? (l ++ [piece]) with
    | none => exact .inr rfl
    | some n =>
      obtain rfl := hrest _ (start_mem_way ..) n hfind
      exact ih hmore hrest hfind

theorem passable_of_walk (hcheck : check p = .ok ()) (hsplit : p.pieces = u ++ t) {r : Location}
    (hwalk : d.walk (d.start p) u = .ok r) (hr : d.find? r = some .directory)
    (hnames : ∀ piece ∈ t, isStay piece ∨ ((piece == "..") = false ∧ piece.utf8ByteSize ≤ maxNameBytes))
    (hclear : ∀ x ∈ Path.way r t, NoFileAt d x) : Passable d p := by
  refine ⟨hcheck, fun mid hgrows => ?_⟩
  have hfirst : mid.walk (mid.start p) u = .ok r := by
    rw [start_congr hgrows.cwd]
    exact walk_keeps (fun x hx => hgrows.keeps hx) hwalk hr
  have hfree := walk_free hnames (fun x hx => (hclear x hx).grows hgrows) (hgrows.keeps hr)
  rw [isDirectory_iff, hsplit, walk_append, hfirst, ok_bind]
  exact hfree.imp_left fun hdir => ⟨hcheck, hdir⟩

theorem Passable.above (h : Passable d p) (hstart : a.isAbsolute = p.isAbsolute)
    (hsplit : p.pieces = a.pieces ++ last :: t) (ha : a.toString ≠ "") : Passable d a := by
  have hcheck := check_prefix h.1 (hsplit ▸ List.prefix_append _ _) ha
  refine ⟨hcheck, fun mid hgrows => ?_⟩
  have hsame : mid.start p = mid.start a := by simp [Disk.start, hstart]
  have hwalk := (h.grow hgrows).cases
  rw [isDirectory_iff, hsame, hsplit, walk_append] at hwalk
  rcases hwalk with ⟨-, l, hl, -⟩ | hmissing
  -- something follows in the longer path, and it can be looked at in a directory only
  · obtain ⟨v, hv, hrest⟩ := bind_ok hl
    exact .inl (isDirectory_iff.2 ⟨hcheck, v, hv, walk_cons_directory hrest (by simp)⟩)
  · cases hv : mid.walk (mid.start a) a.pieces with
    | error f =>
      rw [hv] at hmissing
      exact .inr hmissing
    | ok v =>
      rw [hv, ok_bind] at hmissing
      exact .inl (isDirectory_iff.2 ⟨hcheck, v, hv, walk_cons_directory hmissing (by simp)⟩)

theorem walk_above (hsplit : p.pieces = u ++ last :: t) (hlast : isStay last = false)
    (ht : ∀ piece ∈ t, isStay piece) (hparent : p.parent? = some a)
    (hstart : d.find? (d.start p) = some .directory) (ha : a.isEmpty = false → d.isDirectory a) :
    ∃ r, d.walk (d.start p) u = .ok r ∧ d.find? r = some .directory := by
  obtain ⟨a', hparent', hspelled⟩ := parent?_spelling hsplit hlast ht
  obtain rfl : a = a' := Option.some.inj (hparent.symm.trans hparent')
  rcases hspelled with ⟨hstays, -⟩ | ⟨v, l, s, rfl, hpieces, hl, hstays⟩
  · rcases walk_stays (d := d) (l := d.start p) hstays with hwalk | ⟨hno, -⟩
    · exact ⟨_, hwalk, hstart⟩
    · contradiction
  · have hempty : a.isEmpty = false := by
      by_contra hempty
      have hmem : l ∈ a.pieces := by simp [hpieces]
      have hl' := eq_empty_of_isEmpty (by simpa using hempty) hmem
      simp [hl', isStay] at hl
    obtain ⟨-, r, hwalk, hr⟩ := isDirectory_iff.1 (ha hempty)
    rw [start_parent? hparent, hpieces] at hwalk
    refine ⟨r, ?_, hr⟩
    rw [List.append_cons, walk_append, hwalk, ok_bind]
    exact (walk_stays hstays).resolve_right fun hno => hno.1 hr

theorem spot_of_walk (hcheck : check p = .ok ())
    (hsplit : p.pieces = u ++ last :: List.replicate n "") (hlast : last ≠ "") {r : Location}
    (hwalk : d.walk (d.start p) u = .ok r) : d.spot p = d.endAt r last (decide (0 < n)) := by
  have hused : (p.pieces.reverse.dropWhile (· == "")).reverse = u ++ [last] := by
    rw [hsplit]
    simp [List.dropWhile_append_of_pos, hlast]
  rcases spot_spelling p with ⟨hpieces, -⟩ | ⟨init, last', m, hpieces, hlast', hspot⟩
  · have hmem : last ∈ List.replicate p.pieces.length "" := by rw [← hpieces, hsplit]; simp
    exact absurd (List.eq_of_mem_replicate hmem) hlast
  · have hsame : init ++ [last'] = u ++ [last] := by
      rw [← hused, hpieces]
      simp [List.dropWhile_append_of_pos, hlast']
    obtain ⟨rfl, hsame⟩ := List.append_inj' hsame rfl
    obtain rfl : last' = last := by simpa using hsame
    obtain rfl : m = n := by simpa [hsplit] using (congrArg List.length hpieces).symm
    rw [hspot, hcheck, ok_bind, hwalk, ok_bind]

/-! ## Making directories -/

theorem ensureDirectory_passable (h : Passable d p)
    (hsplit : p.pieces = u ++ last :: List.replicate n "") (hlast : isStay last = false) {r : Location}
    (hwalk : d.walk (d.start p) u = .ok r) (hr : d.find? r = some .directory) :
    ∃ mid, ensureDirectory d p = (.ok (), mid) := by
  unfold ensureDirectory
  simp only [fileTree_makeDirectory, fileTree_isDirectory]
  rcases h.cases with hdir | hmissing
  · exact ⟨d, by simp [makeDirectory_of_isDirectory hdir, hdir]⟩
  · rcases makeDirectory_of_missing h.1 hmissing with hmake | ⟨mid, hmade⟩
    · have hspot := spot_of_walk h.1 hsplit (ne_empty_of_not_isStay hlast) hwalk
      obtain ⟨x, hx⟩ : ∃ x, d.endAt r last (decide (0 < n)) = .ok x := by
        unfold endAt
        rw [if_pos (isDirectoryAt_iff.2 hr)]
        split_ifs <;> exact ⟨_, rfl⟩
      exact absurd hmake (makeDirectory_ne_missing (hspot.trans hx))
    · exact ⟨mid, by rw [hmade]⟩

/-- A path that ends in a name, perhaps with slashes behind it. -/
def Named (p : Path) : Prop :=
  ∃ u last n, p.pieces = u ++ last :: List.replicate n "" ∧ isStay last = false

theorem Passable.parent (h : Passable d p) (hsplit : p.pieces = u ++ last :: t)
    (hlast : isStay last = false) (ht : ∀ piece ∈ t, isStay piece) :
    ∃ a, p.parent? = some a ∧ ((a = empty ∨ a = ⟨["."]⟩ ∨ a = ⟨["", ""]⟩) ∨
      (Passable d a ∧ Named a ∧ a.pieces.length ≤ u.length)) := by
  obtain ⟨a, hparent, hspelled⟩ := parent?_spelling hsplit hlast ht
  refine ⟨a, hparent, hspelled.imp (·.2) ?_⟩
  rintro ⟨v, l, s, rfl, hpieces, hl, hstays⟩
  have hbehind : p.pieces = a.pieces ++ (s ++ last :: t) := by simp [hsplit, hpieces]
  refine ⟨?_, ⟨v, l, 0, hpieces, hl⟩, by simp [hpieces]⟩
  obtain ⟨piece, rest, hrest⟩ := List.exists_cons_of_ne_nil (l := s ++ last :: t) (by simp)
  rw [hrest] at hbehind
  have hmem : l ∈ a.pieces := by simp [hpieces]
  exact h.above (way_parent hparent).1 hbehind (toString_ne_empty hmem (ne_empty_of_not_isStay hl))

theorem Passable.walk_above (h : Passable d p) (hsplit : p.pieces = u ++ last :: t)
    (hlast : isStay last = false) (ht : ∀ piece ∈ t, isStay piece) (hparent : p.parent? = some a)
    {depth : Nat} (hmade : makeDirectoriesWithin d a depth = (.ok (), mid)) :
    ∃ r, mid.walk (mid.start p) u = .ok r ∧ mid.find? r = some .directory := by
  -- what was made only adds directories, so the path still starts from one
  have hgrows := (makeDirectoriesWithin_spec a depth d).1
  rw [hmade] at hgrows
  have hstart : mid.find? (mid.start p) = some .directory := by
    rw [start_congr hgrows.cwd]
    exact hgrows.keeps (h.start (by simp [hsplit]))
  exact Disk.walk_above hsplit hlast ht hparent hstart fun hfull =>
    isDirectory_of_makeDirectoriesWithin hfull hmade

/-- A path that has nothing in its way can be made, with the directories above it. -/
theorem makeDirectoriesWithin_passable (depth : Nat) : ∀ {d : Disk} {p : Path}, Passable d p → Named p →
    p.pieces.length < depth → ∃ mid, makeDirectoriesWithin d p depth = (.ok (), mid) := by
  induction depth with
  | zero => exact fun _ _ hdepth => by omega
  | succ depth ih =>
    rintro d p h ⟨u, last, n, hsplit, hlast⟩ hdepth
    have hslashes : ∀ piece ∈ List.replicate n "", isStay piece := by simp [isStay]
    have hlength : u.length < depth := by
      have hsum := congrArg List.length hsplit
      rw [List.length_append, List.length_cons] at hsum
      omega
    unfold makeDirectoriesWithin
    simp only [fileTree_makeDirectory, fileTree_isDirectory]
    by_cases hempty : p.isEmpty
    · exact ⟨d, by simp [hempty]⟩
    rw [if_neg hempty]
    rcases h.cases with hdir | hmissing
    · exact ⟨d, by simp [makeDirectory_of_isDirectory hdir, hdir]⟩
    rcases makeDirectory_of_missing h.1 hmissing with hmake | ⟨mid, hmade⟩
    swap
    · exact ⟨mid, by rw [hmade]⟩
    -- the directory that the path ends in is missing, so it is made first
    obtain ⟨a, hparent, habove⟩ := h.parent hsplit hlast hslashes
    have hstart := h.start (by simp [hsplit])
    obtain ⟨mid, hmade⟩ : ∃ mid, makeDirectoriesWithin d a depth = (.ok (), mid) := by
      rcases habove with hstarts | ⟨hpassable, hnamed, hfewer⟩
      · obtain ⟨depth, rfl⟩ : ∃ k, depth = k + 1 := ⟨depth - 1, by omega⟩
        exact ⟨d, makeDirectoriesWithin_start hstarts (by rwa [start_parent? hparent]) depth⟩
      · exact ih hpassable hnamed (by omega)
    have hgrows := (makeDirectoriesWithin_spec a depth d).1
    rw [hmade] at hgrows
    obtain ⟨r, hwalk, hr⟩ := h.walk_above hsplit hlast hslashes hparent hmade
    obtain ⟨mid', hensured⟩ := ensureDirectory_passable (h.grow hgrows) hsplit hlast hwalk hr
    exact ⟨mid', by simp [hmake, hparent, hmade, hensured]⟩

theorem makeDirectories_passable (h : Passable d p) (hnamed : Named p) :
    ∃ mid, d.makeDirectories p = (.ok (), mid) :=
  makeDirectoriesWithin_passable _ h hnamed (Nat.lt_succ_self _)

/-- The directories above a path that has nothing in its way can be made, and then the path can be followed
up to its last name. -/
theorem makeDirectories_above (h : Passable d p) (hsplit : p.pieces = u ++ [last])
    (hlast : isStay last = false) :
    ∃ a mid r, p.parent? = some a ∧ d.makeDirectories a = (.ok (), mid) ∧
      mid.walk (mid.start p) u = .ok r ∧ mid.find? r = some .directory := by
  obtain ⟨a, hparent, habove⟩ := h.parent hsplit hlast (by simp)
  have hstart := h.start (by simp [hsplit])
  obtain ⟨mid, hmade⟩ : ∃ mid, d.makeDirectories a = (.ok (), mid) := by
    rcases habove with hstarts | ⟨hpassable, hnamed, -⟩
    · exact ⟨d, makeDirectoriesWithin_start hstarts (by rwa [start_parent? hparent]) _⟩
    · exact makeDirectories_passable hpassable hnamed
  obtain ⟨r, hwalk, hr⟩ := h.walk_above hsplit hlast (by simp) hparent hmade
  exact ⟨a, mid, r, hparent, hmade, hwalk, hr⟩

end Disk

end SpeechHost.Storage
