import SpeechHost.Proofs.Install.Entry
import SpeechHost.Proofs.Storage.Making
/-!
# Entries with ordinary names

An entry whose name is made of ordinary names only belongs right below the root, at these names
(`destination_join`, `NormalName.mem_madeWay`). Its path has nothing in its way when no file stands at one
of them (`NormalName.passable_entryPath`).
-/

namespace SpeechHost.Install

open SpeechHost.Storage SpeechHost.Storage.Path SpeechHost.Storage.Disk SpeechHost.Zip

variable {d : Disk} {root p : Path} {e : Entry} {pieces : List String} {l x : Location}

/-- The names that a path is made of, without what stands for empty ones between slashes. -/
def names (p : Path) : List String :=
  p.pieces.filter (· != "")

/-- The names on the way to an entry, its own included. -/
def parts (e : Entry) : List String :=
  names (.ofString e.name)

/-- The names on the way to the incomplete file of an entry. -/
def partialParts (e : Entry) : List String :=
  names ((Path.ofString e.name).append partialEnding)

/-- The names on the way to the last directory that an entry needs. -/
def folders (e : Entry) : List String :=
  if e.isDirectory then parts e else (parts e).dropLast

/-- A relative path of ordinary names. -/
structure Ordinary (p : Path) : Prop where
  relative : p.pieces.head? ≠ some ""
  plain : ∀ s ∈ names p, s ≠ "." ∧ s ≠ ".."

/-- An entry with ordinary names that are not too long. -/
structure NormalName (e : Entry) : Prop where
  ordinary : Ordinary (.ofString e.name)
  short : ∀ s ∈ parts e, s.utf8ByteSize ≤ maxNameBytes

instance (p : Path) : Decidable (Ordinary p) :=
  decidable_of_iff (p.pieces.head? ≠ some "" ∧ ∀ s ∈ names p, s ≠ "." ∧ s ≠ "..")
    ⟨fun h => ⟨h.1, h.2⟩, fun h => ⟨h.1, h.2⟩⟩

instance (e : Entry) : Decidable (NormalName e) :=
  decidable_of_iff (Ordinary (.ofString e.name) ∧ ∀ s ∈ parts e, s.utf8ByteSize ≤ maxNameBytes)
    ⟨fun h => ⟨h.1, h.2⟩, fun h => ⟨h.1, h.2⟩⟩

/-! ## Following ordinary names -/

theorem follow_plain (h : ∀ s ∈ pieces.filter (· != ""), s ≠ "." ∧ s ≠ "..") (l : Location) :
    follow l pieces = l ++ pieces.filter (· != "") := by
  induction pieces generalizing l with
  | nil => simp [follow]
  | cons piece rest ih =>
    rw [← List.singleton_append, follow_append]
    by_cases hpiece : piece = ""
    · subst hpiece
      rw [follow_stays l (by simp [isStay])]
      simpa using ih (by simpa using h) l
    · obtain ⟨hdot, hup⟩ := h piece (by simp [hpiece])
      rw [follow_name l (by simp [isStay, hpiece, hdot]) (by simpa using hup),
        ih (fun s hs => h s (by simpa [hpiece] using .inr (by simpa using hs)))]
      simp [hpiece]

theorem mem_way_plain_iff (h : ∀ s ∈ pieces.filter (· != ""), s ≠ "." ∧ s ≠ "..") :
    x ∈ Path.way l pieces ↔ ∃ r, r <+: pieces.filter (· != "") ∧ x = l ++ r := by
  rw [mem_way]
  constructor
  · rintro ⟨q, hq, rfl⟩
    have hsub := hq.filter (· != "")
    exact ⟨_, hsub, follow_plain (fun s hs => h s (hsub.subset hs)) l⟩
  · rintro ⟨r, hr, rfl⟩
    obtain ⟨q, hq, rfl⟩ := List.prefix_filter_iff.1 hr
    exact ⟨q, hq, follow_plain (fun s hs => h s (hr.subset hs)) l⟩

namespace Ordinary

theorem not_isAbsolute (h : Ordinary p) : p.isAbsolute = false := by
  by_contra habs
  exact h.relative ((isAbsolute_iff p).1 (by simpa using habs)).1

theorem start_join (h : Ordinary p) (hne : p.pieces ≠ []) (d : Disk) (root : Path) :
    d.start (root.join p) = d.start root := by
  simp [Disk.start, isAbsolute_join h.not_isAbsolute hne]

theorem destination_join (h : Ordinary p) (hne : p.pieces ≠ []) (d : Disk) (root : Path) :
    d.destination (root.join p) = d.destination root ++ names p := by
  obtain ⟨b, -, hb, hjoin⟩ := root.join_pieces
  rw [destination, h.start_join hne, hjoin p h.not_isAbsolute, follow_append, hb]
  exact follow_plain h.plain _

theorem named_join (h : Ordinary p) (hne : p.pieces ≠ []) (root : Path) : Named (root.join p) := by
  obtain ⟨b, -, -, hjoin⟩ := root.join_pieces
  obtain ⟨n, hn⟩ := pieces_eq_used p
  have hlast : ∀ last, (p.pieces.reverse.dropWhile (· == "")).reverse.getLast? = some last → last ≠ "" :=
    fun last => getLast?_used
  generalize (p.pieces.reverse.dropWhile (· == "")).reverse = used at hn hlast
  cases hused : used.getLast? with
  | none =>
    obtain rfl := List.getLast?_eq_none_iff.1 hused
    cases n with
    | zero => simp [hn] at hne
    | succ n => exact absurd (by rw [hn]; rfl) h.relative
  | some last =>
    have hinit := List.dropLast_append_getLast? _ hused
    have hname : last ≠ "" := hlast last hused
    have hmem : last ∈ names p := by
      simp [names, hn, List.mem_of_getLast? hused, hname]
    refine ⟨b ++ used.dropLast, last, n, ?_, by simp [isStay, hname, (h.plain last hmem).1]⟩
    rw [hjoin p h.not_isAbsolute, hn]
    conv_lhs => rw [← hinit]
    simp

end Ordinary

/-! ## Names in archives -/

theorem staysBelow_plain (h : ∀ s ∈ pieces, s ≠ "..") (depth : Nat) :
    Entry.staysBelow depth (pieces.map fun piece =>
      if piece == ".." then Component.up else .name piece) := by
  induction pieces generalizing depth with
  | nil => simp [Entry.staysBelow]
  | cons piece rest ih =>
    have hup : piece ≠ ".." := h piece (by simp)
    simpa [hup, Entry.staysBelow] using ih (fun s hs => h s (by simp [hs])) (depth + 1)

theorem path?_of_ordinary (h : Ordinary (.ofString e.name)) (hnul : '\x00' ∉ e.name.toList) :
    e.path? = some (.ofString e.name) := by
  have hbelow : Entry.staysBelow 0 (Path.ofString e.name).components := by
    rw [components_of_not_isAbsolute h.not_isAbsolute]
    have hplain : ∀ s ∈ (Path.ofString e.name).pieces.filter (!isStay ·), s ≠ ".." := fun s hs =>
      (h.plain s (by simp_all [names, isStay])).2
    have hnames := staysBelow_plain hplain 0
    split_ifs
    · simpa [Entry.staysBelow] using hnames
    · simpa using hnames
  simp [Entry.path?, hnul, hbelow]

theorem nul_of_path? (h : e.path? = some p) : '\x00' ∉ e.name.toList := by
  intro hmem
  simp [Entry.path?, hmem] at h

/-! ## Files -/

theorem NormalName.file_pieces (h : NormalName e) (hfile : e.isDirectory = false) :
    ∃ u s, (Path.ofString e.name).pieces = u ++ [s] ∧ isStay s = false ∧ (s == "..") = false ∧
      parts e = u.filter (· != "") ++ [s] ∧
      partialParts e = u.filter (· != "") ++ [s ++ partialEnding] := by
  obtain ⟨u, s, hpieces⟩ : ∃ u s, (Path.ofString e.name).pieces = u ++ [s] :=
    ⟨_, _, (List.dropLast_concat_getLast (ofString_ne_nil e.name)).symm⟩
  have hs : s ≠ "" := by
    rintro rfl
    have hname := toString_ofString e.name
    rw [Path.toString, hpieces] at hname
    -- an empty piece at the end is the whole of an empty name, or stands behind the slash of a directory
    by_cases hu : u = []
    · exact h.ordinary.relative (by rw [hpieces, hu]; rfl)
    · rw [String.intercalate_append_of_ne_nil hu (by simp)] at hname
      simp [Entry.isDirectory, ← hname] at hfile
  have hparts : parts e = u.filter (· != "") ++ [s] := by simp [parts, names, hpieces, hs]
  obtain ⟨hdot, hup⟩ := h.ordinary.plain s (by
    rw [show names (.ofString e.name) = _ from hparts]
    simp)
  have hpartial : s ++ partialEnding ≠ "" := ne_empty_of_not_isStay (isStay_partial s)
  refine ⟨u, s, hpieces, by simp [isStay, hs, hdot], by simpa using hup, hparts, ?_⟩
  simp [partialParts, names, append_of_pieces hpieces, hpartial]

theorem NormalName.file_path (h : NormalName e) (hfile : e.isDirectory = false) (root : Path) :
    ∃ w u s, (entryPath root e).pieces = w ++ [s] ∧ isStay s = false ∧ (s == "..") = false ∧
      parts e = u ++ [s] ∧ partialParts e = u ++ [s ++ partialEnding] := by
  obtain ⟨u, s, hpieces, hstay, hup, hparts, hpartial⟩ := h.file_pieces hfile
  obtain ⟨b, -, -, hjoin⟩ := root.join_pieces
  refine ⟨b ++ u, _, s, ?_, hstay, hup, hparts, hpartial⟩
  rw [entryPath, hjoin _ h.ordinary.not_isAbsolute, hpieces, List.append_assoc]

theorem NormalName.entryPlace_eq (h : NormalName e) (d : Disk) (root : Path) :
    entryPlace d root e = d.destination root ++ parts e :=
  h.ordinary.destination_join (ofString_ne_nil e.name) d root

theorem NormalName.partialPlace_eq (h : NormalName e) (hfile : e.isDirectory = false) (d : Disk)
    (root : Path) : partialPlace d root e = d.destination root ++ partialParts e := by
  obtain ⟨w, u, s, hpath, hstay, hup, hparts, hpartial⟩ := h.file_path hfile root
  obtain ⟨l, hplace, hother⟩ := destination_side hpath hstay hup d
  have hsame : l ++ [s] = d.destination root ++ parts e := hplace.symm.trans (h.entryPlace_eq d root)
  rw [hparts, ← List.append_assoc] at hsame
  rw [partialPlace, hother, hpartial, (List.append_inj' hsame rfl).1, List.append_assoc]

/-! ## The way of an entry -/

theorem NormalName.mem_entryWay (h : NormalName e) (hnul : '\x00' ∉ e.name.toList) {r : List String}
    (hr : r <+: parts e) : d.destination root ++ r ∈ entryWay d root e := by
  obtain ⟨ls, -, hsplit⟩ := entryWay_split d root
  refine (hsplit e _ (path?_of_ordinary h.ordinary hnul) _).2 (.inr ?_)
  exact (mem_way_plain_iff h.ordinary.plain).2 ⟨r, hr, rfl⟩

theorem NormalName.mem_madeWay (h : NormalName e) (hx : x ∈ madeWay d root e) :
    x ∈ d.way root ∨ ∃ r, r <+: folders e ∧ x = d.destination root ++ r := by
  obtain ⟨b, hpre, hb, hjoin⟩ := root.join_pieces
  have hstart := h.ordinary.start_join (ofString_ne_nil e.name) d root
  have hpieces := hjoin _ h.ordinary.not_isAbsolute
  -- a beginning of the path of the entry passes places of the root, and then goes down by names
  have hdown : ∀ q, (∀ s ∈ q.filter (· != ""), s ≠ "." ∧ s ≠ "..") →
      x ∈ Path.way (d.start root) (b ++ q) →
      x ∈ d.way root ∨ ∃ r, r <+: q.filter (· != "") ∧ x = d.destination root ++ r := by
    intro q hq hx
    rcases mem_way_append.1 hx with hx | hx
    · exact .inl (way_mono hpre hx)
    · rw [hb] at hx
      exact .inr ((mem_way_plain_iff hq).1 hx)
  cases hdir : e.isDirectory with
  | true =>
    rw [madeWay, if_pos hdir, entryWay, Disk.way, entryPath, hstart, hpieces] at hx
    have hfolders : folders e = (Path.ofString e.name).pieces.filter (· != "") := by
      simp [folders, hdir, parts, names]
    rw [hfolders]
    exact hdown _ h.ordinary.plain hx
  | false =>
    obtain ⟨u, s, hname, hstay, -, hparts, -⟩ := h.file_pieces hdir
    have hsplit : (entryPath root e).pieces = (b ++ u) ++ [s] := by
      rw [entryPath, hpieces, hname, List.append_assoc]
    have hfolders : folders e = u.filter (· != "") := by simp [folders, hdir, hparts]
    have hplain : ∀ s ∈ u.filter (· != ""), s ≠ "." ∧ s ≠ ".." := fun s hs =>
      h.ordinary.plain s (by simp [names, hname, List.mem_filter.1 hs])
    simp only [madeWay, hdir, Bool.false_eq_true, if_false] at hx
    obtain ⟨a, hparent, hspelled⟩ := parent?_spelling hsplit hstay (by simp)
    simp only [hparent] at hx
    rw [Disk.way, start_parent? hparent, entryPath, hstart] at hx
    rw [hfolders]
    refine hdown u hplain ?_
    rcases hspelled with ⟨-, ha⟩ | ⟨v, l, t, hu, ha, -, -⟩
    · have hstays : ∀ piece ∈ a.pieces, isStay piece := by rcases ha with rfl | rfl | rfl <;> decide
      exact way_stays hstays _ hx
    · rw [hu, List.append_cons, ← ha]
      exact way_mono (List.prefix_append _ _) hx

/-! ## Paths that the system takes -/

/-- The system looks at the path of an entry and at that of its incomplete file, if the latter is not too
long. -/
theorem NormalName.check_entryPath (h : NormalName e) (hroot : check root = .ok ())
    (hnul : '\x00' ∉ e.name.toList)
    (hlength : ((entryPath root e).append partialEnding).toString.utf8ByteSize < maxPathBytes) :
    check (entryPath root e) = .ok () ∧ check ((entryPath root e).append partialEnding) = .ok () := by
  obtain ⟨b, hpre, -, hjoin⟩ := root.join_pieces
  obtain ⟨first, rest, hfirst⟩ := List.exists_cons_of_ne_nil (ofString_ne_nil e.name)
  have hpieces : (entryPath root e).pieces = b ++ (Path.ofString e.name).pieces :=
    hjoin _ h.ordinary.not_isAbsolute
  have hmem : first ∈ (entryPath root e).pieces := by simp [hpieces, hfirst]
  have htext := toString_concat
    (List.dropLast_concat_getLast (List.ne_nil_of_mem hmem)).symm partialEnding
  -- no piece holds the character that the system refuses
  obtain ⟨-, hrootNul, -⟩ := check_ok_iff.1 hroot
  have hclean : '\x00' ∉ (entryPath root e).toString.toList := by
    rw [mem_toString_iff (by decide), hpieces]
    rintro ⟨piece, hpiece, hc⟩
    rcases List.mem_append.1 hpiece with hpiece | hpiece
    · exact hrootNul ((mem_toString_iff (by decide)).2 ⟨piece, hpre.subset hpiece, hc⟩)
    · rw [← toString_ofString e.name] at hnul
      exact hnul ((mem_toString_iff (by decide)).2 ⟨piece, hpiece, hc⟩)
  have hne : first ≠ "" := by
    rintro rfl
    exact h.ordinary.relative (by rw [hfirst]; rfl)
  have hfull := toString_ne_empty hmem hne
  refine ⟨check_ok_iff.2 ⟨hfull, hclean, ?_⟩, check_ok_iff.2 ⟨?_, ?_, hlength⟩⟩
  · rw [htext, String.utf8ByteSize_append] at hlength
    omega
  · rw [htext]
    simp [hfull]
  · rw [htext]
    simpa [partialEnding] using hclean

theorem NormalName.passable_entryPath (h : NormalName e) (hroot : d.isDirectory root)
    (hcheck : check (entryPath root e) = .ok ())
    (hclear : ∀ r, r <+: parts e → NoFileAt d (d.destination root ++ r)) :
    Passable d (entryPath root e) := by
  obtain ⟨b, ⟨t, ht⟩, hb, hjoin⟩ := root.join_pieces
  obtain ⟨-, l, hwalk, hl⟩ := isDirectory_iff.1 hroot
  have hdest : l = d.destination root := (walk_ok hwalk).1
  rw [← ht, walk_append] at hwalk
  obtain ⟨v, hfirst, -⟩ := bind_ok hwalk
  have hv : v = d.destination root := (walk_ok hfirst).1.trans (hb _)
  rw [hdest] at hl
  rw [hv] at hfirst
  refine passable_of_walk hcheck (hjoin _ h.ordinary.not_isAbsolute) (r := d.destination root) ?_ hl
    (fun piece hpiece => ?_) fun x hx => ?_
  · rw [entryPath, h.ordinary.start_join (ofString_ne_nil e.name)]
    exact hfirst
  · by_cases hempty : piece = ""
    · exact .inl (by simp [isStay, hempty])
    · have hmem : piece ∈ parts e := by simp [parts, names, hpiece, hempty]
      exact .inr ⟨by simpa using (h.ordinary.plain piece hmem).2, h.short piece hmem⟩
  · obtain ⟨r, hr, rfl⟩ := (mem_way_plain_iff h.ordinary.plain).1 hx
    exact hclear r hr

end SpeechHost.Install
