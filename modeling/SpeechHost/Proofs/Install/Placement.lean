import SpeechHost.Install.Extract
import SpeechHost.Proofs.Storage.Way
import SpeechHost.Proofs.Storage.Request
/-!
# Where entries are put

The name of an entry, joined to the root, is the path it is put at; the file that is not complete yet
has the same path with an ending behind it. A name that stays below its start keeps every place it
passes inside the root (`below_root_of_path?`), and so the incomplete file is inside the root too,
under a name with the ending (`partialPlace_eq`).
-/

namespace SpeechHost.Install

open SpeechHost.Storage SpeechHost.Storage.Path SpeechHost.Zip

def entryPath (root : Path) (e : Entry) : Path :=
  root.join (.ofString e.name)

def entryPlace (d : Disk) (root : Path) (e : Entry) : Location :=
  d.destination (entryPath root e)

/-- The place of an entry while it is not complete. -/
def partialPlace (d : Disk) (root : Path) (e : Entry) : Location :=
  d.destination ((entryPath root e).append partialEnding)

def entryWay (d : Disk) (root : Path) (e : Entry) : List Location :=
  d.way (entryPath root e)

/-- Whether a name is one of a file that is not complete. -/
def EndsPartial (s : String) : Prop :=
  partialEnding.toList <:+ s.toList

instance (s : String) : Decidable (EndsPartial s) :=
  inferInstanceAs (Decidable (partialEnding.toList <:+ s.toList))

theorem endsPartial_append (s : String) : EndsPartial (s ++ partialEnding) :=
  ⟨s.toList, by simp⟩

theorem EndsPartial.length {s : String} (h : EndsPartial s) : 5 ≤ s.toList.length :=
  List.IsSuffix.length_le h

theorem isStay_partial (s : String) : isStay (s ++ partialEnding) = false := by
  have hlen := (endsPartial_append s).length
  by_contra hstay
  simp only [isStay, Bool.not_eq_false, Bool.or_eq_true, beq_iff_eq] at hstay
  rcases hstay with h | h
  · rw [h] at hlen
    exact absurd hlen (by decide)
  · rw [h] at hlen
    exact absurd hlen (by decide)

theorem partial_ne_up (s : String) : ((s ++ partialEnding) == "..") = false := by
  have hlen := (endsPartial_append s).length
  by_contra hup
  rw [Bool.not_eq_false, beq_iff_eq] at hup
  rw [hup] at hlen
  exact absurd hlen (by decide)

theorem append_partial_ne (s : String) : s ++ partialEnding ≠ s := by
  intro h
  have hlen := congrArg (·.toList.length) h
  simp [partialEnding] at hlen

theorem ofString_ne_nil (s : String) : (Path.ofString s).pieces ≠ [] := by
  simp [Path.ofString, cut_ne_nil]

theorem append_of_pieces {p : Path} {a : List String} {s : String} (h : p.pieces = a ++ [s])
    (ending : String) : (p.append ending).pieces = a ++ [s ++ ending] := by
  simp [Path.append, h]

/-! ## Names that stay below -/

theorem components_of_not_isAbsolute {p : Path} (h : p.isAbsolute = false) :
    p.components = (if p.lead = ["."] then [.here] else []) ++
      (p.pieces.filter (!isStay ·)).map fun piece =>
        if piece == ".." then Component.up else .name piece := by
  have hlead := p.isAbsolute_iff_lead
  have hsplit := p.lead_body
  rcases p.lead_cases with hl | hl | hl
  · simp [hl, h] at hlead
  · rw [hl] at hsplit
    rw [components, hl, ← hsplit]
    simp [isStay]
  · rw [hl] at hsplit
    rw [components, hl, ← hsplit]
    simp

theorem below_of_staysBelow {pieces : List String} {base below : Location}
    (h : Entry.staysBelow below.length ((pieces.filter (!isStay ·)).map fun piece =>
      if piece == ".." then Component.up else .name piece))
    {x : Location} (hx : x ∈ way (base ++ below) pieces) :
    ∃ r, x = base ++ r ∧ ∀ c ∈ r, c ∈ below ∨ c ∈ pieces := by
  induction pieces generalizing below x with
  | nil => exact ⟨below, eq_of_mem_way_stays (by simp) hx, fun c hc => .inl hc⟩
  | cons piece pieces ih =>
    rcases mem_way_cons.1 hx with rfl | hx
    · exact ⟨below, rfl, fun c hc => .inl hc⟩
    unfold Path.step at hx
    by_cases hstay : isStay piece
    · rw [if_pos hstay] at hx
      obtain ⟨r, rfl, hr⟩ := ih (by simpa [hstay] using h) hx
      exact ⟨r, rfl, fun c hc => (hr c hc).imp_right (List.mem_cons_of_mem piece)⟩
    rw [if_neg hstay] at hx
    rw [List.filter_cons_of_pos (by simpa using hstay), List.map_cons] at h
    by_cases hup : (piece == "..") = true
    · rw [if_pos hup] at h hx
      rcases below.eq_nil_or_concat with rfl | ⟨below, s, rfl⟩
      · simp [Entry.staysBelow] at h
      · rw [List.concat_eq_append, ← List.append_assoc, List.dropLast_concat] at hx
        obtain ⟨r, rfl, hr⟩ := ih (by simpa [Entry.staysBelow] using h) hx
        refine ⟨r, rfl, fun c hc => (hr c hc).imp (fun hb => ?_) (List.mem_cons_of_mem piece)⟩
        simp [hb]
    · rw [if_neg hup] at h hx
      rw [List.append_assoc] at hx
      have hdeeper : Entry.staysBelow (below ++ [piece]).length ((pieces.filter (!isStay ·)).map
          fun piece => if piece == ".." then Component.up else .name piece) := by
        simpa [Entry.staysBelow] using h
      obtain ⟨r, rfl, hr⟩ := ih hdeeper hx
      refine ⟨r, rfl, fun c hc => ?_⟩
      rcases hr c hc with hb | hp
      · rcases List.mem_append.1 hb with hb | hb
        · exact .inl hb
        · exact .inr (by simp [List.mem_singleton.1 hb])
      · exact .inr (List.mem_cons_of_mem piece hp)

/-! ## Entries whose names stay below -/

variable {d : Disk} {root : Path} {e : Entry}

theorem of_path? {p : Path} (h : e.path? = some p) :
    p = Path.ofString e.name ∧ p.isAbsolute = false ∧ Entry.staysBelow 0 p.components := by
  simp only [Entry.path?] at h
  split_ifs at h with hok
  rw [Bool.and_eq_true] at hok
  obtain rfl := (Option.some.inj h).symm
  refine ⟨rfl, ?_, hok.2⟩
  by_contra habs
  have hlead := (isAbsolute_iff_lead _).1 (by simpa using habs)
  have := hok.2
  simp [components, hlead, Entry.staysBelow] at this

/-- Behind the root, the path of an entry passes places inside the root only, with names that are pieces
of its own. -/
theorem below_root_of_path? {p : Path} (h : e.path? = some p) {l x : Location}
    (hx : x ∈ way l p.pieces) : ∃ r, x = l ++ r ∧ ∀ c ∈ r, c ∈ p.pieces := by
  obtain ⟨-, habs, hbelow⟩ := of_path? h
  rw [components_of_not_isAbsolute habs] at hbelow
  rw [← List.append_nil l] at hx
  have hstays : Entry.staysBelow ([] : Location).length ((p.pieces.filter (!isStay ·)).map
      fun piece => if piece == ".." then Component.up else .name piece) := by
    split_ifs at hbelow
    · simpa [Entry.staysBelow] using hbelow
    · simpa using hbelow
  obtain ⟨r, hr, hnames⟩ := below_of_staysBelow hstays hx
  exact ⟨r, hr, fun c hc => (hnames c hc).resolve_left (by simp)⟩

theorem under_root_of_path? {p : Path} (h : e.path? = some p) {l x : Location}
    (hx : x ∈ way l p.pieces) : l <+: x := by
  obtain ⟨r, rfl, -⟩ := below_root_of_path? h hx
  exact List.prefix_append l r

theorem start_entryPath {p : Path} (h : e.path? = some p) (d : Disk) :
    d.start (entryPath root e) = d.start root := by
  obtain ⟨rfl, habs, -⟩ := of_path? h
  simp [Disk.start, entryPath, isAbsolute_join habs (ofString_ne_nil _)]

/-- Up to the root the paths of all entries pass the same places, and behind it each goes its own way. -/
theorem entryWay_split (d : Disk) (root : Path) :
    ∃ ls, ls ⊆ d.way root ∧ ∀ (e : Entry) (p : Path), e.path? = some p →
      ∀ l, l ∈ entryWay d root e ↔ l ∈ ls ∨ l ∈ way (d.destination root) p.pieces := by
  obtain ⟨b, hpre, hb, hjoin⟩ := root.join_pieces
  refine ⟨way (d.start root) b, way_mono hpre, fun e p h l => ?_⟩
  obtain ⟨rfl, habs, -⟩ := of_path? h
  rw [entryWay, Disk.way, start_entryPath h, entryPath, hjoin _ habs, mem_way_append, hb]
  rfl

theorem mem_entryWay {p : Path} (h : e.path? = some p) {l : Location}
    (hl : l ∈ entryWay d root e) : d.destination root <+: l ∨ l ∈ d.way root := by
  obtain ⟨ls, hls, hsplit⟩ := entryWay_split d root
  rcases (hsplit e p h l).1 hl with hl | hl
  · exact .inr (hls hl)
  · exact .inl (under_root_of_path? h hl)

theorem entryPath_concat {p : Path} (h : e.path? = some p) (d : Disk) (root : Path) :
    ∃ a s, (entryPath root e).pieces = a ++ [s] ∧
      d.destination root <+: follow (d.start root) a := by
  obtain ⟨rfl, habs, -⟩ := of_path? h
  obtain ⟨b, -, hb, hjoin⟩ := root.join_pieces
  obtain ⟨r, s, hp⟩ : ∃ r s, (Path.ofString e.name).pieces = r ++ [s] :=
    ⟨_, _, (List.dropLast_concat_getLast (ofString_ne_nil _)).symm⟩
  refine ⟨b ++ r, s, ?_, ?_⟩
  · rw [entryPath, hjoin _ habs, hp, List.append_assoc]
  · rw [follow_append, hb]
    exact under_root_of_path? h (mem_way.2 ⟨r, by simp [hp], rfl⟩)

theorem entryPlace_name {p : Path} (h : e.path? = some p) {a : List String} {s : String}
    (hp : (entryPath root e).pieces = a ++ [s]) (hstay : isStay s = false)
    (hup : (s == "..") = false) (d : Disk) :
    ∃ l, d.destination root <+: l ∧ entryPlace d root e = l ++ [s] := by
  obtain ⟨b, z, hpieces, hunder⟩ := entryPath_concat h d root
  obtain ⟨rfl, -⟩ := List.append_inj' (hp.symm.trans hpieces) rfl
  refine ⟨_, hunder, ?_⟩
  rw [entryPlace, Disk.destination, start_entryPath h, hp, follow_append,
    follow_name _ hstay hup]

theorem isAbsolute_append {p : Path} (hne : p.pieces ≠ []) (ending : String) :
    (p.append ending).isAbsolute = p.isAbsolute := by
  obtain ⟨a, s, hp⟩ : ∃ a s, p.pieces = a ++ [s] :=
    ⟨_, _, (List.dropLast_concat_getLast hne).symm⟩
  rw [Bool.eq_iff_iff, isAbsolute_iff, isAbsolute_iff, append_of_pieces hp, hp]
  cases a with
  | nil => simp
  | cons c a => simp

theorem start_append {p : Path} (hne : p.pieces ≠ []) (d : Disk) (ending : String) :
    d.start (p.append ending) = d.start p := by
  simp [Disk.start, isAbsolute_append hne]

/-- The incomplete file stands inside the root, under a name with the ending. -/
theorem partialPlace_eq {p : Path} (h : e.path? = some p) (d : Disk) (root : Path) :
    ∃ l s, partialPlace d root e = l ++ [s ++ partialEnding] ∧ d.destination root <+: l := by
  obtain ⟨a, s, hpieces, hunder⟩ := entryPath_concat h d root
  refine ⟨_, s, ?_, hunder⟩
  rw [partialPlace, Disk.destination, start_append (by simp [hpieces]), start_entryPath h,
    append_of_pieces hpieces, follow_append, follow_name _ (isStay_partial s) (partial_ne_up s)]

/-- The incomplete file and the file stand side by side, where the file can stand at all. -/
theorem destination_side {p : Path} {a : List String} {s : String} (hp : p.pieces = a ++ [s])
    (hstay : isStay s = false) (hup : (s == "..") = false) (d : Disk) :
    ∃ l, d.destination p = l ++ [s] ∧
      d.destination (p.append partialEnding) = l ++ [s ++ partialEnding] := by
  refine ⟨follow (d.start p) a, ?_, ?_⟩
  · rw [Disk.destination, hp, follow_append, follow_name _ hstay hup]
  · rw [Disk.destination, append_of_pieces hp, follow_append,
      follow_name _ (isStay_partial s) (partial_ne_up s), start_append (by simp [hp])]

end SpeechHost.Install
