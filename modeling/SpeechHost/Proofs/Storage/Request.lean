import SpeechHost.Proofs.Storage.Spot
/-!
# What requests do to the tree

One lemma for each request on one place says all that it can do to the view `find?`: making a
directory adds a directory where nothing stood (`makeDirectory_ok`), writing and removing change one
place (`writeFileAt_ok`, `removeFile_ok`), and renaming changes two (`renameFile_ok`).

A directory that is there is refused for that (`makeDirectory_of_isDirectory`), and a path that can be
followed no further than to something missing is not refused for any other reason
(`makeDirectory_of_missing`).
-/

namespace SpeechHost.Storage.Disk

open SpeechHost.Storage.Path

variable {d d' d'' : Disk} {p : Path}

/-! ## When requests are granted -/

theorem makeDirectory_iff : d.makeDirectory p = .ok d' ↔
    ∃ l s slash, d.spot p = .ok (l, .name s slash) ∧ checkName s = .ok () ∧
      d.find? (l ++ [s]) = none ∧ d' = d.put (l ++ [s]) .directory := by
  unfold makeDirectory
  constructor
  · intro h
    obtain ⟨⟨l, ending⟩, hspot, h⟩ := bind_ok h
    cases ending with
    | fixed => contradiction
    | name s slash =>
      obtain ⟨_, hname, h⟩ := bind_ok h
      by_cases hfree : (d.find? (l ++ [s])).isSome
      · simp [hfree] at h
      · exact ⟨l, s, slash, hspot, hname, by simpa using hfree, by simpa [hfree, eq_comm] using h⟩
  · rintro ⟨l, s, slash, hspot, hname, hfree, rfl⟩
    simp [hspot, hname, hfree]

theorem writeFileAt_iff {content : Bytes} {l : Location} :
    d.writeFileAt p content = .ok (l, d') ↔
      ∃ v s, d.spot p = .ok (v, .name s false) ∧ checkName s = .ok () ∧
        d.find? (v ++ [s]) ≠ some .directory ∧ l = v ++ [s] ∧ d' = d.put l (.file content) := by
  unfold writeFileAt
  constructor
  · intro h
    obtain ⟨⟨v, ending⟩, hspot, h⟩ := bind_ok h
    cases ending with
    | fixed => contradiction
    | name s slash =>
      cases slash with
      | true => contradiction
      | false =>
        obtain ⟨_, hname, h⟩ := bind_ok h
        by_cases hdir : d.isDirectoryAt (v ++ [s])
        · simp [hdir] at h
        · obtain ⟨rfl, rfl⟩ : v ++ [s] = l ∧ d.put (v ++ [s]) (.file content) = d' := by
            simpa [hdir] using h
          exact ⟨v, s, hspot, hname, mt isDirectoryAt_iff.2 hdir, rfl, rfl⟩
  · rintro ⟨v, s, hspot, hname, hdir, rfl, rfl⟩
    rw [Ne, ← isDirectoryAt_iff] at hdir
    simp [hspot, hname, hdir]

theorem removeFile_iff : d.removeFile p = .ok d' ↔
    ∃ l s node, d.spot p = .ok (l, .name s false) ∧ checkName s = .ok () ∧
      d.find? (l ++ [s]) = some node ∧ node ≠ .directory ∧ d' = d.erase (l ++ [s]) := by
  unfold removeFile
  constructor
  · intro h
    obtain ⟨⟨l, ending⟩, hspot, h⟩ := bind_ok h
    cases ending with
    | fixed => contradiction
    | name s slash =>
      obtain ⟨_, hname, h⟩ := bind_ok h
      split at h
      · contradiction
      · contradiction
      · rename_i node hnode hfind
        cases slash with
        | true => contradiction
        | false => exact ⟨l, s, node, hspot, hname, hfind, hnode, by simpa [eq_comm] using h⟩
  · rintro ⟨l, s, node, hspot, hname, hfind, hnode, rfl⟩
    cases node with
    | directory => contradiction
    | _ => simp [hspot, hname, hfind]

theorem renameFile_iff {old new : Path} : d.renameFile old new = .ok d' ↔
    ∃ l s l' s' node, d.spot old = .ok (l, .name s false) ∧ d.spot new = .ok (l', .name s' false) ∧
      checkName s = .ok () ∧ checkName s' = .ok () ∧ d.find? (l ++ [s]) = some node ∧
      node ≠ .directory ∧ d.find? (l' ++ [s']) ≠ some .directory ∧
      d' = (d.erase (l ++ [s])).put (l' ++ [s']) node := by
  unfold renameFile
  constructor
  · intro h
    obtain ⟨⟨l, ending⟩, hspot, h⟩ := bind_ok h
    obtain ⟨⟨l', ending'⟩, hspot', h⟩ := bind_ok h
    cases ending with
    | fixed => contradiction
    | name s slash =>
      cases ending' with
      | fixed => contradiction
      | name s' slash' =>
        obtain ⟨_, hname, h⟩ := bind_ok h
        split at h
        · contradiction
        · contradiction
        · rename_i node hnode hfind
          obtain ⟨_, hname', h⟩ := bind_ok h
          by_cases hslash : (slash || slash') = true
          · simp [hslash] at h
          by_cases hdir : d.isDirectoryAt (l' ++ [s'])
          · simp [hslash, hdir] at h
          have hput : (d.erase (l ++ [s])).put (l' ++ [s']) node = d' := by
            simpa [hslash, hdir] using h
          obtain ⟨rfl, rfl⟩ : slash = false ∧ slash' = false := by simpa using hslash
          exact ⟨l, s, l', s', node, hspot, hspot', hname, hname', hfind, hnode,
            mt isDirectoryAt_iff.2 hdir, hput.symm⟩
  · rintro ⟨l, s, l', s', node, hspot, hspot', hname, hname', hfind, hnode, hdir, rfl⟩
    rw [Ne, ← isDirectoryAt_iff] at hdir
    cases node with
    | directory => contradiction
    | _ => simp [hspot, hspot', hname, hname', hfind, hdir]

/-! ## Requests on one place -/

theorem makeDirectory_ok (h : d.makeDirectory p = .ok d') :
    d.destination p ≠ [] ∧ d.find? (d.destination p) = none ∧
      d' = d.put (d.destination p) .directory ∧
      ∀ x ∈ d.way p, x = d.destination p ∨ d.find? x = some .directory := by
  obtain ⟨l, s, slash, hspot, -, hfree, rfl⟩ := makeDirectory_iff.1 h
  obtain ⟨hdest, hdirs, -⟩ := spot_name hspot
  rw [← hdest]
  exact ⟨by simp, hfree, rfl, by rwa [hdest]⟩

theorem writeFileAt_ok {content : Bytes} {l : Location}
    (h : d.writeFileAt p content = .ok (l, d')) :
    l = d.destination p ∧ l ≠ [] ∧ d.find? l ≠ some .directory ∧ d' = d.put l (.file content) ∧
      (∀ x ∈ d.way p, x = l ∨ d.find? x = some .directory) := by
  obtain ⟨v, s, hspot, -, hdir, rfl, rfl⟩ := writeFileAt_iff.1 h
  obtain ⟨hdest, hdirs, -⟩ := spot_name hspot
  exact ⟨hdest, by simp, hdir, rfl, by rwa [hdest]⟩

theorem removeFile_ok (h : d.removeFile p = .ok d') :
    d.destination p ≠ [] ∧ d.find? (d.destination p) ≠ some .directory ∧
      d' = d.erase (d.destination p) := by
  obtain ⟨l, s, node, hspot, -, hfind, hnode, rfl⟩ := removeFile_iff.1 h
  obtain ⟨hdest, -⟩ := spot_name hspot
  rw [← hdest, hfind]
  exact ⟨by simp, fun hd => hnode (Option.some.inj hd), rfl⟩

theorem removeFile_written {content content' : Bytes} {l : Location}
    (h : d.writeFileAt p content = .ok (l, d')) (hcwd : d''.cwd = d.cwd)
    (hdirs : ∀ x, d.find? x = some .directory → d''.find? x = some .directory)
    (hfind : d''.find? l = some (.file content')) : d''.removeFile p = .ok (d''.erase l) := by
  obtain ⟨v, s, hspot, hname, -, rfl, -⟩ := writeFileAt_iff.1 h
  exact removeFile_iff.2 ⟨v, s, _, spot_keeps hcwd hdirs hspot, hname, hfind, by simp, rfl⟩

theorem renameFile_ok {old new : Path} (h : d.renameFile old new = .ok d') :
    ∃ node a s, d.find? (d.destination old) = some node ∧ node ≠ .directory ∧
      d.destination old ≠ [] ∧ d.destination new ≠ [] ∧
      d.find? (d.destination new) ≠ some .directory ∧
      d' = (d.erase (d.destination old)).put (d.destination new) node ∧
      new.pieces = a ++ [s] ∧ isStay s = false ∧ (s == "..") = false ∧
      (∀ x ∈ d.way new, x = d.destination new ∨ d.find? x = some .directory) := by
  obtain ⟨l, s, l', s', node, hspot, hspot', -, -, hfind, hnode, hdir, rfl⟩ := renameFile_iff.1 h
  obtain ⟨hdest, -⟩ := spot_name hspot
  obtain ⟨hdest', hdirs', hstay', hup', hpieces'⟩ := spot_name hspot'
  obtain ⟨a, ha, -⟩ := hpieces' rfl
  rw [← hdest, ← hdest']
  exact ⟨node, a, s', hfind, hnode, by simp, by simp, hdir, rfl, ha, hstay', hup', by rwa [hdest']⟩

/-! ## Directories that are there, or missing -/

theorem makeDirectory_of_isDirectory (h : d.isDirectory p) :
    d.makeDirectory p = .error .alreadyExists := by
  obtain ⟨hcheck, l, hwalk, hl⟩ := isDirectory_iff.1 h
  unfold makeDirectory
  rcases spot_spelling p with ⟨-, hspot⟩ | ⟨init, last, n, hpieces, hlast, hspot⟩
  · rw [hspot, hcheck]
    rfl
  · rw [hpieces, walk_append] at hwalk
    obtain ⟨v, hinit, hrest⟩ := bind_ok hwalk
    rw [hspot, hcheck, hinit]
    simp only [ok_bind]
    rw [walk] at hrest
    split_ifs at hrest with hdir hstay hup hlong
    · have hdot : last = "." := by simpa [isStay, hlast] using hstay
      simp at hdir
      simp [endAt, hdot, hdir]
    · simp at hdir
      simp [endAt, hup, hdir]
    · have hfound : (d.find? (v ++ [last])).isSome := by
        cases hfind : d.find? (v ++ [last]) with
        | none => simp [hfind] at hrest
        | some n => rfl
      rw [endAt_name (by simpa using hdir) (by simpa using hstay) (by simpa using hup)]
      simp [checkName, hlong, hfound]

theorem makeDirectory_of_missing (hcheck : check p = .ok ())
    (h : d.walk (d.start p) p.pieces = .error .missing) :
    d.makeDirectory p = .error .missing ∨ ∃ d', d.makeDirectory p = .ok d' := by
  unfold makeDirectory
  rcases spot_spelling p with ⟨hpieces, -⟩ | ⟨init, last, n, hpieces, hlast, hspot⟩
  · rw [hpieces] at h
    exact absurd h (walk_slashes_ne_missing _ _ _)
  · rw [hpieces, walk_append] at h
    rw [hspot, hcheck]
    cases hinit : d.walk (d.start p) init with
    | error f =>
      rw [hinit] at h
      obtain rfl : f = .missing := by simpa using h
      exact .inl rfl
    | ok v =>
      right
      rw [hinit] at h
      simp only [ok_bind] at h ⊢
      rw [walk] at h
      split_ifs at h with hdir hstay hup hlong
      · simp at h
      · exact absurd h (walk_slashes_ne_missing _ _ _)
      · exact absurd h (walk_slashes_ne_missing _ _ _)
      · simp at h
      · rw [endAt_name (by simpa using hdir) (by simpa using hstay) (by simpa using hup)]
        cases hfind : d.find? (v ++ [last]) with
        | none => simp [checkName, hlong, hfind]
        | some node =>
          simp only [hfind] at h
          exact absurd h (walk_slashes_ne_missing _ _ _)

theorem makeDirectory_ne_missing {r : Location × Ending} (h : d.spot p = .ok r) :
    d.makeDirectory p ≠ .error .missing := by
  obtain ⟨l, ending⟩ := r
  unfold makeDirectory
  rw [h]
  cases ending with
  | fixed => simp
  | name s slash =>
    unfold checkName
    by_cases hlong : maxNameBytes < s.utf8ByteSize
    · simp [hlong]
    · by_cases hfound : (d.find? (l ++ [s])).isSome
      · simp [hlong, hfound]
      · simp [hlong, hfound]

theorem isDirectory_of_makeDirectory (h : d.makeDirectory p = .ok d') : d'.isDirectory p := by
  obtain ⟨l, s, slash, hspot, hname, -, rfl⟩ := makeDirectory_iff.1 h
  obtain ⟨hcheck, -, hstay, hup, hdir, init, n, hpieces, hwalk, -⟩ := spot_name_walk hspot
  have hput := fun x => find?_put (l := l ++ [s]) (by simp) d .directory x
  have hdirs : ∀ x, d.find? x = some .directory →
      (d.put (l ++ [s]) .directory).find? x = some .directory := by
    intro x hx
    rw [hput, hx]
    split_ifs <;> rfl
  have hthere := (hput (l ++ [s])).trans (if_pos rfl)
  refine isDirectory_iff.2 ⟨hcheck, l ++ [s], ?_, hthere⟩
  rw [start_congr (d.cwd_put _ _), hpieces, walk_append, walk_keeps hdirs hwalk hdir]
  have hshort : ¬ maxNameBytes < s.utf8ByteSize := by
    intro hlong
    simp [checkName, hlong] at hname
  have hat := isDirectoryAt_iff.2 (hdirs l hdir)
  have hslashes := (walk_slashes _ (l ++ [s]) n).resolve_right fun hno => hno.1 hthere
  simp [walk, hat, hstay, hup, hshort, hthere, hslashes]

theorem read_written {content content' : Bytes} {l : Location}
    (h : d.writeFileAt p content = .ok (l, d')) (hcwd : d''.cwd = d.cwd)
    (hdirs : ∀ x, d.find? x = some .directory → d''.find? x = some .directory)
    (hfind : d''.find? l = some (.file content')) : d''.read p = .ok content' := by
  obtain ⟨v, s, hspot, hname, -, rfl, -⟩ := writeFileAt_iff.1 h
  obtain ⟨hcheck, -, hstay, hup, hdir, init, n, hpieces, hwalk, hslash⟩ := spot_name_walk hspot
  obtain rfl : n = 0 := by simpa using hslash
  have hshort : ¬ maxNameBytes < s.utf8ByteSize := by
    intro hlong
    simp [checkName, hlong] at hname
  have hat := isDirectoryAt_iff.2 (hdirs v hdir)
  have hlocate : d''.locate p = .ok (v ++ [s]) := by
    rw [locate, hcheck, start_congr hcwd, hpieces]
    simp only [ok_bind, walk_append, walk_keeps hdirs hwalk hdir]
    simp [walk, hat, hstay, hup, hshort, hfind]
  simp [read, hlocate, hfind]

/-- No directory is made on the way to where a path starts. -/
theorem makeDirectory_ahead (h : d.makeDirectory p = .ok d') :
    ¬ d.destination p <+: d.start p := by
  obtain ⟨l, s, slash, hspot, -, hfree, -⟩ := makeDirectory_iff.1 h
  obtain ⟨hdest, -⟩ := spot_name hspot
  obtain ⟨-, -, -, -, hdir, init, n, -, hwalk, -⟩ := spot_name_walk hspot
  obtain ⟨hl, hway⟩ := walk_ok hwalk
  rw [← hdest]
  intro hprefix
  have hnot : l ++ [s] ∉ Path.way (d.start p) init := by
    intro hmem
    rcases hway _ hmem with heq | hd
    · simp at heq
    · simp [hfree] at hd
  have hlen := (isPrefix_follow_of_notMem hprefix hnot).length_le
  rw [← hl, List.length_append, List.length_singleton] at hlen
  omega

end SpeechHost.Storage.Disk
