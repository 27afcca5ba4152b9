import SpeechHost.Proofs.Storage.Growth
/-!
# Trees that keep a journal

A journal holds a tree and the changes that led to it, each with the places that it is made at. Made one
after the other they lead to the tree, so no change is left out. A journal is a `FileTree`: its requests are
granted and refused like those on its tree and note what they do. `Mirrors` says so of a request, or of a
whole program of requests, together with what is noted.
-/

namespace SpeechHost.Storage

inductive Change where
  | make (l : Location)
  /-- A file gets its content, be it new or not. -/
  | write (l : Location) (content : Bytes)
  /-- A file goes from one place to another, over what is there. -/
  | rename (l l' : Location)
  | remove (l : Location)
  deriving DecidableEq

def Change.apply (d : Disk) : Change → Disk
  | .make l => d.put l .directory
  | .write l content => d.put l (.file content)
  | .rename l l' =>
    match d.find? l with
    | some node => (d.erase l).put l' node
    | none => d
  | .remove l => d.erase l

theorem Change.cwd_apply (d : Disk) (c : Change) : (c.apply d).cwd = d.cwd := by
  cases c with
  | rename l l' => cases h : d.find? l <;> simp [apply, h, Disk.put, Disk.erase]
  | _ => rfl

/-- A tree, and the changes that led to it. -/
structure Journal (before : Disk) where
  disk : Disk
  changes : List Change
  replay : changes.foldl Change.apply before = disk

namespace Journal

variable {before : Disk}

def start (before : Disk) : Journal before :=
  ⟨before, [], rfl⟩

/-- Makes a change and notes it. -/
def note (j : Journal before) (c : Change) : Journal before :=
  ⟨c.apply j.disk, j.changes ++ [c], by rw [List.foldl_append, j.replay]; rfl⟩

theorem cwd (j : Journal before) : j.disk.cwd = before.cwd := by
  have hcwd : ∀ (cs : List Change) (d : Disk), (cs.foldl Change.apply d).cwd = d.cwd := by
    intro cs
    induction cs with
    | nil => exact fun d => rfl
    | cons c cs ih => exact fun d => (ih _).trans (c.cwd_apply d)
  rw [← j.replay, hcwd]

/-! ## Requests -/

def makeDirectory (j : Journal before) (p : Path) : Except Fault (Journal before) :=
  (j.disk.makeDirectory p).map fun _ => j.note (.make (j.disk.destination p))

def writeFileAt (j : Journal before) (p : Path) (content : Bytes) :
    Except Fault (Location × Journal before) :=
  (j.disk.writeFileAt p content).map fun (l, _) => (l, j.note (.write l content))

def renameFile (j : Journal before) (old new : Path) : Except Fault (Journal before) :=
  (j.disk.renameFile old new).map fun _ =>
    j.note (.rename (j.disk.destination old) (j.disk.destination new))

def removeFile (j : Journal before) (p : Path) : Except Fault (Journal before) :=
  (j.disk.removeFile p).map fun _ => j.note (.remove (j.disk.destination p))

instance : FileTree (Journal before) where
  isDirectory j p := j.disk.isDirectory p
  makeDirectory := makeDirectory
  writeFileAt := writeFileAt
  rewriteFile j l content := j.note (.write l content)
  renameFile := renameFile
  removeFile := removeFile

section FileTree

variable (j : Journal before)

@[simp] theorem fileTree_isDirectory (p : Path) :
    FileTree.isDirectory j p = j.disk.isDirectory p := rfl

@[simp] theorem fileTree_makeDirectory (p : Path) :
    FileTree.makeDirectory j p = j.makeDirectory p := rfl

@[simp] theorem fileTree_writeFileAt (p : Path) (content : Bytes) :
    FileTree.writeFileAt j p content = j.writeFileAt p content := rfl

@[simp] theorem fileTree_rewriteFile (l : Location) (content : Bytes) :
    FileTree.rewriteFile j l content = j.note (.write l content) := rfl

@[simp] theorem fileTree_renameFile (old new : Path) :
    FileTree.renameFile j old new = j.renameFile old new := rfl

@[simp] theorem fileTree_removeFile (p : Path) : FileTree.removeFile j p = j.removeFile p := rfl

end FileTree

/-! ## A request and its journal -/

/-- A journal that comes of a request: the answer and the tree are those of the request on the tree, and
what was noted is of a kind. -/
structure Mirrors {α : Type} (V : Change → Prop) (j : Journal before) (r : α × Disk)
    (r' : α × Journal before) : Prop where
  answer : r'.1 = r.1
  disk : r'.2.disk = r.2
  changes : ∃ cs, r'.2.changes = j.changes ++ cs ∧ ∀ c ∈ cs, V c

section Mirrors

variable {α β : Type} {V W : Change → Prop} {j : Journal before}

theorem Mirrors.refl (V : Change → Prop) (j : Journal before) (a : α) :
    Mirrors V j (a, j.disk) (a, j) :=
  ⟨rfl, rfl, [], by simp, by simp⟩

theorem Mirrors.mono {r : α × Disk} {r' : α × Journal before} (h : Mirrors V j r r')
    (hV : ∀ c, V c → W c) : Mirrors W j r r' := by
  obtain ⟨cs, hcs, hall⟩ := h.changes
  exact ⟨h.answer, h.disk, cs, hcs, fun c hc => hV c (hall c hc)⟩

theorem Mirrors.exists_eq {r : α × Disk} {r' : α × Journal before} (h : Mirrors V j r r') :
    ∃ a j', r = (a, j'.disk) ∧ r' = (a, j') := by
  obtain ⟨hanswer, hdisk, -⟩ := h
  exact ⟨r'.1, r'.2, Prod.ext hanswer.symm hdisk.symm, rfl⟩

theorem Mirrors.answering {r : α × Disk} {r' : α × Journal before} (h : Mirrors V j r r') (b : β) :
    Mirrors V j (b, r.2) (b, r'.2) :=
  ⟨rfl, h.disk, h.changes⟩

theorem Mirrors.trans {r : α × Disk} {r' : α × Journal before} {s : β × Disk}
    {s' : β × Journal before} (h : Mirrors V j r r') (h' : Mirrors V r'.2 s s') :
    Mirrors V j s s' := by
  obtain ⟨cs, hcs, hall⟩ := h.changes
  obtain ⟨cs', hcs', hall'⟩ := h'.changes
  refine ⟨h'.answer, h'.disk, cs ++ cs', by rw [hcs', hcs, List.append_assoc], fun c hc => ?_⟩
  rcases List.mem_append.1 hc with hc | hc
  · exact hall c hc
  · exact hall' c hc

theorem mirrors_note {d : Disk} {c : Change} (hc : V c) (hd : c.apply j.disk = d) (a : α) :
    Mirrors V j (a, d) (a, j.note c) :=
  ⟨rfl, hd, [c], rfl, by simpa using hc⟩

end Mirrors

/-- A request that answers with a tree only is refused, or granted and noted. -/
theorem map_note_cases {j : Journal before} {x : Except Fault Disk} {c : Change}
    (h : ∀ d, x = .ok d → d = c.apply j.disk) :
    (∃ e, x = .error e ∧ x.map (fun _ => j.note c) = .error e) ∨
      (∃ d, x = .ok d ∧ c.apply j.disk = d ∧ x.map (fun _ => j.note c) = .ok (j.note c)) := by
  cases x with
  | error e => exact .inl ⟨e, rfl, rfl⟩
  | ok d => exact .inr ⟨d, rfl, (h d rfl).symm, rfl⟩

theorem makeDirectory_cases (j : Journal before) (p : Path) :
    (∃ e, j.disk.makeDirectory p = .error e ∧ j.makeDirectory p = .error e) ∨
      ∃ d, j.disk.makeDirectory p = .ok d ∧
        (Change.make (j.disk.destination p)).apply j.disk = d ∧
        j.makeDirectory p = .ok (j.note (.make (j.disk.destination p))) := by
  apply map_note_cases
  intro d hd
  obtain ⟨-, -, rfl, -⟩ := Disk.makeDirectory_ok hd
  rfl

theorem renameFile_cases (j : Journal before) (old new : Path) :
    (∃ e, j.disk.renameFile old new = .error e ∧ j.renameFile old new = .error e) ∨
      ∃ d, j.disk.renameFile old new = .ok d ∧
        (Change.rename (j.disk.destination old) (j.disk.destination new)).apply j.disk = d ∧
        j.renameFile old new =
          .ok (j.note (.rename (j.disk.destination old) (j.disk.destination new))) := by
  apply map_note_cases
  intro d hd
  obtain ⟨node, a, s, hnode, -, -, -, -, rfl, -⟩ := Disk.renameFile_ok hd
  simp [Change.apply, hnode]

theorem removeFile_cases (j : Journal before) (p : Path) :
    (∃ e, j.disk.removeFile p = .error e ∧ j.removeFile p = .error e) ∨
      ∃ d, j.disk.removeFile p = .ok d ∧
        (Change.remove (j.disk.destination p)).apply j.disk = d ∧
        j.removeFile p = .ok (j.note (.remove (j.disk.destination p))) := by
  apply map_note_cases
  intro d hd
  obtain ⟨-, -, rfl⟩ := Disk.removeFile_ok hd
  rfl

theorem writeFileAt_cases (j : Journal before) (p : Path) (content : Bytes) :
    (∃ e, j.disk.writeFileAt p content = .error e ∧ j.writeFileAt p content = .error e) ∨
      ∃ d, j.disk.writeFileAt p content = .ok (j.disk.destination p, d) ∧
        (Change.write (j.disk.destination p) content).apply j.disk = d ∧
        j.writeFileAt p content =
          .ok (j.disk.destination p, j.note (.write (j.disk.destination p) content)) := by
  cases h : j.disk.writeFileAt p content with
  | error e => exact .inl ⟨e, rfl, by rw [writeFileAt, h]; rfl⟩
  | ok r =>
    obtain ⟨l, d⟩ := r
    obtain ⟨rfl, -, -, rfl, -⟩ := Disk.writeFileAt_ok h
    exact .inr ⟨_, rfl, rfl, by rw [writeFileAt, h]; rfl⟩

/-! ## Directories that are made upwards -/

/-- The making of a directory at one of some places. -/
def MakesAt (ls : List Location) (c : Change) : Prop :=
  ∃ l ∈ ls, c = .make l

theorem MakesAt.mono {ls ls' : List Location} {c : Change} (h : MakesAt ls c) (hls : ls ⊆ ls') :
    MakesAt ls' c := by
  obtain ⟨l, hl, rfl⟩ := h
  exact ⟨l, hls hl, rfl⟩

theorem makesAt_destination (j : Journal before) (p : Path) :
    MakesAt (before.way p) (.make (j.disk.destination p)) := by
  rw [Disk.destination_congr j.cwd]
  exact ⟨_, Disk.destination_mem_way .., rfl⟩

theorem mirrors_ensureDirectory (j : Journal before) (p : Path) :
    Mirrors (MakesAt (before.way p)) j (ensureDirectory j.disk p) (ensureDirectory j p) := by
  simp only [ensureDirectory, Disk.fileTree_makeDirectory, Disk.fileTree_isDirectory,
    fileTree_makeDirectory, fileTree_isDirectory]
  rcases j.makeDirectory_cases p with ⟨e, hplain, hnoted⟩ | ⟨d, hplain, hd, hnoted⟩
  · rw [hplain, hnoted]
    exact Mirrors.refl _ j _
  · rw [hplain, hnoted]
    exact mirrors_note (j.makesAt_destination p) hd _

theorem mirrors_makeDirectoriesWithin (p : Path) (depth : Nat) :
    ∀ j : Journal before, Mirrors (MakesAt (before.way p)) j
      (makeDirectoriesWithin j.disk p depth) (makeDirectoriesWithin j p depth) := by
  induction depth generalizing p with
  | zero => exact fun j => Mirrors.refl _ j _
  | succ depth ih =>
    intro j
    simp only [makeDirectoriesWithin, Disk.fileTree_makeDirectory, Disk.fileTree_isDirectory,
      fileTree_makeDirectory, fileTree_isDirectory]
    by_cases hempty : p.isEmpty
    · rw [if_pos hempty, if_pos hempty]
      exact Mirrors.refl _ j _
    rw [if_neg hempty, if_neg hempty]
    rcases j.makeDirectory_cases p with ⟨e, hplain, hnoted⟩ | ⟨d, hplain, hd, hnoted⟩
    swap
    · rw [hplain, hnoted]
      exact mirrors_note (j.makesAt_destination p) hd _
    rw [hplain, hnoted]
    cases e with
    | missing =>
      cases hparent : p.parent? with
      | none => exact Mirrors.refl _ j _
      | some above =>
        -- what is made above the path lies on its way
        have habove := (ih above j).mono fun c hc => hc.mono (Disk.way_parent? hparent before)
        obtain ⟨r, j₁, hplain, hnoted⟩ := habove.exists_eq
        rw [hplain, hnoted] at habove
        simp only [hplain, hnoted]
        cases r with
        | error e => exact habove
        | ok u => exact habove.trans (j₁.mirrors_ensureDirectory p)
    | _ => exact Mirrors.refl _ j _

theorem mirrors_makeDirectories (j : Journal before) (p : Path) :
    Mirrors (MakesAt (before.way p)) j (j.disk.makeDirectories p) (makeDirectories j p) :=
  mirrors_makeDirectoriesWithin p _ j

end Journal

end SpeechHost.Storage
