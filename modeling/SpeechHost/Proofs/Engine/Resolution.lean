import SpeechHost.Engine.Launch
import SpeechHost.Proofs.Storage.Spelling
import SpeechHost.Proofs.Storage.Walk
/-!
# Which program an identifier names

An identifier with a slash stands for itself, and any other is looked for along the search path
(`resolve?_iff_resolves`). The search itself goes by the components of the identifier and not by its
slashes, so it also looks for identifiers such as `/`, `./` and `x/.`, which have a single component. But
these end in a piece that names nothing. No file can be found at such a path, wherever it starts, and
none stands there by itself.
-/

namespace SpeechHost

open SpeechHost.Storage SpeechHost.Storage.Path

variable {w : World} {identifier : String}

/-- The places on a search path as they are written. -/
def listed (searchPath : Option String) : List String :=
  (searchPath.map fun places => (places.toList.splitOn ':').map String.ofList).getD []

/-- The file that an identifier names: the identifier itself if there is a slash in it, and otherwise
the first file of this name in a place on the search path. -/
inductive Resolves (d : Disk) (searchPath : Option String) (identifier : String) : Path → Prop
  | itself (hslash : '/' ∈ identifier.toList) (hfile : d.isFile (ofString identifier)) :
    Resolves d searchPath identifier (ofString identifier)
  | along (hslash : '/' ∉ identifier.toList) (hne : identifier ≠ "") (before : List String)
    (place : String) (after : List String) (hlisted : listed searchPath = before ++ place :: after)
    (hfile : d.isFile (ofString (behind place identifier)))
    (hfirst : ∀ other ∈ before, d.isFile (ofString (behind other identifier)) = false) :
    Resolves d searchPath identifier (ofString (behind place identifier))

theorem searchPlaces_eq (searchPath : Option String) :
    (searchPath.map searchPlaces).getD [] = (listed searchPath).map ofString := by
  cases searchPath with
  | none => rfl
  | some places => simp [searchPlaces, listed]

theorem isFile_eq_false_of_stay {d : Disk} {p : Path} {front : List String} {last : String}
    (hp : p.pieces = front ++ [last]) (hstay : isStay last) : d.isFile p = false := by
  by_contra hfile
  rw [Bool.not_eq_false] at hfile
  simp [Disk.not_isStay_of_isFile hfile hp] at hstay

theorem resolve?_of_slash (hslash : '/' ∈ identifier.toList) :
    resolve? w identifier =
      if w.disk.isFile (ofString identifier) then some (ofString identifier) else none := by
  have hne : identifier.isEmpty = false := by
    rw [String.isEmpty_eq_false_iff]
    rintro rfl
    simp at hslash
  simp only [resolve?, hne, Bool.false_eq_true, if_false]
  by_cases hlong : 1 < (ofString identifier).components.length
  · rw [if_pos hlong]
  · -- the identifier ends in a piece that names nothing, and so does whatever it is put behind
    obtain ⟨front, last, hp, hstay⟩ :=
      exists_stay_of_components (two_le_length_ofString hslash) (by omega)
    rw [if_neg hlong, isFile_eq_false_of_stay hp hstay, if_neg (by simp)]
    rw [List.find?_eq_none, List.forall_mem_map]
    intro place _
    obtain ⟨before, hbefore⟩ := exists_pieces_join place (ofString identifier)
    rw [hp, ← List.append_assoc] at hbefore
    simp [isFile_eq_false_of_stay hbefore hstay]

theorem resolve?_of_bare (hslash : '/' ∉ identifier.toList) (hne : identifier ≠ "") :
    resolve? w identifier =
      ((listed w.searchPath).map fun place => ofString (behind place identifier)).find?
        w.disk.isFile := by
  have hshort : ¬ 1 < (ofString identifier).components.length := by
    rw [ofString_of_notMem hslash]
    by_cases hhere : identifier = "."
    · simp [components, body, lead, hhere]
    · simp [components, body, lead, hhere, hne, isStay]
  have hempty : identifier.isEmpty = false := String.isEmpty_eq_false_iff.2 hne
  have hjoin : (fun place => (ofString place).join (ofString identifier)) =
      fun place => ofString (behind place identifier) :=
    funext fun place => join_ofString place hslash
  simp only [resolve?, hempty, Bool.false_eq_true, if_false, if_neg hshort]
  rw [searchPlaces_eq, List.map_map, ← hjoin]
  rfl

theorem resolve?_empty : resolve? w "" = none := by
  simp [resolve?]

theorem resolve?_eq_some_iff {p : Path} :
    resolve? w identifier = some p ↔ Resolves w.disk w.searchPath identifier p := by
  by_cases hslash : '/' ∈ identifier.toList
  · rw [resolve?_of_slash hslash]
    constructor
    · intro h
      split_ifs at h with hfile
      exact Option.some.inj h ▸ .itself hslash hfile
    · rintro (⟨-, hfile⟩ | ⟨hbare, -⟩)
      · rw [if_pos hfile]
      · contradiction
  by_cases hne : identifier = ""
  · subst hne
    rw [resolve?_empty]
    constructor
    · intro h
      contradiction
    · rintro (⟨hmem, -⟩ | ⟨-, hnonempty, -⟩)
      · contradiction
      · contradiction
  · rw [resolve?_of_bare hslash hne, List.find?_eq_some_iff_append]
    constructor
    · rintro ⟨hfile, found, rest, hsplit, hfirst⟩
      obtain ⟨before, tail, hlisted, rfl, htail⟩ := List.map_eq_append_iff.1 hsplit
      obtain ⟨place, after, rfl, rfl, rfl⟩ := List.map_eq_cons_iff.1 htail
      refine .along hslash hne before place after hlisted hfile fun other hother => ?_
      simpa using hfirst _ (List.mem_map_of_mem hother)
    · rintro (⟨hmem, -⟩ | ⟨-, -, before, place, after, hlisted, hfile, hfirst⟩)
      · contradiction
      · refine ⟨hfile, before.map fun place => ofString (behind place identifier),
          after.map fun place => ofString (behind place identifier), by simp [hlisted], ?_⟩
        rw [List.forall_mem_map]
        intro other hother
        simp [hfirst other hother]

theorem resolve?_eq_none_iff (hslash : '/' ∉ identifier.toList) (hne : identifier ≠ "") :
    resolve? w identifier = none ↔
      ∀ place ∈ listed w.searchPath, w.disk.isFile (ofString (behind place identifier)) = false := by
  rw [resolve?_of_bare hslash hne, List.find?_eq_none, List.forall_mem_map]
  simp only [Bool.not_eq_true]

/-- What is found is the file that the identifier names. An identifier with a slash names itself if it is
the path of a file, and otherwise nothing, whatever the search path. Any other identifier that is not empty
names the first file among those behind the places on the search path, and nothing if there is none. -/
theorem resolve?_iff_resolves (w : World) (identifier : String) :
    (∀ p, resolve? w identifier = some p ↔ Resolves w.disk w.searchPath identifier p) ∧
      ('/' ∈ identifier.toList → ∀ searchPath,
        resolve? { w with searchPath } identifier =
          if w.disk.isFile (ofString identifier) then some (ofString identifier) else none) ∧
      ('/' ∉ identifier.toList → identifier ≠ "" →
        (resolve? w identifier = none ↔ ∀ place ∈ listed w.searchPath,
          w.disk.isFile (ofString (behind place identifier)) = false)) :=
  ⟨fun _ => resolve?_eq_some_iff, fun hslash _ => resolve?_of_slash hslash, resolve?_eq_none_iff⟩

/-- A world with a program in a directory at the end of the search path, and a directory of the same
name in one before. -/
def twoShelves : World where
  disk := ⟨["home"], [(["home"], .directory), (["bin"], .directory), (["bin", "say"], .directory),
    (["opt"], .directory), (["opt", "say"], .file [])]⟩
  searchPath := some "/bin::/opt/"
  journal := []

/-- A directory is passed over, and so is an empty place where there is no file. A dot behind the name
of a file finds nothing. -/
theorem resolve?_iff_resolves_twoShelves :
    '/' ∉ "say".toList ∧ "say" ≠ "" ∧ '/' ∈ "say/.".toList ∧
      resolve? twoShelves "say" = some (ofString "/opt/say") ∧
      resolve? { twoShelves with searchPath := some "/opt" } "say/." = none ∧
      resolve? { twoShelves with searchPath := some "/bin:" } "say" = none := by
  have hbare : '/' ∉ "say".toList := by decide
  have hslash : '/' ∈ "say/.".toList := by decide
  have hshelves : listed (some "/bin::/opt/") = ["/bin", ""] ++ "/opt/" :: [] := by decide +kernel
  have hcut : listed (some "/bin:") = ["/bin", ""] := by decide +kernel
  have hfile : twoShelves.disk.isFile (ofString (behind "/opt/" "say")) = true := by decide +kernel
  have hnone : ∀ place ∈ ["/bin", ""],
      twoShelves.disk.isFile (ofString (behind place "say")) = false := by decide +kernel
  have hstay : twoShelves.disk.isFile (ofString "say/.") = false := by decide +kernel
  obtain ⟨hresolves, -, -⟩ := resolve?_iff_resolves twoShelves "say"
  obtain ⟨-, hitself, -⟩ := resolve?_iff_resolves twoShelves "say/."
  obtain ⟨-, -, hsearch⟩ := resolve?_iff_resolves { twoShelves with searchPath := some "/bin:" } "say"
  refine ⟨hbare, by decide, hslash, ?_, ?_, ?_⟩
  · exact (hresolves _).2 (.along hbare (by decide) _ _ _ hshelves hfile hnone)
  · rw [hitself hslash, hstay]
    rfl
  · rw [hsearch hbare (by decide), hcut]
    exact hnone

end SpeechHost
