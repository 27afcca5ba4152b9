import Mathlib.Data.List.Induction
import Mathlib.Data.List.TakeDrop
import Mathlib.Data.List.TakeWhile
import SpeechHost.Proofs.Outcome
import SpeechHost.Settings.Load
/-!
# Which source a setting comes from

Sources are laid on in order, and a source says what the last of its entries says. What reaches into
a key leaves no text there, so a text under a key was put there by an entry that is named like the key, and
no stronger source has such an entry (`layAllOn_text`). Hence settings that could be loaded hold, under each
key, what the strongest source says that says anything, and they are usable; settings that could not be
loaded are replaced by the usable standard ones (`load_layered`). This holds whichever formats files may have,
and in whichever order they are looked for.
-/

namespace SpeechHost.Settings

open SpeechHost.Storage SpeechHost.Text

variable {k : Key} {path text : String} {l : Layer} {draft : Draft} {d : Disk} {u : User} {s : Settings}
  {formats : List FileFormat} {place : Path}

/-! ## What sources say -/

/-- What a file says about a key: the value of the last entry that is named like it. -/
def Layer.said? (l : Layer) (k : Key) : Option Value :=
  (l.entries.filter (·.1 == k.name)).getLast?.map (·.2)

/-- The settings file of a place is the first one there is in the order of the formats. A file without an
ending hides the others. -/
structure FileStands (formats : List FileFormat) (d : Disk) (place : Path) (f : FileFormat) : Prop where
  bare : d.isFile place = false
  file : d.isFile (place.append f.ending)
  first : ∃ before after, formats = before ++ f :: after ∧
    ∀ g ∈ before, d.isFile (place.append g.ending) = false

/-- What the settings file of a place says. If there is none, or it cannot be read, it says nothing; otherwise
it must be written in its format. -/
inductive FileSays (formats : List FileFormat) (d : Disk) (place : Path) : Layer → Prop
  | absent (h : ∀ f, ¬ FileStands formats d place f) : FileSays formats d place ⟨none, []⟩
  | unreadable {f : FileFormat} (h : FileStands formats d place f) {fault : Fault}
    (hcontent : d.read (place.append f.ending) = .error fault) : FileSays formats d place ⟨none, []⟩
  | written {f : FileFormat} (h : FileStands formats d place f) {content : Bytes}
    {entries : List (String × Value)} (hcontent : d.read (place.append f.ending) = .ok content)
    (hread : f.read? (textOf content) = some (.table entries)) :
    FileSays formats d place ⟨some (shownPath d (place.append f.ending)), entries⟩

/-- What the environment says about a key: the value of the last variable whose name is that of the key
behind the mark, in either case. -/
def variableSaid? (e : Environment) (k : Key) : Option Value :=
  (e.bindings.filter fun b => lowercase b.1 == "picotts_" ++ k.name).getLast?.map (.text ·.2)

/-- A text under a key is settled by sources, the strongest first, and by what stands below them. It is the
text of what the first source says that says anything about the key. -/
def Settled (sources : List (Key → Option Value)) (below : Settings) (k : Key) (text : String) : Prop :=
  match sources.findSome? (· k) with
  | some v => v.toText = .ok text
  | none => text = below.get k

/-- Settings that name an engine by more than blanks, and a voice data root that ends in a slash. -/
structure Usable (s : Settings) : Prop where
  engine : ∃ c ∈ s.engineBinary.toList, isBlank c = false
  root : s.voiceDataRoot.toList.getLast? = some '/'

def workPlace : Path := .ofString "PicoTts"

def homePlace (e : Environment) : Path :=
  .ofString ((e.get? "HOME").getD "" ++ "/.config/picotts-ng/PicoTts")

/-! ## Keys and their paths -/

theorem target?_name (k : Key) : target? k.name = some (k, none) := by
  cases k <;> decide +kernel

theorem name_of_ofName? (h : Key.ofName? path = some k) : path = k.name := by
  have hname := List.find?_some h
  exact (beq_iff_eq.1 hname).symm

theorem name_of_target? (h : target? path = some (k, none)) : path = k.name := by
  unfold target? at h
  simp only [List.span_eq_takeWhile_dropWhile] at h
  obtain ⟨k', hname, hrest⟩ := Option.bind_eq_some_iff.1 h
  split_ifs at hrest
  obtain ⟨rfl, hreach⟩ := Prod.mk.inj (Option.some.inj hrest)
  have hnil : path.toList.dropWhile isNameChar = [] := by
    cases hcs : path.toList.dropWhile isNameChar with
    | nil => rfl
    | cons c cs =>
      rw [hcs] at hreach
      split at hreach
      · contradiction
      · contradiction
      · contradiction
  have hall : path.toList.takeWhile isNameChar ++ path.toList.dropWhile isNameChar = path.toList :=
    List.takeWhile_append_dropWhile
  rw [hnil, List.append_nil] at hall
  rw [hall, String.ofList_toList] at hname
  exact name_of_ofName? hname

/-! ## Laying on -/

/-- The layer with another entry behind. -/
def Layer.snoc (l : Layer) (entry : String × Value) : Layer :=
  { l with entries := l.entries ++ [entry] }

theorem Layer.said?_snoc (entry : String × Value) :
    (l.snoc entry).said? k = if entry.1 = k.name then some entry.2 else l.said? k := by
  by_cases hname : entry.1 = k.name
  · simp [said?, snoc, hname]
  · simp [said?, snoc, hname]

theorem Layer.layOn_snoc (entry : String × Value) :
    (l.snoc entry).layOn draft =
      match l.effect entry with
      | some (k', f) => (l.layOn draft).change k' f
      | none => l.layOn draft := by
  have heffect : (l.snoc entry).effect = l.effect := rfl
  unfold layOn
  rw [heffect]
  simp only [snoc, List.filterMap_append]
  cases h : l.effect entry with
  | none => simp [h]
  | some e => simp [h]

theorem toText_of_holding {origin : Option String} {v : Value} (h : v.holding origin = .text text) :
    v.toText = .ok text := by
  unfold Value.holding at h
  split at h
  · next hv =>
    obtain rfl := Holding.text.inj h
    exact hv
  · contradiction
  · contradiction

theorem enter_ne_text (h : Holding) (r : Reach) : h.enter r ≠ .text text := by
  unfold Holding.enter
  cases r with
  | member => simp
  | item =>
    dsimp only
    split <;> simp

/-- A text under a key was put there by the layer if it has an entry named like the key, and stood there
before if it has none. -/
theorem Layer.layOn_text (h : l.layOn draft k = .text text) :
    match l.said? k with
    | some v => v.toText = .ok text
    | none => draft k = .text text := by
  obtain ⟨origin, entries⟩ := l
  induction entries using List.reverseRecOn with
  | nil => exact h
  | append_singleton entries entry ih =>
    change (snoc ⟨origin, entries⟩ entry).layOn draft k = .text text at h
    change match (snoc ⟨origin, entries⟩ entry).said? k with
      | some v => v.toText = .ok text
      | none => draft k = .text text
    rw [layOn_snoc] at h
    rw [said?_snoc]
    cases htarget : target? entry.1 with
    | none =>
      have hother : entry.1 ≠ k.name := by
        intro hname
        simp [hname, target?_name] at htarget
      simp only [effect, htarget, Option.map_none] at h
      rw [if_neg hother]
      exact ih h
    | some target =>
      obtain ⟨k', reach⟩ := target
      simp only [effect, htarget, Option.map_some, Draft.change] at h
      by_cases hkey : k = k'
      · subst hkey
        rw [if_pos rfl] at h
        cases reach with
        | none =>
          rw [if_pos (name_of_target? htarget)]
          exact toText_of_holding h
        | some r => exact absurd h (enter_ne_text _ r)
      · have hother : entry.1 ≠ k.name := by
          intro hname
          rw [hname, target?_name] at htarget
          simp at htarget
          exact hkey htarget.1
        rw [if_neg hkey] at h
        rw [if_neg hother]
        exact ih h

/-- A text under a key, after layers were laid on, is what the strongest of them says. -/
theorem layAllOn_text {layers : List Layer} (h : layAllOn layers draft k = .text text) :
    match (layers.reverse.map Layer.said?).findSome? (· k) with
    | some v => v.toText = .ok text
    | none => draft k = .text text := by
  induction layers using List.reverseRecOn with
  | nil => exact h
  | append_singleton layers l ih =>
    have hlast : l.layOn (layAllOn layers draft) k = .text text := by
      simpa [layAllOn, List.foldl_append] using h
    have htop := Layer.layOn_text hlast
    rw [List.reverse_append, List.reverse_singleton, List.singleton_append, List.map_cons,
      List.findSome?_cons]
    cases hsaid : l.said? k with
    | some v => simpa [hsaid] using htop
    | none =>
      simp only [hsaid] at htop ⊢
      exact ih htop

/-! ## Variables -/

theorem marked_iff (name : String) (k : Key) :
    (variableMark.isPrefixOf name.toList = true ∧
        String.ofList (name.toList.drop variableMark.length) = k.name) ↔
      name = "picotts_" ++ k.name := by
  have hmark : ("picotts_" ++ k.name).toList = variableMark ++ k.name.toList := by
    rw [String.toList_append]
    rfl
  rw [List.isPrefixOf_iff_prefix]
  constructor
  · rintro ⟨⟨rest, hrest⟩, hname⟩
    rw [← hrest, List.drop_left] at hname
    rw [← String.toList_inj, hmark, ← hname, String.toList_ofList, hrest]
  · rintro rfl
    rw [hmark, List.drop_left, String.ofList_toList]
    exact ⟨List.prefix_append _ _, rfl⟩

theorem environmentLayer_said? (e : Environment) : (environmentLayer e).said? = variableSaid? e := by
  funext k
  have hentries : (environmentLayer e).entries.filter (·.1 == k.name) =
      (e.bindings.filter fun b => lowercase b.1 == "picotts_" ++ k.name).map
        fun b => (k.name, .text b.2) := by
    rw [environmentLayer, List.filter_filterMap, ← List.filterMap_eq_map, List.filterMap_filter]
    refine congrArg (fun f => e.bindings.filterMap f) (funext fun b => ?_)
    have hmarked := marked_iff (lowercase b.1) k
    dsimp only
    by_cases hname : lowercase b.1 = "picotts_" ++ k.name
    · obtain ⟨hmark, hkey⟩ := hmarked.2 hname
      rw [if_pos hmark, hkey, if_pos (beq_iff_eq.2 hname)]
      simp
    · by_cases hmark : variableMark.isPrefixOf (lowercase b.1).toList = true
      · have hkey : String.ofList ((lowercase b.1).toList.drop variableMark.length) ≠ k.name :=
          fun hkey => hname (hmarked.1 ⟨hmark, hkey⟩)
        simp [hkey, hname]
      · simp [hmark, hname]
  unfold Layer.said? variableSaid?
  rw [hentries, List.getLast?_map, Option.map_map]
  rfl

/-! ## Usable settings -/

theorem trimChars_eq_nil_iff {cs : List Char} : trimChars cs = [] ↔ ∀ c ∈ cs, isBlank c := by
  have hends : trimChars cs = [] ↔ ∀ c ∈ cs.dropWhile isBlank, isBlank c := by
    simp [trimChars, List.dropWhile_eq_nil_iff]
  rw [hends]
  constructor
  · intro hblank
    -- the first character that is left would be none that is blank
    have hnil : cs.dropWhile isBlank = [] := by
      cases hleft : cs.dropWhile isBlank with
      | nil => rfl
      | cons c rest =>
        have hfirst := List.head_dropWhile_not isBlank (by simp [hleft] : cs.dropWhile isBlank ≠ [])
        rw [hblank _ (List.head_mem _)] at hfirst
        contradiction
    exact List.dropWhile_eq_nil_iff.1 hnil
  · exact fun hblank c hc => hblank c (List.dropWhile_subset _ hc)

theorem trim_isEmpty_iff (s : String) : (trim s).isEmpty ↔ ∀ c ∈ s.toList, isBlank c := by
  rw [← trimChars_eq_nil_iff, String.isEmpty_iff, trim, ← String.toList_inj]
  simp

theorem check_ok_iff : s.check = .ok () ↔ s.Usable := by
  have hengine : (∃ c ∈ s.engineBinary.toList, isBlank c = false) ↔
      ¬ (trim s.engineBinary).isEmpty := by
    rw [trim_isEmpty_iff]
    simp
  unfold check
  constructor
  · intro h
    split_ifs at h with hblank hroot
    exact ⟨hengine.2 hblank, by simpa using hroot⟩
  · rintro ⟨hnamed, hroot⟩
    rw [if_neg (hengine.1 hnamed), if_neg (by simp [hroot])]

theorem usable_standard (u : User) : (standard u).Usable := by
  have hengine : ∃ c ∈ "pico2wave".toList, isBlank c = false := ⟨'p', by decide, by decide⟩
  exact ⟨hengine, by simp [standard]⟩

/-! ## Files -/

theorem fileAt?_eq_some_iff {p : Path} {f : FileFormat} :
    fileAt? formats d place = some (p, f) ↔ p = place.append f.ending ∧ FileStands formats d place f := by
  cases hbare : d.isFile place with
  | true =>
    refine ⟨fun h => by simp [fileAt?, hbare] at h, ?_⟩
    rintro ⟨-, hfree, -⟩
    simp [hbare] at hfree
  | false =>
    simp only [fileAt?, hbare, Bool.false_eq_true, if_false, List.find?_map, Option.map_eq_some_iff,
      List.find?_eq_some_iff_append, Prod.mk.injEq]
    constructor
    · rintro ⟨f', ⟨hfile, before, after, rfl, hfirst⟩, rfl, rfl⟩
      exact ⟨rfl, hbare, hfile, before, after, rfl, fun g hg => by simpa using hfirst g hg⟩
    · rintro ⟨rfl, -, hfile, before, after, rfl, hfirst⟩
      exact ⟨f, ⟨hfile, before, after, rfl, fun g hg => by simpa using hfirst g hg⟩, rfl, rfl⟩

theorem fileAt?_eq_none_iff :
    fileAt? formats d place = none ↔ ∀ f, ¬ FileStands formats d place f := by
  constructor
  · intro hnone f hstands
    rw [fileAt?_eq_some_iff.2 ⟨rfl, hstands⟩] at hnone
    contradiction
  · intro hnone
    rw [Option.eq_none_iff_forall_ne_some]
    exact fun r hsome => hnone _ (fileAt?_eq_some_iff.1 hsome).2

theorem fileLayer_ok_iff : fileLayer formats d place = .ok l ↔ FileSays formats d place l := by
  unfold fileLayer
  constructor
  · intro h
    split at h
    · next hnone =>
      obtain rfl := Except.ok.inj h
      exact .absent (fileAt?_eq_none_iff.1 hnone)
    · next p f hsome =>
      obtain ⟨rfl, hstands⟩ := fileAt?_eq_some_iff.1 hsome
      split at h
      · next fault hcontent =>
        obtain rfl := Except.ok.inj h
        exact .unreadable hstands hcontent
      · next content hcontent =>
        dsimp only at h
        split at h
        · next entries hread =>
          obtain rfl := Except.ok.inj h
          exact .written hstands hcontent hread
        · contradiction
  · intro h
    cases h with
    | absent hnone => rw [fileAt?_eq_none_iff.2 hnone]
    | unreadable hstands hcontent =>
      rw [fileAt?_eq_some_iff.2 ⟨rfl, hstands⟩]
      simp only [hcontent]
    | written hstands hcontent hread =>
      rw [fileAt?_eq_some_iff.2 ⟨rfl, hstands⟩]
      simp only [hcontent, hread]

theorem fileSays_iff {l' : Layer} (h : fileLayer formats d place = .ok l) :
    FileSays formats d place l' ↔ l' = l := by
  rw [← fileLayer_ok_iff, h, Except.ok.injEq, eq_comm]

/-! ## Loading -/

theorem toSettings_ok (h : draft.toSettings = .ok s) (k : Key) : draft k = .text (s.get k) := by
  unfold Draft.toSettings at h
  split at h
  · contradiction
  · next hnone =>
    obtain rfl := Except.ok.inj h
    have hk := List.findSome?_eq_none_iff.1 hnone k (by cases k <;> decide)
    rw [get_ofTexts, Draft.text]
    unfold Draft.misfit? at hk
    split at hk
    · next htext => rw [htext]
    · contradiction

theorem layers_ok {ls : List Layer} {e : Environment} (h : layers formats d e = .ok ls) :
    ∃ inWork inHome, fileLayer formats d workPlace = .ok inWork ∧
      fileLayer formats d (homePlace e) = .ok inHome ∧ ls = [inWork, inHome, environmentLayer e] := by
  obtain ⟨files, hfiles, hls⟩ := bind_ok h
  simp only [places, List.mapM_cons, List.mapM_nil] at hfiles
  obtain ⟨inWork, hwork, hrest⟩ := bind_ok hfiles
  obtain ⟨others, hothers, hcons⟩ := bind_ok hrest
  obtain ⟨inHome, hhome, hlast⟩ := bind_ok hothers
  obtain rfl := Except.ok.inj hlast
  obtain rfl := Except.ok.inj hcons
  exact ⟨inWork, inHome, hwork, hhome, (Except.ok.inj hls).symm⟩

theorem loadWith_ok (h : loadWith formats d u = .ok s) :
    ∃ inWork inHome, fileLayer formats d workPlace = .ok inWork ∧
      fileLayer formats d (homePlace u.toEnvironment) = .ok inHome ∧
      (∀ k, layAllOn [inWork, inHome, environmentLayer u.toEnvironment] (standard u).toDraft k = .text (s.get k)) ∧
      s.Usable := by
  obtain ⟨ls, hls, hrest⟩ := bind_ok h
  obtain ⟨s', hs', hcheck⟩ := bind_ok hrest
  obtain ⟨inWork, inHome, hwork, hhome, rfl⟩ := layers_ok hls
  split at hcheck
  · next hok =>
    obtain rfl := Except.ok.inj hcheck
    exact ⟨inWork, inHome, hwork, hhome, toSettings_ok hs', check_ok_iff.1 hok⟩
  · contradiction

/-- Settings that could be loaded hold under each key what the strongest source says that says anything,
the environment before the file in the user's home, this before the file in the working directory, and what
every host starts with if none does; and they are usable. When they could not be loaded, the host goes on
with what every host starts with. So the settings that it goes on with pass the check in any case. -/
theorem load_layered (formats : List FileFormat) (d : Disk) (u : User) :
    (∀ s, loadWith formats d u = .ok s → effectiveWith formats d u = (s, none) ∧ s.Usable ∧
      ∃ inWork inHome, (∀ l, FileSays formats d workPlace l ↔ l = inWork) ∧
        (∀ l, FileSays formats d (homePlace u.toEnvironment) l ↔ l = inHome) ∧
        ∀ k, Settled [variableSaid? u.toEnvironment, inHome.said?, inWork.said?] (standard u) k (s.get k)) ∧
      (∀ error, loadWith formats d u = .error error →
        effectiveWith formats d u = (standard u, some error)) ∧
      (standard u).check = .ok () ∧ (effectiveWith formats d u).1.check = .ok () := by
  have hstandard : (standard u).check = .ok () := check_ok_iff.2 (usable_standard u)
  refine ⟨fun s hs => ?_, fun error herror => ?_, hstandard, ?_⟩
  · obtain ⟨inWork, inHome, hwork, hhome, htexts, husable⟩ := loadWith_ok hs
    refine ⟨by simp [effectiveWith, hs], husable, inWork, inHome, fun l => fileSays_iff hwork,
      fun l => fileSays_iff hhome, fun k => ?_⟩
    have htext := layAllOn_text (htexts k)
    simp only [List.reverse_cons, List.reverse_nil, List.nil_append, List.cons_append, List.map_cons,
      List.map_nil, environmentLayer_said?] at htext
    unfold Settled
    split at htext
    · exact htext
    · exact (Holding.text.inj htext).symm
  · simp [effectiveWith, herror]
  · cases hload : loadWith formats d u with
    | ok s =>
      obtain ⟨-, -, -, -, -, husable⟩ := loadWith_ok hload
      simpa [effectiveWith, hload] using check_ok_iff.2 husable
    | error error => simpa [effectiveWith, hload] using hstandard

def sampleUser : User :=
  (⟨[("HOME", "/home"), ("PICOTTS_ENGINE_BINARY", "espeak-ng"), ("Picotts_Engine_Binary", "flite")]⟩ :
    Environment)

/-- A tree with a settings file in the working directory and one in the home. -/
def sampleTree : Disk :=
  ⟨["work"], [(["work"], .directory), (["home"], .directory), (["home", ".config"], .directory),
    (["home", ".config", "picotts-ng"], .directory),
    (["work", "PicoTts.json"], .file
      "\x7b\"engine_binary\":\"a\",\"log_level\":\"warn\",\"engine_config\":1\x7d".toUTF8.toList),
    (["home", ".config", "picotts-ng", "PicoTts.toml"], .file
      "# of the user\nengine_config = true\nengine_binary = \"festival\"\n".toUTF8.toList)]⟩

/-- A user who names a blank engine, and no home beside that of the account. -/
def blankUser : User :=
  ⟨⟨[("PICOTTS_ENGINE_BINARY", " ")]⟩, some "/root"⟩

theorem load_layered_sample :
    ∃ s, loadWith documented sampleTree sampleUser = .ok s ∧
      s.engineBinary = "flite" ∧ s.engineConfig = "true" ∧ s.logLevel = "warn" ∧
      effectiveWith documented sampleTree sampleUser = (s, none) ∧ s.Usable ∧
      loadWith documented sampleTree blankUser = .error (.useless .noEngine) ∧
      effectiveWith documented sampleTree blankUser = (standard blankUser, some (.useless .noEngine)) ∧
      (standard blankUser).voiceDataRoot = "/root/.local/share/picotts-ng/" := by
  have hload : loadWith documented sampleTree sampleUser = .ok
      { engineBinary := "flite"
        engineConfig := "true"
        voiceDataRoot := "/home/.local/share/picotts-ng/"
        systemLingwarePath := "/usr/share/pico/lang/"
        langpackArchive := "/home/.cache/picotts-ng/svoxlangpack.zip"
        logLevel := "warn" } := by
    decide +kernel
  have hblank : loadWith documented sampleTree blankUser = .error (.useless .noEngine) := by decide +kernel
  obtain ⟨hloaded, -⟩ := load_layered documented sampleTree sampleUser
  obtain ⟨-, hfailed, -⟩ := load_layered documented sampleTree blankUser
  obtain ⟨heffective, husable, -⟩ := hloaded _ hload
  exact ⟨_, hload, rfl, rfl, rfl, heffective, husable, hblank, hfailed _ hblank, by decide +kernel⟩

end SpeechHost.Settings
