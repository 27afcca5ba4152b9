/-!
# Paths as they are written

A path is the list of pieces between its slashes, so nothing of its spelling is lost: `a//b/` is
`["a", "", "b", ""]`. What a path *names* ignores empty pieces and single dots; what it *says* is
kept, since messages and later lookups show it.
-/

namespace SpeechHost.Storage

/-- The pieces between the slashes of a path; a leading empty piece with others behind it makes
the path absolute. -/
structure Path where
  pieces : List String
  deriving DecidableEq, Repr

inductive Component where
  | top
  /-- A leading dot. -/
  | here
  | up
  | name (s : String)
  deriving DecidableEq, Repr

namespace Path

def cut : List Char → List (List Char)
  | [] => [[]]
  | c :: cs =>
    match cut cs with
    | [] => [[c]]
    | piece :: rest => if c == '/' then [] :: piece :: rest else (c :: piece) :: rest

def ofString (s : String) : Path :=
  ⟨(cut s.toList).map String.ofList⟩

def toString (p : Path) : String :=
  "/".intercalate p.pieces

instance : ToString Path := ⟨toString⟩

def empty : Path := ⟨[""]⟩

def isAbsolute (p : Path) : Bool :=
  match p.pieces with
  | "" :: _ :: _ => true
  | _ => false

def isEmpty (p : Path) : Bool :=
  p.pieces.all (·.isEmpty) && p.pieces.length ≤ 1

/-- Pieces that name nothing further. -/
def isStay (piece : String) : Bool :=
  piece == "" || piece == "."

/-- The part of a path that all others follow: the slash of an absolute path, or a leading dot. -/
def lead (p : Path) : List String :=
  match p.pieces with
  | "" :: _ :: _ => [""]
  | "." :: _ => ["."]
  | _ => []

def body (p : Path) : List String :=
  p.pieces.drop p.lead.length

/-- Drops the pieces at the end that name nothing. -/
def trimTail (pieces : List String) : List String :=
  (pieces.reverse.dropWhile isStay).reverse

/-- Puts a lead in front of pieces; the top of the tree is written as one slash. -/
def ofLead (lead body : List String) : Path :=
  match lead, body with
  | [""], [] => ⟨["", ""]⟩
  | [], [] => empty
  | lead, body => ⟨lead ++ body⟩

def components (p : Path) : List Component :=
  let lead := match p.lead with
    | [""] => [.top]
    | ["."] => [.here]
    | _ => []
  lead ++ (p.body.filter (!isStay ·)).map fun piece => if piece == ".." then .up else .name piece

/-- The path without its last component. -/
def parent? (p : Path) : Option Path :=
  match trimTail p.body, p.lead with
  | [], ["."] => some empty
  | [], _ => none
  | body, lead => some (ofLead lead (trimTail body.dropLast))

/-- The name at the end of a path, unless the path ends in two dots or at the top. -/
def fileName? (p : Path) : Option String :=
  match (trimTail p.body).getLast? with
  | some ".." => none
  | last => last

/-- A path seen from another one: an absolute path stands for itself. -/
def join (base p : Path) : Path :=
  if p.isAbsolute || base.isEmpty then p
  else match base.pieces.getLast? with
    | some "" => ⟨base.pieces.dropLast ++ p.pieces⟩
    | _ => ⟨base.pieces ++ p.pieces⟩

/-- The path with `ending` written right behind it. -/
def append (p : Path) (ending : String) : Path :=
  match p.pieces.getLast? with
  | some last => ⟨p.pieces.dropLast ++ [last ++ ending]⟩
  | none => ⟨[ending]⟩

theorem cut_ne_nil (cs : List Char) : cut cs ≠ [] := by
  induction cs with
  | nil => simp [cut]
  | cons c cs ih =>
    rw [cut]
    split
    · simp
    · split <;> simp

theorem intercalate_cut (cs : List Char) : ['/'].intercalate (cut cs) = cs := by
  induction cs with
  | nil => rfl
  | cons c cs ih =>
    rw [cut]
    split
    · next h => exact absurd h (cut_ne_nil cs)
    · next piece rest h =>
      rw [h] at ih
      split
      · next hc =>
        obtain rfl := beq_iff_eq.1 hc
        simp [ih]
      · subst ih
        cases rest <;> simp

theorem toString_ofString (s : String) : (ofString s).toString = s := by
  rw [← String.toList_inj, toString, String.toList_intercalate]
  simpa [ofString] using intercalate_cut s.toList

end Path

end SpeechHost.Storage
